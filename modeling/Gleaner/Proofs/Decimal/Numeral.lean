import Gleaner.Decimal.Text

/-! Numbers as they are written, and what is read back from them. -/

namespace Gleaner.Decimal

/-- The parts of a number as it is written: digits, perhaps more of them after a point, perhaps an
exponent with its sign. -/
structure Numeral where
  negative : Bool
  whole : List Char
  fraction : List Char
  exponent : Option (Bool × List Char)

namespace Numeral

variable {n : Numeral} {ds rest : List Char} {c : Char}

def signText (negative : Bool) : List Char := if negative then ['-'] else []

def fractionText : List Char → List Char
  | [] => []
  | d :: ds => '.' :: d :: ds

def exponentText : Option (Bool × List Char) → List Char
  | none => []
  | some (down, es) => 'e' :: (if down then '-' else '+') :: es

def text (n : Numeral) : List Char :=
  signText n.negative ++ (n.whole ++ (fractionText n.fraction ++ exponentText n.exponent))

def power : Option (Bool × List Char) → Int
  | none => 0
  | some (down, es) => if down then -(natOf es : Int) else natOf es

def literal (n : Numeral) : Literal := ⟨n.negative, n.whole, n.fraction, power n.exponent⟩

def Digits (ds : List Char) : Prop := ∀ c ∈ ds, c.isDigit = true

/-- There are digits before the point, the first of several is no zero, and an exponent has
digits. -/
structure Proper (n : Numeral) : Prop where
  whole : Digits n.whole
  leading : n.whole = ['0'] ∨ ∃ c ds, n.whole = c :: ds ∧ c ≠ '0'
  fraction : Digits n.fraction
  exponent : ∀ down es, n.exponent = some (down, es) → es ≠ [] ∧ Digits es

theorem Proper.exists_cons (h : n.Proper) : ∃ c ds, n.whole = c :: ds ∧ c.isDigit = true := by
  have hwhole := h.whole
  rcases h.leading with hzero | ⟨c, ds, hcons, -⟩
  · exact ⟨'0', [], hzero, rfl⟩
  · exact ⟨c, ds, hcons, hwhole c (by rw [hcons]; exact List.mem_cons_self)⟩

/-- A number without an exponent. -/
theorem proper_plain {negative : Bool} {whole fraction : List Char} (hwhole : Digits whole)
    (hleading : whole = ['0'] ∨ ∃ c ds, whole = c :: ds ∧ c ≠ '0') (hfraction : Digits fraction) :
    Proper ⟨negative, whole, fraction, none⟩ :=
  ⟨hwhole, hleading, hfraction, nofun⟩

/-- What follows digits is not part of them. -/
def noDigit : List Char → Bool
  | [] => true
  | c :: _ => !c.isDigit

theorem takeWhile_digits (h : Digits ds) (hrest : noDigit rest) :
    (ds ++ rest).takeWhile Char.isDigit = ds := by
  rw [List.takeWhile_append_of_pos h]
  cases rest with
  | nil => simp
  | cons c rest => simp_all [noDigit]

theorem dropWhile_digits (h : Digits ds) (hrest : noDigit rest) :
    (ds ++ rest).dropWhile Char.isDigit = rest := by
  rw [List.dropWhile_append_of_pos h]
  cases rest with
  | nil => rfl
  | cons c rest => simp_all [noDigit]

theorem noDigit_exponentText (e : Option (Bool × List Char)) : noDigit (exponentText e) := by
  cases e <;> rfl

theorem noDigit_fractionText (ds : List Char) (e : Option (Bool × List Char)) :
    noDigit (fractionText ds ++ exponentText e) := by
  cases ds with
  | nil => exact noDigit_exponentText e
  | cons d ds => rfl

theorem signOf_text (h : n.Proper) :
    signOf n.text =
      (n.negative, n.whole ++ (fractionText n.fraction ++ exponentText n.exponent)) := by
  obtain ⟨c, ds, hwhole, hc⟩ := h.exists_cons
  cases hsign : n.negative with
  | true => simp [text, hsign, signText, signOf]
  | false =>
    simp only [text, hsign, signText, hwhole, List.cons_append, List.nil_append,
      Bool.false_eq_true, if_false]
    unfold signOf
    split
    next heq => cases heq; cases hc
    next heq => cases heq; cases hc
    next => rfl

theorem signOf_sign (down : Bool) (es : List Char) :
    signOf ((if down then '-' else '+') :: es) = (down, es) := by
  cases down <;> rfl

/-- A number as it is written reads as its parts. -/
theorem literal?_text (h : n.Proper) : literal? n.text = some n.literal := by
  obtain ⟨c, ds, hcons, -⟩ := h.exists_cons
  have hwhole := takeWhile_digits h.whole (noDigit_fractionText n.fraction n.exponent)
  have hafter := dropWhile_digits h.whole (noDigit_fractionText n.fraction n.exponent)
  have hsome : n.whole.isEmpty = false := by rw [hcons]; rfl
  have hpoint : ∀ d fs, n.fraction = d :: fs →
      List.takeWhile Char.isDigit (d :: (fs ++ exponentText n.exponent)) = d :: fs ∧
        List.dropWhile Char.isDigit (d :: (fs ++ exponentText n.exponent)) =
          exponentText n.exponent := fun d fs hfs =>
    have hdigits : Digits (d :: fs) := hfs ▸ h.fraction
    ⟨takeWhile_digits hdigits (noDigit_exponentText n.exponent),
      dropWhile_digits hdigits (noDigit_exponentText n.exponent)⟩
  have hexponent : ∀ down es, n.exponent = some (down, es) →
      es.isEmpty = false ∧ es.all Char.isDigit = true := fun down es hes =>
    ⟨List.isEmpty_eq_false_iff.mpr (h.exponent down es hes).1,
      List.all_eq_true.mpr (h.exponent down es hes).2⟩
  unfold literal?
  rw [signOf_text h]
  obtain ⟨negative, whole, fraction, exponent⟩ := n
  simp only at hwhole hafter hsome hpoint hexponent
  simp only [hwhole, hafter]
  cases fraction with
  | nil =>
    cases exponent with
    | none =>
      simp only [fractionText, exponentText, List.nil_append, hsome]
      rfl
    | some e =>
      obtain ⟨hes, hdigits⟩ := hexponent e.1 e.2 rfl
      simp [fractionText, exponentText, signOf_sign, hsome, hes, hdigits, literal, power]
  | cons d fs =>
    obtain ⟨hfraction, hrest⟩ := hpoint d fs rfl
    simp only [fractionText, List.cons_append, hfraction, hrest, hsome]
    cases exponent with
    | none => rfl
    | some e =>
      obtain ⟨hes, hdigits⟩ := hexponent e.1 e.2 rfl
      simp only [exponentText, signOf_sign, hes, hdigits]
      rfl

/-- The characters of numbers as they are written. -/
def isPart (c : Char) : Bool := c.isDigit || c = '-' || c = '+' || c = '.' || c = 'e'

theorem isPart_of_mem_text (h : n.Proper) (hc : c ∈ n.text) : isPart c = true := by
  have hdigit : ∀ ds, Digits ds → c ∈ ds → isPart c = true := fun ds hds hmem => by
    simp [isPart, hds c hmem]
  rcases List.mem_append.mp hc with hsign | hc
  · cases hnegative : n.negative <;> simp_all [signText, isPart]
  rcases List.mem_append.mp hc with hwhole | hc
  · exact hdigit n.whole h.whole hwhole
  rcases List.mem_append.mp hc with hfraction | hexponent
  · cases hds : n.fraction with
    | nil => simp [hds, fractionText] at hfraction
    | cons d ds =>
      rw [hds, fractionText] at hfraction
      rcases List.mem_cons.mp hfraction with rfl | hmem
      · rfl
      · exact hdigit n.fraction h.fraction (hds ▸ hmem)
  · cases he : n.exponent with
    | none => simp [he, exponentText] at hexponent
    | some e =>
      obtain ⟨down, es⟩ := e
      rw [he, exponentText] at hexponent
      rcases List.mem_cons.mp hexponent with rfl | hmem
      · rfl
      rcases List.mem_cons.mp hmem with rfl | hmem
      · cases down <;> rfl
      · exact hdigit es (h.exponent down es he).2 hmem

theorem isPart_cases (h : isPart c = true) :
    c.isDigit = true ∨ c = '-' ∨ c = '+' ∨ c = '.' ∨ c = 'e' := by
  simpa [isPart, or_assoc] using h

theorem toNat_of_isDigit (h : c.isDigit = true) : 48 ≤ c.toNat ∧ c.toNat ≤ 57 := by
  simpa [Char.isDigit, UInt32.le_iff_toNat_le] using h

theorem isBlank_of_isPart (h : isPart c = true) : Text.isBlank c = false := by
  rcases isPart_cases h with hdigit | rfl | rfl | rfl | rfl
  · have := toNat_of_isDigit hdigit
    simp [Text.isBlank]
    omega
  all_goals rfl

/-- Reading digits of any script as those of ASCII leaves a number as it is. -/
theorem decimalValue?_of_isPart (h : isPart c = true) :
    (match Text.decimalValue? c with
      | some n => Char.ofNat (48 + n)
      | none => c) = c := by
  rcases isPart_cases h with hdigit | rfl | rfl | rfl | rfl
  · have hbounds := toNat_of_isDigit hdigit
    have hvalue : 48 + (c.toNat - '0'.toNat) = c.toNat := by
      rw [show '0'.toNat = 48 from rfl]
      omega
    simp only [Text.decimalValue?, hdigit, if_true, hvalue, Char.ofNat_toNat]
  all_goals decide +kernel

theorem ungroup?_of_isPart (before : Option Char) (h : ∀ c ∈ rest, isPart c = true) :
    ungroup? before rest = some rest := by
  induction rest generalizing before with
  | nil => rfl
  | cons c rest ih =>
    have hc : c ≠ '_' := by
      rintro rfl
      exact absurd (h '_' List.mem_cons_self) (by decide)
    have hrest := ih (some c) fun d hd => h d (List.mem_cons_of_mem c hd)
    unfold ungroup?
    split
    next heq => cases heq
    next heq => exact absurd (List.cons.inj heq).1 hc
    next heq =>
      obtain ⟨rfl, rfl⟩ := List.cons.inj heq
      rw [hrest]
      rfl

theorem trimOf_eq_self {p : Char → Bool} (h : ∀ c ∈ rest, p c = false) :
    Text.trimOf p rest = rest := by
  have hdrop : ∀ cs : List Char, (∀ c ∈ cs, p c = false) → cs.dropWhile p = cs := by
    intro cs hcs
    cases cs with
    | nil => rfl
    | cons c cs => exact List.dropWhile_cons_of_neg (by simp [hcs c List.mem_cons_self])
  rw [Text.trimOf, hdrop rest h, hdrop rest.reverse (by simpa using h), List.reverse_reverse]

theorem toLower_of_isDigit (h : c.isDigit = true) : c.toLower = c := by
  have hbounds := toNat_of_isDigit h
  refine dif_neg fun ⟨hlower, _⟩ => ?_
  have : 65 ≤ c.toNat := UInt32.le_iff_toNat_le.mp hlower
  omega

theorem toLower_of_isPart (h : isPart c = true) : c.toLower ≠ 'i' ∧ c.toLower ≠ 'n' := by
  rcases isPart_cases h with hdigit | rfl | rfl | rfl | rfl
  · rw [toLower_of_isDigit hdigit]
    constructor <;> rintro rfl <;> cases hdigit
  all_goals decide

theorem signOf_suffix (cs : List Char) : (signOf cs).2 <:+ cs := by
  unfold signOf
  split
  next => exact List.suffix_cons _ _
  next => exact List.suffix_cons _ _
  next => exact List.suffix_rfl

/-- Characters of numbers are read as a literal, and as no word. -/
theorem read?_of_isPart {cs : List Char} (hpart : ∀ c ∈ cs, isPart c = true) :
    read? (String.ofList cs) = (literal? cs).map Literal.toFloat := by
  have hspace (c : Char) (hc : c ∈ cs) : Text.isSpace c = false := by
    rw [Text.isSpace, isBlank_of_isPart (hpart c hc), Bool.false_and]
  have hspelled : ((Text.trimOf Text.isSpace (String.ofList cs).toList).map fun c =>
      match Text.decimalValue? c with
      | some n => Char.ofNat (48 + n)
      | none => c) = cs := by
    rw [String.toList_ofList, trimOf_eq_self hspace]
    exact (List.map_congr_left fun c hc => decimalValue?_of_isPart (hpart c hc)).trans
      (List.map_id' cs)
  refine (congrArg (fun cs => (ungroup? none cs).bind _) hspelled).trans ?_
  have hword : ∀ d ds, d = 'i' ∨ d = 'n' →
      String.ofList ((signOf cs).2.map Char.toLower) ≠ String.ofList (d :: ds) := by
    intro d ds hd heq
    have hfirst := String.ofList_injective heq
    obtain ⟨c, rest, hbody, rfl, -⟩ := List.map_eq_cons_iff.mp hfirst
    have hc : c ∈ cs := (signOf_suffix cs).subset (hbody ▸ List.mem_cons_self)
    exact hd.elim (toLower_of_isPart (hpart c hc)).1 (toLower_of_isPart (hpart c hc)).2
  rw [ungroup?_of_isPart none hpart, Option.bind_some]
  simp only
  rw [if_neg, if_neg (hword 'n' ['a', 'n'] (.inr rfl))]
  simp only [Bool.or_eq_true, decide_eq_true_eq, not_or]
  exact ⟨hword 'i' ['n', 'f'] (.inl rfl), hword 'i' ['n', 'f', 'i', 'n', 'i', 't', 'y'] (.inl rfl)⟩

/-- A number as it is written is read as its parts. -/
theorem read?_text (h : n.Proper) : read? (String.ofList n.text) = some n.literal.toFloat := by
  rw [read?_of_isPart fun c hc => isPart_of_mem_text h hc, literal?_text h, Option.map_some]

end Numeral

end Gleaner.Decimal
