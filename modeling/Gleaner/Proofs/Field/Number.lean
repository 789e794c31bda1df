import Gleaner.Field.Type
import Gleaner.Proofs.Decimal.Nearest
import Gleaner.Proofs.Decimal.Numeral

/-! Numbers of fields. Of the characters of a text that numbers consist of, the longest start that
reads as a number by itself is read. -/

namespace Gleaner.Field

open Decimal (Literal literal? signOf)

variable {c : Char} {cs ds number : List Char} {l : Literal} {raw : String}

/-- The characters of a text that numbers consist of. -/
def numericPart (raw : String) : List Char := raw.toList.filter isNumeric

/-- Whether a text is a number as a whole. -/
def Reads (cs : List Char) : Prop := (Decimal.read? (String.ofList cs)).isSome = true

/-- The longest start of a text that is a number. -/
structure IsNumber (cs number : List Char) : Prop where
  start : number <+: cs
  reads : Reads number
  longest : ∀ other, other <+: cs → Reads other → other.length ≤ number.length

section Start

/-- Digits with at most one point, as far as they go at the start of a text. -/
def bareStart : List Char → List Char
  | [] => []
  | c :: cs =>
    if c.isDigit then c :: bareStart cs
    else if c = '.' then c :: cs.takeWhile Char.isDigit
    else []

/-- A minus sign or none, with the digits behind it. -/
def numberStart : List Char → List Char
  | '-' :: cs => '-' :: bareStart cs
  | cs => bareStart cs

/-- The digits behind a point. -/
def fractionOf : List Char → List Char
  | '.' :: cs => cs.takeWhile Char.isDigit
  | _ => []

/-- The number at the start of a text, whose sign is known. -/
def bareNumber? (negative : Bool) (cs : List Char) : Option Literal :=
  let whole := cs.takeWhile Char.isDigit
  let fraction := fractionOf (cs.dropWhile Char.isDigit)
  if whole.isEmpty && fraction.isEmpty then none else some ⟨negative, whole, fraction, 0⟩

theorem numberStart_of_ne (h : cs.head? ≠ some '-') : numberStart cs = bareStart cs := by
  unfold numberStart
  split
  next => exact absurd rfl h
  next => rfl

theorem leadingNumber?_minus (cs : List Char) :
    leadingNumber? ('-' :: cs) = bareNumber? true cs := rfl

theorem leadingNumber?_of_ne (h : cs.head? ≠ some '-') :
    leadingNumber? cs = bareNumber? false cs := by
  unfold leadingNumber?
  split
  next heq =>
    split at heq
    next => exact absurd rfl h
    next => cases heq; rfl

theorem takeWhile_mono {p : Char → Bool} (h : cs <+: ds) : cs.takeWhile p <+: ds.takeWhile p := by
  obtain ⟨more, rfl⟩ := h
  rw [List.takeWhile_append]
  split
  next => exact (List.takeWhile_prefix p).trans (List.prefix_append cs _)
  next => exact List.prefix_rfl

theorem bareStart_leads (cs : List Char) : bareStart cs <+: cs := by
  fun_induction bareStart cs with
  | case1 => exact List.nil_prefix
  | case2 c cs hdigit ih => exact (List.prefix_cons_inj c).mpr ih
  | case3 cs => exact (List.prefix_cons_inj _).mpr (List.takeWhile_prefix _)
  | case4 => exact List.nil_prefix

theorem bareStart_mono (h : cs <+: ds) : bareStart cs <+: bareStart ds := by
  induction cs generalizing ds with
  | nil => exact List.nil_prefix
  | cons c cs ih =>
    obtain ⟨more, rfl⟩ := h
    have hprefix : cs <+: cs ++ more := List.prefix_append cs more
    rw [List.cons_append, bareStart, bareStart]
    split
    next => exact (List.prefix_cons_inj c).mpr (ih hprefix)
    next =>
      split
      next => exact (List.prefix_cons_inj c).mpr (takeWhile_mono hprefix)
      next => exact List.nil_prefix

theorem fractionOf_of_ne (h : ∀ r, cs ≠ '.' :: r) : fractionOf cs = [] := by
  unfold fractionOf
  split
  next r => exact absurd rfl (h r)
  next => rfl

theorem takeWhile_bareStart (cs : List Char) :
    (bareStart cs).takeWhile Char.isDigit = cs.takeWhile Char.isDigit := by
  fun_induction bareStart cs with
  | case1 => rfl
  | case2 c cs hdigit ih => simp [hdigit, ih]
  | case3 cs hdigit => rfl
  | case4 c cs hdigit => simp [hdigit]

theorem fractionOf_bareStart (cs : List Char) :
    fractionOf ((bareStart cs).dropWhile Char.isDigit) =
      fractionOf (cs.dropWhile Char.isDigit) := by
  fun_induction bareStart cs with
  | case1 => rfl
  | case2 c cs hdigit ih => simpa [hdigit] using ih
  | case3 cs hdigit =>
    have hpoint : ∀ ds : List Char, ('.' :: ds).dropWhile Char.isDigit = '.' :: ds := fun ds => rfl
    rw [hpoint, hpoint, fractionOf, fractionOf, List.takeWhile_idem]
  | case4 c cs hdigit hpoint =>
    rw [List.dropWhile_cons_of_neg hdigit,
      fractionOf_of_ne fun r heq => hpoint (List.cons.inj heq).1]
    rfl

theorem bareNumber?_bareStart (negative : Bool) (cs : List Char) :
    bareNumber? negative (bareStart cs) = bareNumber? negative cs := by
  unfold bareNumber?
  rw [takeWhile_bareStart, fractionOf_bareStart]

theorem bareStart_bareStart (cs : List Char) : bareStart (bareStart cs) = bareStart cs := by
  fun_induction bareStart cs with
  | case1 => rfl
  | case2 c cs hdigit ih => rw [bareStart, if_pos hdigit, ih]
  | case3 cs hdigit =>
    rw [bareStart, if_neg hdigit, if_pos rfl, List.takeWhile_idem]
  | case4 => rfl

end Start

section Literal

variable {negative : Bool}

/-- What follows digits with at most one point. -/
def bareRest (cs : List Char) : List Char :=
  match cs.dropWhile Char.isDigit with
  | '.' :: r => r.dropWhile Char.isDigit
  | r => r

theorem bareRest_of_point {r : List Char} (h : cs.dropWhile Char.isDigit = '.' :: r) :
    bareRest cs = r.dropWhile Char.isDigit := by
  simp only [bareRest, h]

theorem bareRest_of_ne (h : ∀ r, cs.dropWhile Char.isDigit ≠ '.' :: r) :
    bareRest cs = cs.dropWhile Char.isDigit := by
  unfold bareRest
  split
  next r heq => exact absurd heq (h r)
  next => rfl

theorem bareStart_append (cs : List Char) : bareStart cs ++ bareRest cs = cs := by
  fun_induction bareStart cs with
  | case1 => rfl
  | case2 c cs hdigit ih =>
    have hrest : bareRest (c :: cs) = bareRest cs := by simp [bareRest, hdigit]
    rw [hrest, List.cons_append, ih]
  | case3 cs hdigit => exact congrArg ('.' :: ·) List.takeWhile_append_dropWhile
  | case4 c cs hdigit hpoint =>
    have hdrop := List.dropWhile_cons_of_neg (l := cs) hdigit
    rw [bareRest_of_ne fun r heq => hpoint (List.cons.inj (hdrop ▸ heq)).1, hdrop,
      List.nil_append]

theorem bareRest_eq_nil : bareRest cs = [] ↔ bareStart cs = cs := by
  have happend := bareStart_append cs
  constructor
  · intro hrest
    rwa [hrest, List.append_nil] at happend
  · intro hstart
    rw [hstart] at happend
    exact List.append_right_eq_self.mp happend

theorem not_exponent (h : isNumeric c = true) : (decide (c = 'e') || decide (c = 'E')) = false := by
  rw [Bool.or_eq_false_iff, decide_eq_false_iff_not, decide_eq_false_iff_not]
  constructor <;> rintro rfl <;> exact absurd h (by decide)

/-- Among the characters of numbers, a literal is a sign with digits that go on to the end. -/
theorem literal?_of_signOf (hsign : signOf cs = (negative, ds))
    (hds : ∀ c ∈ ds, isNumeric c = true) :
    literal? cs = if bareRest ds = [] then bareNumber? negative ds else none := by
  have hrest : ∀ c ∈ ds.dropWhile Char.isDigit, isNumeric c = true :=
    fun c hc => hds c ((List.dropWhile_suffix _).subset hc)
  unfold literal? bareNumber?
  rw [hsign]
  dsimp only
  split
  next r heq =>
    rw [bareRest_of_point heq, heq, fractionOf]
    cases hafter : r.dropWhile Char.isDigit with
    | nil => rfl
    | cons c r' =>
      have hc : c ∈ r := (List.dropWhile_suffix _).subset (hafter ▸ List.mem_cons_self)
      have hnumeric := hrest c (heq ▸ List.mem_cons_of_mem _ hc)
      simp [not_exponent hnumeric]
  next hpoint =>
    rw [bareRest_of_ne hpoint, fractionOf_of_ne hpoint]
    cases hafter : ds.dropWhile Char.isDigit with
    | nil => rfl
    | cons c r => simp [not_exponent (hrest c (hafter ▸ List.mem_cons_self))]

end Literal

section Longest

theorem head?_of_start (h : cs <+: ds) (hhead : cs.head? = some c) : ds.head? = some c := by
  obtain ⟨more, rfl⟩ := h
  rw [List.head?_append, hhead, Option.some_or]

theorem head?_bareStart (h : cs.head? ≠ some c) : (bareStart cs).head? ≠ some c :=
  fun hhead => h (head?_of_start (bareStart_leads cs) hhead)

theorem numberStart_leads (cs : List Char) : numberStart cs <+: cs := by
  fun_cases numberStart cs with
  | case1 cs => exact (List.prefix_cons_inj '-').mpr (bareStart_leads cs)
  | case2 => exact bareStart_leads cs

theorem numberStart_mono (h : cs <+: ds) : numberStart cs <+: numberStart ds := by
  by_cases hsign : cs.head? = some '-'
  · obtain ⟨cs, rfl⟩ := List.head?_eq_some_iff.mp hsign
    obtain ⟨more, rfl⟩ := h
    exact (List.prefix_cons_inj '-').mpr (bareStart_mono (List.prefix_append cs more))
  · rw [numberStart_of_ne hsign]
    cases cs with
    | nil => exact List.nil_prefix
    | cons c cs =>
      have hsign' : ds.head? ≠ some '-' := by rwa [head?_of_start h rfl]
      rw [numberStart_of_ne hsign']
      exact bareStart_mono h

theorem numberStart_numberStart (cs : List Char) :
    numberStart (numberStart cs) = numberStart cs := by
  by_cases hsign : cs.head? = some '-'
  · obtain ⟨cs, rfl⟩ := List.head?_eq_some_iff.mp hsign
    exact congrArg ('-' :: ·) (bareStart_bareStart cs)
  · rw [numberStart_of_ne hsign, numberStart_of_ne (head?_bareStart hsign), bareStart_bareStart]

/-- A number is read off its own characters. -/
theorem leadingNumber?_numberStart (cs : List Char) :
    leadingNumber? (numberStart cs) = leadingNumber? cs := by
  by_cases hsign : cs.head? = some '-'
  · obtain ⟨cs, rfl⟩ := List.head?_eq_some_iff.mp hsign
    exact bareNumber?_bareStart true cs
  · rw [numberStart_of_ne hsign, leadingNumber?_of_ne (head?_bareStart hsign),
      leadingNumber?_of_ne hsign, bareNumber?_bareStart]

theorem bareNumber?_isSome (negative : Bool) (cs : List Char) :
    (bareNumber? negative cs).isSome = (bareStart cs).any Char.isDigit := by
  fun_induction bareStart cs with
  | case1 => rfl
  | case2 c cs hdigit ih => simp [bareNumber?, hdigit]
  | case3 cs hdigit =>
    have hfraction : (cs.takeWhile Char.isDigit).all Char.isDigit = true := List.all_takeWhile
    rw [bareNumber?, List.takeWhile_cons_of_neg hdigit, List.dropWhile_cons_of_neg hdigit,
      fractionOf]
    cases h : cs.takeWhile Char.isDigit with
    | nil => rfl
    | cons d ds =>
      rw [h, List.all_cons, Bool.and_eq_true] at hfraction
      simp [hfraction.1]
  | case4 c cs hdigit hpoint =>
    rw [bareNumber?, List.takeWhile_cons_of_neg hdigit, List.dropWhile_cons_of_neg hdigit,
      fractionOf_of_ne fun r heq => hpoint (List.cons.inj heq).1]
    rfl

/-- There is a number just where there is a digit before anything that stops it. -/
theorem leadingNumber?_isSome (cs : List Char) :
    (leadingNumber? cs).isSome = (numberStart cs).any Char.isDigit := by
  by_cases hsign : cs.head? = some '-'
  · obtain ⟨cs, rfl⟩ := List.head?_eq_some_iff.mp hsign
    exact bareNumber?_isSome true cs
  · rw [numberStart_of_ne hsign, leadingNumber?_of_ne hsign, bareNumber?_isSome]

theorem leadingNumber?_mono (h : cs <+: ds) (hsome : (leadingNumber? cs).isSome = true) :
    (leadingNumber? ds).isSome = true := by
  rw [leadingNumber?_isSome, List.any_eq_true] at hsome ⊢
  obtain ⟨c, hc, hdigit⟩ := hsome
  exact ⟨c, (numberStart_mono h).subset hc, hdigit⟩

variable (hcs : ∀ c ∈ cs, isNumeric c = true)
include hcs

/-- Among the characters of numbers, a literal is a text that is its own number. -/
theorem literal?_eq : literal? cs = if numberStart cs = cs then leadingNumber? cs else none := by
  by_cases hsign : cs.head? = some '-'
  · obtain ⟨cs, rfl⟩ := List.head?_eq_some_iff.mp hsign
    have hbody : ∀ c ∈ cs, isNumeric c = true := fun c hc => hcs c (List.mem_cons_of_mem _ hc)
    have hsignOf : signOf ('-' :: cs) = (true, cs) := rfl
    rw [literal?_of_signOf hsignOf hbody, leadingNumber?_minus, numberStart]
    simp only [bareRest_eq_nil, List.cons.injEq, true_and]
  · have hplus : cs.head? ≠ some '+' := fun hhead =>
      absurd (hcs '+' (List.mem_of_mem_head? hhead)) (by decide)
    have hsignOf : signOf cs = (false, cs) := by
      unfold signOf
      split
      next => exact absurd rfl hsign
      next => exact absurd rfl hplus
      next => rfl
    rw [literal?_of_signOf hsignOf hcs, leadingNumber?_of_ne hsign, numberStart_of_ne hsign]
    simp only [bareRest_eq_nil]

theorem read?_eq : Decimal.read? (String.ofList cs) =
    if numberStart cs = cs then (leadingNumber? cs).map Literal.toFloat else none := by
  have hpart : ∀ c ∈ cs, Decimal.Numeral.isPart c = true := by
    intro c hc
    have hnumeric := hcs c hc
    simp only [isNumeric, Bool.or_eq_true, decide_eq_true_eq] at hnumeric
    rcases hnumeric with (hdigit | rfl) | rfl
    · simp [Decimal.Numeral.isPart, hdigit]
    all_goals rfl
  rw [Decimal.Numeral.read?_of_isPart hpart, literal?_eq hcs]
  split <;> rfl

theorem reads_iff : Reads cs ↔ numberStart cs = cs ∧ (leadingNumber? cs).isSome = true := by
  rw [Reads, read?_eq hcs]
  split
  next hstart => simp [hstart]
  next hstart => simp [hstart]

omit hcs in
theorem not_reads_nil : ¬Reads [] := by
  rw [reads_iff fun _ hc => absurd hc List.not_mem_nil]
  exact fun h => absurd h.2 (by decide)

/-- Where there is a number, it is the longest start that reads as one. -/
theorem isNumber_numberStart (hsome : leadingNumber? cs = some l) :
    IsNumber cs (numberStart cs) ∧
      Decimal.read? (String.ofList (numberStart cs)) = some l.toFloat := by
  have hnumeric : ∀ c ∈ numberStart cs, isNumeric c = true :=
    fun c hc => hcs c ((numberStart_leads cs).subset hc)
  have hread : Decimal.read? (String.ofList (numberStart cs)) = some l.toFloat := by
    rw [read?_eq hnumeric, if_pos (numberStart_numberStart cs), leadingNumber?_numberStart, hsome,
      Option.map_some]
  refine ⟨⟨numberStart_leads cs, by rw [Reads, hread]; rfl, ?_⟩, hread⟩
  intro other hother hreads
  have hwhole := ((reads_iff fun c hc => hcs c (hother.subset hc)).mp hreads).1
  exact hwhole ▸ (numberStart_mono hother).length_le

/-- Where there is none, no start reads as one. -/
theorem not_reads (hnone : leadingNumber? cs = none) {start : List Char} (hstart : start <+: cs) :
    ¬Reads start := by
  intro hreads
  have hsome := ((reads_iff fun c hc => hcs c (hstart.subset hc)).mp hreads).2
  have := leadingNumber?_mono hstart hsome
  rw [hnone] at this
  cases this

end Longest

section Read

/-- A text is read alike whatever stands among the characters of its number. -/
theorem readNumber_congr {other : String} (h : numericPart other = numericPart raw) :
    readNumber other = readNumber raw := by
  unfold readNumber
  rw [numericPart, numericPart] at h
  rw [h]

theorem numericPart_append (front back : String) :
    numericPart (front ++ back) = numericPart front ++ numericPart back := by
  rw [numericPart, String.toList_append, List.filter_append]
  rfl

theorem numericPart_junk {junk : String} (h : ∀ c ∈ junk.toList, isNumeric c = false) :
    numericPart junk = [] :=
  List.filter_eq_nil_iff.mpr fun c hc => by simp [h c hc]

variable {cs more : List Char}

theorem numericPart_numeric (raw : String) : ∀ c ∈ numericPart raw, isNumeric c = true :=
  fun _ hc => (List.mem_filter.mp hc).2

/-- The float of a text with a number is that of the longest start that reads as one. -/
theorem readNumber_cases (raw : String) :
    (∃ number, IsNumber (numericPart raw) number ∧
        Decimal.read? (String.ofList number) = some (readNumber raw) ∧
        (readNumber raw).isNaN = false) ∨
      ((∀ start, start <+: numericPart raw → ¬Reads start) ∧ (readNumber raw).isNaN = true) := by
  have hnumeric := numericPart_numeric raw
  cases h : leadingNumber? (numericPart raw) with
  | none =>
    have hread : readNumber raw = Decimal.notANumber := by
      unfold readNumber
      rw [← numericPart, h]
    exact .inr ⟨fun start => not_reads hnumeric h, hread ▸ Decimal.isNaN_notANumber⟩
  | some l =>
    have hread : readNumber raw = l.toFloat := by
      unfold readNumber
      rw [← numericPart, h]
    obtain ⟨hnumber, hfloat⟩ := isNumber_numberStart hnumeric h
    exact .inl ⟨_, hnumber, hread ▸ hfloat, hread ▸ l.isNaN_toFloat⟩

/-- What adds no longer number adds none. -/
theorem leadingNumber?_append (hnumeric : ∀ c ∈ cs ++ more, isNumeric c = true)
    (hmore : ∀ start, start <+: cs ++ more → Reads start → start <+: cs) :
    leadingNumber? (cs ++ more) = leadingNumber? cs := by
  have hprefix : cs <+: cs ++ more := List.prefix_append cs more
  cases hlong : leadingNumber? (cs ++ more) with
  | none =>
    cases hshort : leadingNumber? cs with
    | none => rfl
    | some l =>
      have := leadingNumber?_mono hprefix (Option.isSome_of_eq_some hshort)
      rw [hlong] at this
      cases this
  | some l =>
    obtain ⟨hnumber, -⟩ := isNumber_numberStart hnumeric hlong
    have hstart := hmore _ hnumber.start hnumber.reads
    have hagree : numberStart (cs ++ more) = numberStart cs :=
      (numberStart_numberStart (cs ++ more) ▸ numberStart_mono hstart).eq_of_length_le
        (numberStart_mono hprefix).length_le
    rw [← leadingNumber?_numberStart cs, ← hagree, leadingNumber?_numberStart, hlong]

theorem readNumber_append {other : String} (h : numericPart other = numericPart raw ++ more)
    (hmore : ∀ start, start <+: numericPart other → Reads start → start <+: numericPart raw) :
    readNumber other = readNumber raw := by
  have hnumeric := numericPart_numeric other
  have hnumber : leadingNumber? (numericPart other) = leadingNumber? (numericPart raw) := by
    rw [h] at hnumeric hmore ⊢
    exact leadingNumber?_append hnumeric hmore
  unfold readNumber
  rw [← numericPart, ← numericPart, hnumber]

/-- A number is read off any text: the NaN just where no start of its characters is a number, else
the float of the longest start that is one. What no number consists of changes nothing wherever it
stands, and so does whatever follows without making the number longer. -/
theorem read_number (raw : String) :
    ∃ x, FieldType.number.read raw = .number x ∧
      (x.isNaN = true ↔ ∀ start, start <+: numericPart raw → start ≠ [] → ¬Reads start) ∧
      (x.isNaN = false → ∃ number, IsNumber (numericPart raw) number ∧
        Decimal.read? (String.ofList number) = some x) ∧
      (∀ front junk back, raw = front ++ back → (∀ c ∈ junk.toList, isNumeric c = false) →
        FieldType.number.read (front ++ junk ++ back) = .number x) ∧
      ∀ other more, numericPart other = numericPart raw ++ more →
        (∀ start, start <+: numericPart other → Reads start → start <+: numericPart raw) →
        FieldType.number.read other = .number x := by
  have hcases := readNumber_cases raw
  refine ⟨readNumber raw, rfl, ⟨?_, ?_⟩, ?_, ?_, ?_⟩
  · intro hnan start hstart _
    rcases hcases with ⟨_, _, _, hfloat⟩ | ⟨hnone, _⟩
    · exact absurd (hnan.symm.trans hfloat) (by decide)
    · exact hnone start hstart
  · intro hnone
    rcases hcases with ⟨number, hnumber, _⟩ | ⟨_, hnan⟩
    · refine absurd hnumber.reads (hnone number hnumber.start ?_)
      rintro rfl
      exact absurd hnumber.reads not_reads_nil
    · exact hnan
  · intro hfloat
    rcases hcases with ⟨number, hnumber, hread, _⟩ | ⟨_, hnan⟩
    · exact ⟨number, hnumber, hread⟩
    · exact absurd (hnan.symm.trans hfloat) (by decide)
  · rintro front junk back rfl hjunk
    refine congrArg Datum.number (readNumber_congr ?_)
    simp only [numericPart_append, numericPart_junk hjunk, List.append_nil]
  · intro other more hother hmore
    exact congrArg Datum.number (readNumber_append hother hmore)

theorem read_number_priced :
    FieldType.number.read ("" ++ "$" ++ "5") = FieldType.number.read "5" ∧
      FieldType.number.read "5-" = FieldType.number.read "5" := by
  obtain ⟨x, hread, -, -, hjunk, hmore⟩ := read_number "5"
  have hstarts : ∀ start ∈ ['5', '-'].inits,
      (Decimal.read? (String.ofList start)).isSome = true → start <+: ['5'] := by decide +kernel
  have hcurrency : ∀ c ∈ "$".toList, isNumeric c = false := by
    intro c hc
    have hdollar : c = '$' := List.mem_singleton.mp hc
    exact hdollar ▸ rfl
  rw [hread]
  refine ⟨hjunk "" "$" "5" rfl hcurrency, hmore "5-" ['-'] rfl ?_⟩
  exact fun start hstart => hstarts start ((List.mem_inits _ _).mpr hstart)

end Read

end Gleaner.Field
