import Gleaner.Json.Printer
import Gleaner.Json.Reader
import Gleaner.Proofs.Decimal.Shortest

/-! Numbers, words and strings of JSON come back as they were written, whatever follows. -/

namespace Gleaner.Json

open Decimal Decimal.Numeral

variable {α : Type} {n : Numeral} {c : Char} {ds cs rest : List Char} {fuel opened : Nat}

section Numbers

/-- What follows a number does not go on with it. -/
def ends : List Char → Bool
  | [] => true
  | c :: _ => !(c.isDigit || c = '.' || c = 'e' || c = 'E')

theorem noDigit_of_ends (h : ends rest = true) : noDigit rest = true := by
  cases rest with
  | nil => rfl
  | cons c rest =>
    simp only [ends, Bool.not_eq_true', Bool.or_eq_false_iff] at h
    simp [Decimal.Numeral.noDigit, h.1.1.1]

/-- The value that a number stands for: whole, unless it has a point or an exponent. -/
def valueOf (n : Numeral) : Value α :=
  match n.fraction, n.exponent with
  | [], none => .int (if n.negative then -natOf n.whole else natOf n.whole)
  | _, _ => .float n.literal.toFloat

theorem valueOf_broken (h : n.Broken) : (valueOf n : Value α) = .float n.literal.toFloat := by
  unfold valueOf
  split
  next hfraction hexponent =>
    rcases h with h | h
    · exact absurd hfraction h
    · exact absurd hexponent h
  next => rfl

theorem wholeDigits?_text (h : n.Proper) (hrest : noDigit rest = true) :
    wholeDigits? (n.whole ++ rest) = some (n.whole, rest) := by
  have hwhole := h.whole
  rcases h.leading with hzero | ⟨c, ds, hcons, hc⟩
  · rw [hzero]
    rfl
  · rw [hcons] at hwhole ⊢
    have htake := takeWhile_digits hwhole hrest
    have hdrop := dropWhile_digits hwhole hrest
    rw [List.cons_append] at htake hdrop ⊢
    unfold wholeDigits?
    split
    next heq => exact absurd (List.cons.inj heq).1 hc
    next => rw [htake, hdrop]

theorem fractionDigits_text (h : Digits ds) (hrest : noDigit rest = true)
    (hpoint : ∀ r, rest ≠ '.' :: r) : fractionDigits (fractionText ds ++ rest) = (ds, rest) := by
  cases ds with
  | nil =>
    unfold fractionDigits
    split
    next heq => exact absurd heq (hpoint _)
    next => rfl
  | cons d ds =>
    have hds : Digits ds := fun c hc => h c (List.mem_cons_of_mem d hc)
    simp only [fractionText, List.cons_append, fractionDigits, h d List.mem_cons_self, if_true,
      takeWhile_digits hds hrest, dropWhile_digits hds hrest]

theorem exponentDigits_text {e : Option (Bool × List Char)}
    (h : ∀ down es, e = some (down, es) → es ≠ [] ∧ Digits es) (hrest : ends rest = true) :
    exponentDigits (exponentText e ++ rest) = (e, rest) := by
  cases e with
  | none =>
    cases rest with
    | nil => rfl
    | cons c rest => simp_all [ends, exponentDigits, exponentText]
  | some e =>
    obtain ⟨down, es⟩ := e
    obtain ⟨hes, hdigits⟩ := h down es rfl
    have htake := takeWhile_digits hdigits (noDigit_of_ends hrest)
    have hdrop := dropWhile_digits hdigits (noDigit_of_ends hrest)
    obtain ⟨d, ds, rfl⟩ := List.exists_cons_of_ne_nil hes
    cases down <;> simp_all [exponentDigits, exponentText, signOf]

/-- A number is read up to its end. -/
theorem readNumber?_text (h : n.Proper) (hrest : ends rest = true) :
    readNumber? (n.text ++ rest) = some ((valueOf n : Value α), rest) := by
  have hnoDigit := noDigit_of_ends hrest
  have hafter : noDigit (exponentText n.exponent ++ rest) = true := by
    cases n.exponent with
    | none => exact hnoDigit
    | some e => rfl
  have hpoint : ∀ r, exponentText n.exponent ++ rest ≠ '.' :: r := by
    intro r heq
    cases he : n.exponent with
    | none =>
      rw [he] at heq
      subst heq
      cases hrest
    | some e =>
      rw [he] at heq
      cases heq
  have hfraction :
      noDigit (fractionText n.fraction ++ (exponentText n.exponent ++ rest)) = true := by
    cases n.fraction with
    | nil => exact hafter
    | cons d ds => rfl
  -- what follows the sign starts with a digit, so it has no sign of its own
  have hminus : ∀ r, n.whole ++ (fractionText n.fraction ++ (exponentText n.exponent ++ rest)) ≠
      '-' :: r := by
    obtain ⟨c, ds, hcons, hc⟩ := h.exists_cons
    rw [hcons]
    rintro r ⟨⟩
    cases hc
  have hwhole' := wholeDigits?_text h hfraction
  have hfraction' := fractionDigits_text h.fraction hafter hpoint
  have hexponent' := exponentDigits_text h.exponent hrest
  obtain ⟨negative, whole, fraction, exponent⟩ := n
  unfold readNumber? valueOf
  rw [Numeral.text, List.append_assoc, List.append_assoc, List.append_assoc]
  cases negative <;>
    simp only [signText, Bool.false_eq_true, if_true, if_false, List.singleton_append,
      List.nil_append, hwhole', hfraction', hexponent', Option.bind_eq_bind, Option.bind_some] <;>
    cases fraction <;> cases exponent <;> rfl

/-- No word is taken for the start of a number. -/
theorem readConstant?_text (h : n.Proper) (rest : List Char) :
    readConstant? (n.text ++ rest) = (none : Option (Value α × List Char)) := by
  obtain ⟨c, ds, hcons, hc⟩ := h.exists_cons
  have hne : ∀ d : Char, d.isDigit = false → d ≠ c := by
    rintro d hd rfl
    rw [hc] at hd
    cases hd
  have hletters := And.intro (hne 'n' rfl) (And.intro (hne 't' rfl) (And.intro (hne 'f' rfl)
    (And.intro (hne 'N' rfl) (And.intro (hne 'I' rfl) (hne '-' rfl)))))
  cases hnegative : n.negative <;>
    simp [readConstant?, constants, word?, Numeral.text, signText, hnegative, hcons, hletters]

/-- A whole number as it is written. -/
def ofInt (k : Int) : Numeral := ⟨decide (k < 0), digits k.natAbs, [], none⟩

theorem proper_ofInt (k : Int) : (ofInt k).Proper := by
  refine Numeral.proper_plain (digits_digits k.natAbs) ?_ nofun
  rcases Nat.eq_zero_or_pos k.natAbs with hzero | hpos
  · exact .inl (congrArg digits hzero)
  · exact .inr (exists_cons_digits hpos)

theorem text_ofInt (k : Int) : (ofInt k).text = intText k := by
  cases k with
  | ofNat m =>
    have htext : intText (Int.ofNat m) = digits m := Nat.toList_repr
    rw [htext]
    simp [ofInt, Numeral.text, signText, fractionText, exponentText]
  | negSucc m =>
    have htext : intText (Int.negSucc m) = '-' :: digits (m + 1) := by
      rw [show intText (Int.negSucc m) = ("-" ++ (m + 1).repr).toList from rfl,
        String.toList_append, Nat.toList_repr]
      rfl
    rw [htext]
    simp [ofInt, Numeral.text, signText, fractionText, exponentText]

theorem valueOf_ofInt (k : Int) : (valueOf (ofInt k) : Value α) = .int k := by
  have hnat : natOf (digits k.natAbs) = k.natAbs := Nat.ofDigitChars_ten_toDigits
  simp only [valueOf, ofInt, hnat, decide_eq_true_eq]
  congr 1
  split <;> omega

end Numbers

section Strings

/-- The three ways to write a character in a string: by a letter after a backslash, by its number,
or as it is. -/
inductive Escaped (c : Char) : List Char → Prop where
  | letter (e : Char) : e ≠ 'u' → simpleEscape? e = some c → Escaped c ['\\', e]
  | number : c.toNat < 32 → Escaped c ('\\' :: 'u' :: Text.hexFixed 4 c.toNat)
  | plain : 32 ≤ c.toNat → c ≠ '"' → c ≠ '\\' → Escaped c [c]

theorem escaped_escape (c : Char) : Escaped c (escape c) := by
  unfold escape
  split
  next hc => exact .letter '"' (by decide) (by rw [hc]; rfl)
  next hquote =>
  split
  next hc => exact .letter '\\' (by decide) (by rw [hc]; rfl)
  next hslash =>
  split
  next hc => exact .letter 'n' (by decide) (by rw [hc]; rfl)
  split
  next hc => exact .letter 'r' (by decide) (by rw [hc]; rfl)
  split
  next hc => exact .letter 't' (by decide) (by rw [hc]; rfl)
  split
  next hc => exact .letter 'b' (by decide) (by rw [hc]; rfl)
  split
  next hc => exact .letter 'f' (by decide) (by rw [hc]; rfl)
  split
  next hcontrol => exact .number hcontrol
  next hcontrol => exact .plain (by omega) hquote hslash

theorem unit?_hexFixed : ∀ n < 32, unit? (Text.hexFixed 4 n) = some n := by decide

theorem readUnicode_hexFixed (hc : c.toNat < 32) (h : rest ≠ []) :
    readUnicode (Text.hexFixed 4 c.toNat ++ rest) = .ok (c, rest) := by
  have hlength : (Text.hexFixed 4 c.toNat).length = 4 := rfl
  have hhigh : isHigh c.toNat = false := by
    simp only [isHigh, Bool.and_eq_false_iff, decide_eq_false_iff_not]
    omega
  have hlow : isLow c.toNat = false := by
    simp only [isLow, Bool.and_eq_false_iff, decide_eq_false_iff_not]
    omega
  have hunit : readUnit (Text.hexFixed 4 c.toNat ++ rest) = .ok (c.toNat, rest) := by
    obtain ⟨d, more, rfl⟩ := List.exists_cons_of_ne_nil h
    rw [readUnit, List.take_left' hlength, List.drop_left' hlength, unit?_hexFixed _ hc]
  rw [readUnicode, hunit]
  simp [bind, Except.bind, hhigh, hlow, charOfUnit]

/-- What stands for a character in a string reads as this character. -/
theorem readString_escaped (h : Escaped c cs) (opened fuel : Nat) (hrest : rest ≠ []) :
    readString opened (fuel + 1) (cs ++ rest) =
      (readString opened fuel rest).map fun r => (c :: r.1, r.2) := by
  have hmap : ∀ o : Read (List Char × Rest), (o.map fun r => (c :: r.1, r.2)) =
      o.bind fun r => .ok (c :: r.1, r.2) := fun o => by cases o <;> rfl
  rw [hmap]
  cases h with
  | letter e hu he =>
    simp only [List.cons_append, List.nil_append, readString]
    rw [if_neg (by decide), if_pos trivial, he]
    rfl
  | number hc =>
    simp only [List.cons_append, readString]
    rw [if_neg (by decide), if_pos trivial, readUnicode_hexFixed hc hrest]
    rfl
  | plain hc hquote hslash =>
    simp only [List.cons_append, List.nil_append, readString]
    rw [if_neg hquote, if_neg hslash, if_neg (by omega)]
    rfl

theorem Escaped.ne_nil (h : Escaped c cs) : cs ≠ [] := by
  cases h <;> exact List.cons_ne_nil _ _

/-- A string reads up to its closing quote. -/
theorem readString_text (opened : Nat) (cs : List Char) (rest : List Char)
    (hfuel : (cs.flatMap escape).length < fuel) :
    readString opened fuel (cs.flatMap escape ++ '"' :: rest) = .ok (cs, rest) := by
  induction cs generalizing fuel with
  | nil =>
    obtain ⟨fuel, rfl⟩ := Nat.exists_eq_add_one.mpr hfuel
    rfl
  | cons c cs ih =>
    rw [List.flatMap_cons, List.length_append] at hfuel
    have hpos := List.length_pos_of_ne_nil (escaped_escape c).ne_nil
    obtain ⟨fuel, rfl⟩ := Nat.exists_eq_add_one.mpr (show 0 < fuel by omega)
    rw [List.flatMap_cons, List.append_assoc, readString_escaped (escaped_escape c) opened fuel
      (by simp), ih (by omega)]
    rfl

end Strings

end Gleaner.Json
