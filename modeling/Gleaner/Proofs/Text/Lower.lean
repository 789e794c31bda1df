import Gleaner.Text.Blank
import Gleaner.Text.Lower
import Mathlib

/-! Small letters: a text in small letters stays as it is, and no letter becomes a blank or a sign
when it is made small. -/

namespace Gleaner.Text

variable {c d : Char} {cs before : List Char} {r other : CaseRun} {n m : Nat}

/-- A fact about all characters of ASCII is a finite one. -/
theorem ascii_induction {P : Char → Prop} (h : ∀ n < 128, P (Char.ofNat n)) (hc : c.toNat < 128) :
    P c := by
  rw [← Char.ofNat_toNat c]
  exact h c.toNat hc

theorem toNat_lt_of_isAlpha (h : c.isAlpha) : c.toNat < 128 := by
  simp only [Char.isAlpha, Char.isUpper, Char.isLower, Bool.or_eq_true, Bool.and_eq_true,
    decide_eq_true_eq, UInt32.le_iff_toNat_le, ge_iff_le] at h
  have hupper : 'Z'.val.toNat = 90 := rfl
  have hlower : 'z'.val.toNat = 122 := rfl
  have hval : c.toNat = c.val.toNat := rfl
  omega

/-- A character that has no other small form. -/
def IsLowered (c : Char) : Prop :=
  ∀ before cs, lowerList before (c :: cs) = c :: lowerList (c :: before) cs

/-- Letters of ASCII, and everything beyond ASCII that is no blank. -/
def IsLetterlike (c : Char) : Prop := c.isAlpha ∨ 128 ≤ c.toNat ∧ isBlank c = false

theorem IsLetterlike.isBlank_eq_false (h : IsLetterlike c) : isBlank c = false := by
  rcases h with halpha | ⟨-, hblank⟩
  · have hletters : ∀ n < 128, (Char.ofNat n).isAlpha → isBlank (Char.ofNat n) = false := by decide
    exact ascii_induction (P := fun c => c.isAlpha → isBlank c = false) hletters
      (toNat_lt_of_isAlpha halpha) halpha
  · exact hblank

theorem IsLetterlike.ne (h : IsLetterlike c) (hd : d.toNat < 128) (halpha : d.isAlpha = false) :
    c ≠ d := by
  rintro rfl
  rcases h with hletter | ⟨hforeign, -⟩
  · rw [halpha] at hletter
    cases hletter
  · omega

theorem lowerList_of_isLowered (before : List Char) (h : ∀ c ∈ cs, IsLowered c) :
    lowerList before cs = cs := by
  induction cs generalizing before with
  | nil => rfl
  | cons c cs ih =>
    rw [h c List.mem_cons_self, ih _ fun d hd => h d (List.mem_cons_of_mem c hd)]

theorem val_lt_128_iff : c.val < 128 ↔ c.toNat < 128 := by
  rw [UInt32.lt_iff_toNat_lt]
  rfl

theorem isLowered_of_ascii (hc : c.toNat < 128) (h : c.toLower = c) : IsLowered c := by
  intro before cs
  rw [lowerList, if_pos (val_lt_128_iff.mpr hc), h, List.singleton_append]

theorem isLowered_of_foreign (hc : 128 ≤ c.toNat) (hdotted : c.toNat ≠ 0x130)
    (hsigma : c.toNat ≠ 0x3A3) (h : ∀ r ∈ foreignCapitals, r.holds c.toNat = false) :
    IsLowered c := by
  have hascii : ¬c.val < 128 := by
    rw [val_lt_128_iff]
    omega
  have hdotted' : c.val ≠ 0x130 := fun heq => hdotted (congrArg UInt32.toNat heq)
  have hsigma' : c.val ≠ 0x3A3 := fun heq => hsigma (congrArg UInt32.toNat heq)
  have hfind : foreignCapitals.find? (·.holds c.toNat) = none := by
    simpa [List.find?_eq_none] using h
  intro before cs
  rw [lowerList, if_neg hascii, if_neg hdotted', if_neg hsigma', lowerChar, if_neg hascii,
    if_neg hdotted', hfind, List.singleton_append]

/-- The least and the greatest small form of a run. -/
def CaseRun.low (r : CaseRun) : Nat := (r.first + r.shift).toNat
def CaseRun.high (r : CaseRun) : Nat := (r.last + r.shift).toNat

/-- The small forms of a run, with what is between them, are outside of a range. -/
def CaseRun.clearOf (r : CaseRun) (first last : Nat) : Bool := r.high < first || last < r.low

/-- No small form of a run is a capital of the other one: they are apart, or they alternate. -/
def CaseRun.misses (r other : CaseRun) : Bool :=
  r.clearOf other.first other.last || (other.step == 2 && (r.step == 2 || r.first == r.last) &&
    (r.low + other.first) % 2 == 1)

/-- What no small form is: signs and capitals of ASCII, blanks, the dotted capital I, the capital
sigma, and what is no character. -/
def unshiftable : List (Nat × Nat) :=
  [(0, 96), (123, 127), (0x85, 0x85), (0xA0, 0xA0), (0x130, 0x130), (0x3A3, 0x3A3),
    (0x1680, 0x1680), (0x2000, 0x200A), (0x2028, 0x2029), (0x202F, 0x202F), (0x205F, 0x205F),
    (0x3000, 0x3000), (0xD800, 0xDFFF), (0x110000, 0x200000)]

theorem foreignCapitals_misses :
    foreignCapitals.all fun r => foreignCapitals.all fun other => r.misses other := by
  decide +kernel

theorem foreignCapitals_clear :
    ∀ r ∈ foreignCapitals, ∀ range ∈ unshiftable, r.clearOf range.1 range.2 := by
  decide +kernel

theorem foreignCapitals_bounded :
    ∀ r ∈ foreignCapitals, 0 ≤ r.first + r.shift ∧ r.last + r.shift < 0x200000 := by
  decide +kernel

/-- A small form is no capital of any run. -/
theorem CaseRun.not_holds_shifted (hmiss : r.misses other) (hn : r.holds n)
    (hm : (m : Int) = n + r.shift) (hpos : 0 ≤ r.first + r.shift) : other.holds m = false := by
  simp only [holds, Bool.and_eq_true, decide_eq_true_eq] at hn
  simp only [misses, clearOf, Bool.or_eq_true, Bool.and_eq_true, decide_eq_true_eq,
    beq_iff_eq] at hmiss
  simp only [low, high] at hmiss
  rw [Bool.eq_false_iff]
  intro hother
  simp only [holds, Bool.and_eq_true, decide_eq_true_eq] at hother
  rcases hmiss with (hbelow | habove) | ⟨⟨hstep, halone⟩, hodd⟩
  · omega
  · omega
  · rw [hstep] at hother
    rcases halone with hr | hr
    · rw [hr] at hn
      omega
    · omega

/-- A small form is outside of a range that the run is clear of. -/
theorem CaseRun.shifted_clear {first last : Nat} (hclear : r.clearOf first last)
    (hn : r.holds n) (hm : (m : Int) = n + r.shift) : m < first ∨ last < m := by
  simp only [holds, Bool.and_eq_true, decide_eq_true_eq] at hn
  simp only [clearOf, Bool.or_eq_true, decide_eq_true_eq] at hclear
  simp only [low, high] at hclear
  omega

theorem isBlank_eq_false (hc : 128 ≤ c.toNat)
    (h : ∀ range ∈ unshiftable, c.toNat < range.1 ∨ range.2 < c.toNat) :
    isBlank c = false := by
  simp only [unshiftable, List.forall_mem_cons] at h
  simp only [isBlank, Bool.or_eq_false_iff, Bool.and_eq_false_iff, decide_eq_false_iff_not]
  omega

/-- The small form of a letter beyond ASCII has no other one, and it is no blank and no sign. -/
theorem shifted_facts (hr : foreignCapitals.find? (·.holds c.toNat) = some r) :
    IsLowered (Char.ofNat (c.toNat + r.shift).toNat) ∧
      IsLetterlike (Char.ofNat (c.toNat + r.shift).toNat) := by
  have hmem := List.mem_of_find?_eq_some hr
  have hholds : r.holds c.toNat := by simpa using List.find?_some hr
  obtain ⟨hpos, hbound⟩ := foreignCapitals_bounded r hmem
  have hrange := hholds
  simp only [CaseRun.holds, Bool.and_eq_true, decide_eq_true_eq] at hrange
  obtain ⟨m, hm⟩ : ∃ m : Nat, (m : Int) = c.toNat + r.shift :=
    ⟨(c.toNat + r.shift).toNat, by omega⟩
  have hclear (range : Nat × Nat) (hin : range ∈ unshiftable) : m < range.1 ∨ range.2 < m :=
    CaseRun.shifted_clear (foreignCapitals_clear r hmem range hin) hholds hm
  have hsurrogate := hclear (0xD800, 0xDFFF) (by decide)
  have hbeyond := hclear (0x110000, 0x200000) (by decide)
  have hvalid : m.isValidChar := by
    unfold Nat.isValidChar
    omega
  have htoNat : (Char.ofNat m).toNat = m := by rw [Char.toNat_ofNat, if_pos hvalid]
  rw [show (c.toNat + r.shift).toNat = m by omega]
  rcases Nat.lt_or_ge m 128 with hascii | hforeign
  · have hlow := hclear (0, 96) (by decide)
    have hhigh := hclear (123, 127) (by decide)
    have hletter : ∀ k < 128, 96 < k → k < 123 →
        (Char.ofNat k).toLower = Char.ofNat k ∧ (Char.ofNat k).isAlpha := by decide
    obtain ⟨hsmall, halpha⟩ := hletter m hascii (by omega) (by omega)
    exact ⟨isLowered_of_ascii (by omega) hsmall, .inl halpha⟩
  · have hdotted := hclear (0x130, 0x130) (by decide)
    have hsigma := hclear (0x3A3, 0x3A3) (by decide)
    refine ⟨isLowered_of_foreign (by omega) (by omega) (by omega) fun other hother => ?_,
      .inr ⟨by omega, isBlank_eq_false (by omega) (by rwa [htoNat])⟩⟩
    rw [htoNat]
    have hmisses := List.all_eq_true.mp (List.all_eq_true.mp foreignCapitals_misses r hmem) other
    exact CaseRun.not_holds_shifted (hmisses hother) hholds hm hpos

theorem toLower_facts (hc : c.toNat < 128) :
    IsLowered c.toLower ∧ (c.toLower = c ∨ IsLetterlike c.toLower) := by
  have hfacts : ∀ n < 128, (Char.ofNat n).toLower.toNat < 128 ∧
      (Char.ofNat n).toLower.toLower = (Char.ofNat n).toLower ∧
      ((Char.ofNat n).toLower = Char.ofNat n ∨ (Char.ofNat n).toLower.isAlpha) := by decide
  obtain ⟨hlt, htwice, hletter⟩ :=
    ascii_induction (P := fun c => c.toLower.toNat < 128 ∧ c.toLower.toLower = c.toLower ∧
      (c.toLower = c ∨ c.toLower.isAlpha)) hfacts hc
  exact ⟨isLowered_of_ascii hlt htwice, hletter.imp_right .inl⟩

theorem lowerChar_facts (hc : 128 ≤ c.toNat) (hdotted : c.toNat ≠ 0x130)
    (hsigma : c.toNat ≠ 0x3A3) :
    IsLowered (lowerChar c) ∧ (lowerChar c = c ∨ IsLetterlike (lowerChar c)) := by
  have hascii : ¬c.val < 128 := by
    rw [val_lt_128_iff]
    omega
  have hdotted' : c.val ≠ 0x130 := fun heq => hdotted (congrArg UInt32.toNat heq)
  rw [lowerChar, if_neg hascii, if_neg hdotted']
  cases hr : foreignCapitals.find? (·.holds c.toNat) with
  | none =>
    refine ⟨isLowered_of_foreign hc hdotted hsigma fun r hr' => ?_, .inl rfl⟩
    simpa using List.find?_eq_none.mp hr r hr'
  | some r =>
    obtain ⟨hlowered, hletter⟩ := shifted_facts hr
    exact ⟨hlowered, .inr hletter⟩

theorem isAlpha_toLower (h : c.isAlpha) : c.toLower.isAlpha := by
  have hletters : ∀ n < 128, (Char.ofNat n).isAlpha → (Char.ofNat n).toLower.isAlpha := by decide
  exact ascii_induction (P := fun c => c.isAlpha → c.toLower.isAlpha) hletters
    (toNat_lt_of_isAlpha h) h

theorem lowerList_cons_of_isAlpha (before cs : List Char) (h : c.isAlpha) :
    lowerList before (c :: cs) = c.toLower :: lowerList (c :: before) cs := by
  rw [lowerList, if_pos (val_lt_128_iff.mpr (toNat_lt_of_isAlpha h)), List.singleton_append]

/-- What a character becomes has no other small form. It starts with the character itself or a
letter, and more than one character are letters or marks beyond ASCII. -/
theorem lowerList_cons (before : List Char) (c : Char) (cs : List Char) :
    ∃ d small, lowerList before (c :: cs) = d :: small ++ lowerList (c :: before) cs ∧
      (IsLowered d ∧ (d = c ∨ IsLetterlike d)) ∧ ∀ e ∈ small, IsLowered e ∧ IsLetterlike e := by
  have hforeign (n : Nat) (h : n ∈ [0x307, 0x3C2, 0x3C3]) :
      IsLowered (Char.ofNat n) ∧ IsLetterlike (Char.ofNat n) := by
    fin_cases h <;>
      exact ⟨isLowered_of_foreign (by decide) (by decide) (by decide) (by decide +kernel),
        .inr (by decide)⟩
  rw [lowerList]
  split
  next hc => exact ⟨_, [], rfl, toLower_facts (val_lt_128_iff.mp hc), by simp⟩
  next hc =>
    rw [val_lt_128_iff] at hc
    split
    next =>
      obtain ⟨hi, hletter⟩ : IsLowered 'i' ∧ IsLetterlike 'i' :=
        ⟨isLowered_of_ascii (by decide) (by decide), .inl (by decide)⟩
      exact ⟨_, _, rfl, ⟨hi, .inr hletter⟩, by simpa using hforeign 0x307 (by decide)⟩
    next hdotted =>
      split
      next =>
        obtain ⟨hfinal, hletter⟩ := hforeign 0x3C2 (by decide)
        obtain ⟨hinner, hletter'⟩ := hforeign 0x3C3 (by decide)
        refine ⟨_, [], rfl, ?_, by simp⟩
        split
        · exact ⟨hfinal, .inr hletter⟩
        · exact ⟨hinner, .inr hletter'⟩
      next hsigma =>
        have hdotted' : c.toNat ≠ 0x130 := fun heq => hdotted (UInt32.toNat_inj.mp heq)
        have hsigma' : c.toNat ≠ 0x3A3 := fun heq => hsigma (UInt32.toNat_inj.mp heq)
        exact ⟨_, [], rfl, lowerChar_facts (by omega) hdotted' hsigma', by simp⟩

theorem isLowered_of_mem_lowerList (h : d ∈ lowerList before cs) : IsLowered d := by
  induction cs generalizing before with
  | nil => cases h
  | cons c cs ih =>
    obtain ⟨e, small, heq, hfirst, hsmall⟩ := lowerList_cons before c cs
    rw [heq, List.cons_append, List.mem_cons, List.mem_append] at h
    rcases h with rfl | hd | hd
    · exact hfirst.1
    · exact (hsmall d hd).1
    · exact ih hd

/-- A character of a text in small letters was there before, or it is a letter. -/
theorem mem_or_isLetterlike (h : d ∈ lowerList before cs) : d ∈ cs ∨ IsLetterlike d := by
  induction cs generalizing before with
  | nil => cases h
  | cons c cs ih =>
    obtain ⟨e, small, heq, hfirst, hsmall⟩ := lowerList_cons before c cs
    rw [heq, List.cons_append, List.mem_cons, List.mem_append] at h
    rcases h with rfl | hd | hd
    · exact hfirst.2.imp_left fun (heq : d = c) => heq ▸ List.mem_cons_self
    · exact .inr (hsmall d hd).2
    · exact (ih hd).imp_left (List.mem_cons_of_mem c)

@[simp]
theorem lower_lower (s : String) : lower (lower s) = lower s := by
  rw [lower, lower, String.toList_ofList,
    lowerList_of_isLowered [] fun d hd => isLowered_of_mem_lowerList hd]

end Gleaner.Text
