import Gleaner.Proofs.Decimal.Numeral
import Mathlib

/-! The text of a finite number is that of a numeral: its digits start with no zero. -/

namespace Gleaner.Decimal

open Numeral

variable {n m e : Nat} {c : Char} {ds : List Char} {w : Window} {d s : Int}

section Digits

theorem digits_digits (n : Nat) : Digits (digits n) := fun _ hc =>
  Nat.isDigit_of_mem_toDigits (by decide) (by decide) hc

theorem lt_pow_length_digits (n : Nat) : n < 10 ^ (digits n).length :=
  (Nat.length_toDigits_le_iff (by decide) Nat.length_toDigits_pos).mp le_rfl

theorem pow_length_digits_le (hn : 0 < n) : 10 ^ ((digits n).length - 1) ≤ n := by
  by_contra hlt
  rcases Nat.eq_zero_or_pos ((digits n).length - 1) with hzero | hpos
  · rw [hzero, pow_zero] at hlt
    omega
  · have hlength := (Nat.length_toDigits_le_iff (by decide) hpos).mpr (not_le.mp hlt)
    change (digits n).length ≤ _ at hlength
    omega

theorem exists_cons_digits (hn : 0 < n) : ∃ c ds, digits n = c :: ds ∧ c ≠ '0' := by
  induction n using Nat.strong_induction_on with
  | _ n ih =>
    rcases Nat.lt_or_ge n 10 with hlt | hge
    · refine ⟨n.digitChar, [], Nat.toDigits_of_lt_base hlt, ?_⟩
      simpa using hn.ne'
    · obtain ⟨c, ds, hcons, hc⟩ := ih (n / 10) (by omega) (by omega)
      refine ⟨c, ds ++ [(n % 10).digitChar], ?_, hc⟩
      rw [digits, Nat.toDigits_of_base_le (by decide) hge]
      exact congrArg (· ++ _) hcons

end Digits

section Search

/-- The value of a window is a positive fraction, and so is its lower end. -/
structure Window.Sound (w : Window) : Prop where
  den : 0 < w.den
  low : 0 < w.low
  mid : 0 < w.mid
  high : 0 < w.high

theorem sound_ofBinary (hm : 0 < m) (e : Nat) : (Window.ofBinary m e).Sound := by
  have hscale : 0 < if 1077 ≤ e then Nat.pow 2 (e - 1077) else 1 := by
    split
    · exact Nat.pow_pos (by decide)
    · decide
  constructor
  · simp only [Window.ofBinary]
    split
    · decide
    · exact Nat.pow_pos (by decide)
  · refine Nat.mul_pos ?_ hscale
    split <;> omega
  · exact Nat.mul_pos (by omega) hscale
  · exact Nat.mul_pos (by omega) hscale

theorem Window.Sound.not_holds_zero (h : w.Sound) (s : Int) : w.holds 0 s = false := by
  by_cases hs : 0 ≤ s <;> simp [Window.holds, hs, h.low.ne, h.high.ne, h.low.ne', h.high.ne']

/-- The value lies at or above the grid of spacing 10 ^ s. -/
def Window.Reaches (w : Window) (s : Int) : Prop :=
  if 0 ≤ s then w.den * Nat.pow 10 s.toNat ≤ w.mid else w.den ≤ w.mid * Nat.pow 10 (-s).toNat

theorem Window.Sound.reaches_point (h : w.Sound) (hs : s < w.point) : w.Reaches s := by
  have hden := h.den
  have hmid := h.mid
  unfold Window.point at hs
  unfold Window.Reaches
  split at hs
  next hle =>
    have hpos : 0 < w.mid / w.den := Nat.div_pos hle hden
    split
    next hs' =>
      have hpow : 10 ^ s.toNat ≤ w.mid / w.den :=
        (Nat.pow_le_pow_right (by decide) (by omega)).trans (pow_length_digits_le hpos)
      calc w.den * 10 ^ s.toNat ≤ w.den * (w.mid / w.den) := Nat.mul_le_mul_left _ hpow
        _ ≤ w.mid := Nat.mul_div_le _ _
    next => exact hle.trans (Nat.le_mul_of_pos_right _ (Nat.pow_pos (by decide)))
  next hlt =>
    -- the value is under one: its inverse, rounded up, has as many digits as places are skipped
    have hlength : 0 < (digits ((w.den + w.mid - 1) / w.mid - 1)).length :=
      Nat.length_toDigits_pos
    have hpow : (w.den + w.mid - 1) / w.mid - 1 < 10 ^ (-s).toNat :=
      (lt_pow_length_digits _).trans_le (Nat.pow_le_pow_right (by decide) (by omega))
    have hinverse : w.den ≤ w.mid * ((w.den + w.mid - 1) / w.mid) := by
      have hdivide := Nat.div_add_mod (w.den + w.mid - 1) w.mid
      have hrest := Nat.mod_lt (w.den + w.mid - 1) hmid
      omega
    rw [if_neg (by omega)]
    exact hinverse.trans (Nat.mul_le_mul_left w.mid (by simpa using by omega))

theorem headD_neighbours_pos (h : w.Sound) (hs : w.Reaches s) :
    0 < (w.neighbours s).headD 0 := by
  have hnearer : ∀ (p : Prop) [Decidable p] (num den : Nat), 0 < num / den →
      0 < (if p then [num / den, num / den + 1] else [num / den + 1, num / den]).headD 0 := by
    intro p _ num den hpos
    split
    · exact hpos
    · exact Nat.succ_pos _
  unfold Window.Reaches at hs
  by_cases hsign : 0 ≤ s
  · simp only [hsign, if_true] at hs
    simp only [Window.neighbours, hsign, if_true]
    exact hnearer _ _ _ (Nat.div_pos hs (Nat.mul_pos h.den (Nat.pow_pos (by decide))))
  · simp only [hsign, if_false] at hs
    simp only [Window.neighbours, hsign, if_false]
    exact hnearer _ _ _ (Nat.div_pos hs h.den)

/-- No search ends at zero: where the grid is too coarse for the value, no neighbour lies in the
window. -/
theorem search_pos (h : w.Sound) {fuel k : Nat} (hd : w.Reaches (d - (fuel + k : Nat))) :
    0 < (w.search d fuel k).1 := by
  induction fuel generalizing k with
  | zero =>
    rw [Nat.zero_add] at hd
    exact headD_neighbours_pos h hd
  | succ fuel ih =>
    rw [Window.search]
    split
    next c hfound =>
      have hholds := List.find?_some hfound
      rcases Nat.eq_zero_or_pos c with rfl | hpos
      · rw [h.not_holds_zero] at hholds
        cases hholds
      · exact hpos
    next => exact ih (by rwa [Nat.add_right_comm, Nat.add_assoc] at hd)

end Search

section Layout

/-- Digits of which the first is no zero. -/
structure Leading (ds : List Char) : Prop where
  all : Digits ds
  leading : ∃ c rest, ds = c :: rest ∧ c ≠ '0'

/-- Without the zeros at its end a number has the same first digit. -/
theorem leading_kept (hn : 0 < n) :
    Leading ((digits n).reverse.dropWhile (· = '0')).reverse := by
  obtain ⟨c, rest, hcons, hc⟩ := exists_cons_digits hn
  have hkept : ((digits n).rdropWhile (· = '0')) <+: c :: rest := hcons ▸ List.rdropWhile_prefix _ _
  have hne : (digits n).rdropWhile (· = '0') ≠ [] := by
    rw [Ne, List.rdropWhile_eq_nil_iff]
    exact fun hall => hc (by simpa using hall c (by simp [hcons]))
  refine ⟨fun d hd => ?_, ?_⟩
  · exact digits_digits n d (hcons ▸ hkept.subset hd)
  · obtain ⟨after, hafter⟩ := hkept
    obtain ⟨first, others, hfirst⟩ := List.exists_cons_of_ne_nil hne
    rw [hfirst, List.cons_append] at hafter
    exact ⟨first, others, hfirst, (List.cons.inj hafter).1 ▸ hc⟩

theorem shortest_leading (hm : 0 < m) (e : Nat) : Leading (shortest m e).1 := by
  have hsound := sound_ofBinary hm e
  have hpos : 0 < ((Window.ofBinary m e).search (Window.ofBinary m e).point 17 1).1 :=
    search_pos hsound (hsound.reaches_point (by omega))
  rw [shortest, if_neg hm.ne']
  exact leading_kept hpos

theorem digits_zeros (n : Nat) : Digits (zeros n) := by
  intro c hc
  rw [List.eq_of_mem_replicate hc]
  rfl

theorem Numeral.Digits.append {cs ds : List Char} (hc : Digits cs) (hd : Digits ds) :
    Digits (cs ++ ds) := by
  intro c hmem
  rcases List.mem_append.mp hmem with hmem | hmem
  · exact hc c hmem
  · exact hd c hmem

/-- What is written with a point or with an exponent is no whole number. -/
def Numeral.Broken (n : Numeral) : Prop := n.fraction ≠ [] ∨ n.exponent ≠ none

/-- A text is that of a proper numeral with a point or an exponent. -/
def IsBroken (negative : Bool) (cs : List Char) : Prop :=
  ∃ n : Numeral, n.Proper ∧ n.Broken ∧ n.negative = negative ∧ signText negative ++ cs = n.text

theorem Leading.positional (h : Leading ds) (negative : Bool) (d : Int) :
    IsBroken negative (positional ds d) := by
  have hall := h.all
  obtain ⟨c, rest, rfl, hc⟩ := h.leading
  unfold Decimal.positional
  split
  next =>
    have hdigits := (digits_zeros (-d).toNat).append hall
    have hsome : zeros (-d).toNat ++ c :: rest ≠ [] := by simp
    obtain ⟨first, others, hcons⟩ := List.exists_cons_of_ne_nil hsome
    refine ⟨⟨negative, ['0'], first :: others, none⟩,
      proper_plain (digits_zeros 1) (.inl rfl) (hcons ▸ hdigits), .inl (by simp), rfl, ?_⟩
    simp [text, fractionText, exponentText, hcons]
  next hpos =>
    by_cases hlength : (c :: rest).length ≤ d.toNat
    · refine ⟨⟨negative, c :: rest ++ zeros (d.toNat - (c :: rest).length), ['0'], none⟩,
        proper_plain (hall.append (digits_zeros _)) (.inr ⟨c, _, rfl, hc⟩) (digits_zeros 1),
        .inl (by simp), rfl, ?_⟩
      simp only [if_pos hlength, text, fractionText, exponentText, List.append_nil,
        List.append_assoc]
    · obtain ⟨k, hk⟩ := Nat.exists_eq_succ_of_ne_zero (n := d.toNat) (by omega)
      have hsome : (c :: rest).drop d.toNat ≠ [] := by simpa using hlength
      obtain ⟨first, others, hcons⟩ := List.exists_cons_of_ne_nil hsome
      refine ⟨⟨negative, (c :: rest).take d.toNat, first :: others, none⟩,
        proper_plain (fun x hx => hall x (List.mem_of_mem_take hx))
          (.inr ⟨c, rest.take k, by rw [hk]; rfl, hc⟩)
          fun x hx => hall x (List.mem_of_mem_drop (hcons ▸ hx)), .inl (by simp), rfl, ?_⟩
      simp only [if_neg hlength, text, fractionText, exponentText, List.append_nil, hcons]

theorem Leading.scientific (h : Leading ds) (negative : Bool) (style : Style) (d : Int) :
    IsBroken negative (scientific style ds d) := by
  have hall := h.all
  obtain ⟨c, rest, rfl, hc⟩ := h.leading
  refine ⟨⟨negative, [c], rest, some (decide (d - 1 < 0),
      zeros (style.exponentDigits - (Decimal.digits (d - 1).natAbs).length) ++
        Decimal.digits (d - 1).natAbs)⟩,
    ⟨fun x hx => hall x (by simp_all), .inr ⟨c, [], rfl, hc⟩,
      fun x hx => hall x (List.mem_cons_of_mem c hx), ?_⟩, .inr (by simp), rfl, ?_⟩
  · rintro _ _ ⟨⟩
    exact ⟨by simp [Decimal.digits], (digits_zeros _).append (digits_digits _)⟩
  · cases rest <;> simp [Decimal.scientific, text, fractionText, exponentText]

theorem Leading.layout (h : Leading ds) (negative : Bool) (style : Style) (d : Int) :
    IsBroken negative (style.layout ds d) := by
  unfold Style.layout
  split
  · exact h.positional negative d
  · exact h.scientific negative style d

end Layout

section Finite

variable {x : Float}

open Float.Model in
/-- A finite number is no NaN, and has not the exponent of the infinities. -/
theorem exponent_of_isFinite (h : x.isFinite = true) :
    x.isNaN = false ∧ x.toBits.toNat / 2 ^ 52 % 2048 ≠ 2047 := by
  have hexponent :
      (@UnpackedFloat.unpackExponent Format.binary64 x.toModel.toBits.toBitVec).toNat =
        x.toBits.toNat / 2 ^ 52 % 2048 := by
    simp only [UnpackedFloat.unpackExponent, BitVec.toNat_cast, BitVec.extractLsb_toNat]
    rw [Nat.shiftRight_eq_div_pow]
    rfl
  change (UnpackedFloat.unpack Format.binary64 x.toModel.toBits.toBitVec).isFinite = true at h
  change (UnpackedFloat.unpack Format.binary64 x.toModel.toBits.toBitVec).isNaN = false ∧ _
  unfold UnpackedFloat.unpack at h ⊢
  simp only at h ⊢
  split at h
  next => split at h <;> cases h
  next hne =>
    rw [if_neg hne]
    refine ⟨by split <;> (try split) <;> rfl, fun heq => hne (BitVec.eq_of_toNat_eq ?_)⟩
    rw [hexponent, heq]
    rfl

theorem isBroken_shortest (negative : Bool) (m e : Nat) :
    IsBroken negative (plain.layout (shortest m e).1 (shortest m e).2) := by
  rcases Nat.eq_zero_or_pos m with rfl | hm
  · exact ⟨⟨negative, ['0'], ['0'], none⟩,
      proper_plain (digits_zeros 1) (.inl rfl) (digits_zeros 1), .inl (by simp), rfl, rfl⟩
  · exact (shortest_leading hm e).layout negative plain (shortest m e).2

/-- The text of a finite number is that of a numeral with a point or an exponent. -/
theorem exists_numeral (h : x.isFinite = true) :
    ∃ n : Numeral, n.Proper ∧ n.Broken ∧ ofFloat x = n.text := by
  obtain ⟨hnan, hexponent⟩ := exponent_of_isFinite h
  obtain ⟨n, hproper, hbroken, -, htext⟩ := isBroken_shortest
    (decide (2 ^ 63 ≤ x.toBits.toNat))
    (if x.toBits.toNat / 2 ^ 52 % 2048 = 0 then x.toBits.toNat % 2 ^ 52
      else x.toBits.toNat % 2 ^ 52 + 2 ^ 52) (max (x.toBits.toNat / 2 ^ 52 % 2048) 1)
  refine ⟨n, hproper, hbroken, Eq.trans ?_ htext⟩
  unfold ofFloat
  simp only [hnan, Nat.pow_eq, hexponent, signText, decide_eq_true_eq, if_false,
    Bool.false_eq_true]

end Finite

end Gleaner.Decimal
