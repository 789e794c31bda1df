import Gleaner.Decimal.Text
import Mathlib

/-! What decimals read as: floats that may be infinite, but are never the NaN. -/

namespace Gleaner.Decimal

open Float.Model Float.Model.UnpackedFloat

section Unpacked

variable {spec : Format} {f g : UnpackedFloat} {s : Sign}

theorem isNaN_unpack (spec : Format) (s : Sign) (e : BitVec spec.exponentBits)
    (m : BitVec spec.mantissaBitsWithoutImplicit) :
    (UnpackedFloat.unpack spec (packComponents spec s e m)).isNaN =
      decide (e = -1#_ ∧ m ≠ 0#_) := by
  unfold UnpackedFloat.unpack
  simp only [unpackExponent_packComponents, unpackMantissa_packComponents]
  split
  next he => split <;> simp_all [UnpackedFloat.isNaN]
  next he =>
    split
    next => split <;> simp [UnpackedFloat.isNaN, he]
    next => simp [UnpackedFloat.isNaN, he]

theorem ofNat_ne_neg_one (spec : Format) {n : Nat} (h : n + 1 < 2 ^ spec.exponentBits) :
    BitVec.ofNat spec.exponentBits n ≠ -1#_ := by
  intro heq
  have hvalue := congrArg BitVec.toNat heq
  rw [BitVec.toNat_ofNat, Nat.mod_eq_of_lt (by omega), BitVec.neg_one_eq_allOnes,
    BitVec.toNat_allOnes] at hvalue
  omega

/-- What is packed is the NaN just if it was so before. -/
theorem isNaN_pack (f : UnpackedFloat) : (Float.ofModel (.pack f)).isNaN = f.isNaN := by
  change (UnpackedFloat.unpack .binary64 (UnpackedFloat.pack .binary64 f)).isNaN = f.isNaN
  have hinfinity : ∀ s, (UnpackedFloat.unpack .binary64 (packedInfinity .binary64 s)).isNaN =
      false := fun s => (isNaN_unpack .binary64 s _ _).trans (by decide)
  cases f with
  | notANumber => exact (isNaN_unpack .binary64 _ _ _).trans (by decide)
  | infinity s => exact hinfinity s
  | zero s =>
    exact (isNaN_unpack .binary64 s _ _).trans (decide_eq_false fun h => absurd h.1 (by decide))
  | finite s m e hm =>
    unfold UnpackedFloat.pack
    dsimp only
    split
    next => exact hinfinity s
    next hlow =>
      -- the exponents up to the limit are short of the one that stands for no number
      have hexponent := ofNat_ne_neg_one .binary64 (Nat.lt_of_not_le hlow)
      split
      next =>
        rw [isNaN_unpack]
        exact decide_eq_false fun h => hexponent h.1
      next =>
        rw [isNaN_unpack]
        exact decide_eq_false fun h => absurd h.1 (by decide)

theorem isNaN_roundWithAccuracy (s : Sign) (m : Nat) (e : Int) (a : Accuracy) :
    (roundWithAccuracy spec s m e a).isNaN = false := by
  unfold roundWithAccuracy
  dsimp only
  split <;> rfl

theorem isNaN_neg (f : UnpackedFloat) : f.neg.isNaN = f.isNaN := by
  cases f <;> rfl

/-- Finite, and no zero. -/
def isProper : UnpackedFloat → Bool
  | .finite .. => true
  | _ => false

/-- A product with a proper factor is the NaN only if the other factor is. -/
theorem isNaN_mul (hf : f.isNaN = false) (hg : isProper g = true) :
    (UnpackedFloat.mul spec f g).isNaN = false := by
  cases g with
  | notANumber | infinity | zero => cases hg
  | finite s m e hm =>
    cases f with
    | notANumber => cases hf
    | infinity | zero => rfl
    | finite => exact isNaN_roundWithAccuracy ..

/-- A quotient by a proper number is the NaN only if the dividend is. -/
theorem isNaN_div (hf : f.isNaN = false) (hg : isProper g = true) :
    (UnpackedFloat.div spec f g).isNaN = false := by
  cases g with
  | notANumber | infinity | zero => cases hg
  | finite s m e hm =>
    cases f with
    | notANumber => cases hf
    | infinity | zero => rfl
    | finite => exact isNaN_roundWithAccuracy ..

theorem isNaN_ofScientific (n : Nat) (e : Int) :
    (UnpackedFloat.ofScientific spec n e).isNaN = false := by
  unfold UnpackedFloat.ofScientific
  split
  next => rfl
  split
  next => rfl
  split
  next => rfl
  split
  next => exact isNaN_mul rfl rfl
  next => exact isNaN_div rfl rfl

theorem isNaN_ofNat (n : Nat) : (UnpackedFloat.ofNat spec n).isNaN = false := by
  unfold UnpackedFloat.ofNat UnpackedFloat.ofInt UnpackedFloat.normalize UnpackedFloat.round
  split
  next => exact isNaN_roundWithAccuracy ..
  next => rfl
  next => exact isNaN_roundWithAccuracy ..

end Unpacked

section Literal

theorem isProper_power : ∀ e (_ : e < Float.exactlyRepresentablePowersOfTen.size),
    isProper Float.exactlyRepresentablePowersOfTen[e].toModel.unpack = true := by
  decide +kernel

theorem isNaN_scientific (n : Nat) (down : Bool) (e : Nat) :
    (Float.ofScientific n down e).isNaN = false := by
  have hwhole : n.toUInt64.toFloat.isNaN = false := (isNaN_pack _).trans (isNaN_ofNat _)
  unfold Float.ofScientific
  split
  next h =>
    have hpower := isProper_power e (Nat.lt_succ_of_le h.2)
    dsimp only
    split
    next => exact (isNaN_pack _).trans (isNaN_div hwhole hpower)
    next => exact (isNaN_pack _).trans (isNaN_mul hwhole hpower)
  next => exact (isNaN_pack _).trans (isNaN_ofScientific _ _)

theorem isNaN_nearest (n : Nat) (e : Int) : (nearest n e).isNaN = false := by
  unfold nearest
  dsimp only
  split
  next => decide
  split
  next => decide
  next => exact isNaN_scientific ..

/-- A literal reads as a number. -/
theorem Literal.isNaN_toFloat (l : Literal) : l.toFloat.isNaN = false := by
  have hnearest := isNaN_nearest (natOf (l.whole ++ l.fraction)) (l.exponent - l.fraction.length)
  unfold toFloat
  dsimp only
  split
  next => exact (isNaN_pack _).trans ((isNaN_neg _).trans hnearest)
  next => exact hnearest

theorem isNaN_notANumber : notANumber.isNaN = true := by decide

end Literal

end Gleaner.Decimal
