/-
# Finite doubles

A double is finite unless its exponent is the largest one, which infinities and what is no number
have.  A change of sign keeps the exponent, and the double nearest to a 64-bit word has a small
one: rounding adds at most one to the mantissa, and a mantissa has far fewer digits than the
exponent leaves room for.  Hence an integer of JSON text is never read as an infinity
(`Record.isFinite_floatOfInt`).
-/

import Mathlib.Algebra.Group.Nat.Defs
import RubyModel.Record.Slots

namespace RubyModel

open Float.Model (Format UnpackedFloat totalExponent)
open Float.Model.UnpackedFloat (Sign Accuracy ExtendedMantissa)

namespace Double

/-- A number that is small enough for a double. -/
def Fits : UnpackedFloat → Prop
  | .zero _ => True
  | .finite _ _ exponent _ => exponent ≤ 971
  | .infinity _ | .notANumber => False

/-- The exponent in the bits of a double. -/
def exponentBits (bits : BitVec 64) : BitVec 11 :=
  @UnpackedFloat.unpackExponent .binary64 bits

/-- The exponent of infinities is the largest one. -/
theorem exponentBits_le {bits : BitVec 64} (h : exponentBits bits ≠ -1#11) :
    (exponentBits bits).toNat ≤ 2046 := by
  bv_omega

/-- A smaller exponent is not the largest one. -/
theorem ofNat_ne_largest {exponent : Nat} (h : exponent ≤ 2046) :
    BitVec.ofNat 11 exponent ≠ -1#11 := by
  bv_omega

/-- Bits stand for a number unless their exponent is the largest one. -/
theorem isFinite_unpack {bits : BitVec 64} :
    (UnpackedFloat.unpack .binary64 bits).isFinite = true ↔ exponentBits bits ≠ -1#11 := by
  unfold UnpackedFloat.unpack
  dsimp only
  by_cases largest : exponentBits bits = -1#11
  · refine iff_of_false ?_ fun other => other largest
    rw [exponentBits] at largest
    rw [if_pos largest, apply_ite UnpackedFloat.isFinite]
    show ¬ (ite _ false false) = true
    rw [ite_self]
    exact Bool.false_ne_true
  · refine iff_of_true ?_ largest
    rw [exponentBits] at largest
    rw [if_neg largest, apply_ite UnpackedFloat.isFinite, apply_dite UnpackedFloat.isFinite]
    show ite _ (dite _ (fun _ => true) fun _ => true) true = true
    rw [dite_eq_ite, ite_self, ite_self]

/-- The number that bits stand for fits. -/
theorem fits_unpack {bits : BitVec 64}
    (h : (UnpackedFloat.unpack .binary64 bits).isFinite = true) :
    Fits (UnpackedFloat.unpack .binary64 bits) := by
  have other := isFinite_unpack.1 h
  have small := exponentBits_le other
  unfold exponentBits at other small
  unfold UnpackedFloat.unpack
  dsimp only
  have bias : (Format.binary64.exponentBias : Int) = 1023 := rfl
  rw [if_neg other]
  by_cases zero : @UnpackedFloat.unpackExponent .binary64 bits = 0#11
  · rw [if_pos zero]
    by_cases none : @UnpackedFloat.unpackMantissa .binary64 bits = 0#52
    · rw [dif_pos none]
      trivial
    · rw [dif_neg none, zero, bias]
      show _ ≤ (971 : Int)
      decide
  · rw [if_neg zero, bias]
    show _ ≤ (971 : Int)
    omega

/-- A number that fits is finite as a double. -/
theorem isFinite_pack {number : UnpackedFloat} (h : Fits number) :
    (Float.Model.pack number).isFinite = true := by
  refine isFinite_unpack.2 ?_
  have components (sign : Sign) (exponent : BitVec 11) (mantissa : BitVec 52) :
      exponentBits (UnpackedFloat.packComponents .binary64 sign exponent mantissa) = exponent :=
    UnpackedFloat.unpackExponent_packComponents
  cases number with
  | zero sign =>
    show exponentBits (UnpackedFloat.packComponents .binary64 sign 0 0) ≠ _
    rw [components]
    decide
  | finite sign mantissa exponent pos =>
    have small : (exponent + (1023 : Nat) + (52 : Nat)).toNat ≤ 2046 := by
      have : exponent ≤ 971 := h
      omega
    show exponentBits (UnpackedFloat.pack .binary64 (.finite sign mantissa exponent pos)) ≠ _
    unfold UnpackedFloat.pack
    dsimp only
    rw [if_neg (by show ¬ 2048 ≤ (exponent + (1023 : Nat) + (52 : Nat)).toNat + 1; omega)]
    by_cases full : mantissa.log2 + 1 = Format.binary64.mantissaBits
    · rw [if_pos full, components]
      exact ofNat_ne_largest small
    · rw [if_neg full, components]
      decide
  | infinity | notANumber => exact h.elim

/-- The sign does not matter for the bounds. -/
theorem Fits.neg {number : UnpackedFloat} (h : Fits number) : Fits number.neg := by
  cases number <;> exact h

/-- A finite double stays finite if its sign changes. -/
theorem isFinite_neg {value : Float} (h : value.isFinite = true) : (-value).isFinite = true :=
  isFinite_pack (fits_unpack h).neg

/-! ## Whole numbers -/

/-- A mantissa does not grow when it is shifted right. -/
theorem mantissa_shiftRight_le (mantissa : ExtendedMantissa) (count : Nat) :
    (mantissa >>> count).mantissa ≤ mantissa.mantissa := by
  induction count with
  | zero => exact Nat.le_refl _
  | succ count ih => exact Nat.le_trans (Nat.div_le_self _ 2) ih

/-- Rounding adds at most one in the last place. -/
theorem roundedMantissa_le (mantissa : ExtendedMantissa) :
    mantissa.roundedMantissa ≤ mantissa.mantissa + 1 := by
  obtain ⟨mantissa, round, sticky⟩ := mantissa
  cases round <;> cases sticky <;>
    simp only [ExtendedMantissa.roundedMantissa, ExtendedMantissa.accuracy,
      Accuracy.roundToNearestEven] <;> omega

/-- A shift to the wanted exponent does not make the mantissa larger. -/
theorem shiftToTargetExponent_mantissa_le (mantissa : Nat) (exponent : Int) :
    (UnpackedFloat.shiftToTargetExponent .binary64 mantissa exponent .exact).1.mantissa ≤
      mantissa :=
  mantissa_shiftRight_le _ _

/-- Such a shift leaves the exponent below the number of digits. -/
theorem shiftToTargetExponent_exponent_le (mantissa : Nat) (exponent : Int)
    (low : -1074 ≤ exponent) :
    (UnpackedFloat.shiftToTargetExponent .binary64 mantissa exponent .exact).2 ≤
      max exponent (mantissa.log2 + 1 + exponent) := by
  simp only [UnpackedFloat.shiftToTargetExponent, UnpackedFloat.shiftToExponent,
    Format.targetExponent, totalExponent]
  have least : Format.binary64.minExponent = -1074 := rfl
  have digits : Format.binary64.mantissaBits = 53 := rfl
  rw [least, digits]
  omega

/-- Such a shift does not make the exponent smaller. -/
theorem le_shiftToTargetExponent_exponent (mantissa : Nat) (exponent : Int) :
    exponent ≤ (UnpackedFloat.shiftToTargetExponent .binary64 mantissa exponent .exact).2 := by
  simp only [UnpackedFloat.shiftToTargetExponent, UnpackedFloat.shiftToExponent]
  omega

/-- What is rounded fits, unless it is far larger than any 64-bit word. -/
theorem fits_roundWithAccuracy (sign : Sign) {mantissa : Nat} {exponent : Int}
    (small : mantissa + 1 < 2 ^ 200) (low : -1074 ≤ exponent) (high : exponent ≤ 0) :
    Fits (UnpackedFloat.roundWithAccuracy .binary64 sign mantissa exponent .exact) := by
  have log2_lt {n : Nat} (h : n < 2 ^ 200) : n.log2 < 200 := by
    rcases Nat.eq_zero_or_pos n with rfl | pos
    · decide
    · exact (Nat.log2_lt (Nat.ne_of_gt pos)).2 h
  unfold UnpackedFloat.roundWithAccuracy
  have mantissa_le := shiftToTargetExponent_mantissa_le mantissa exponent
  have exponent_le := shiftToTargetExponent_exponent_le mantissa exponent low
  have le_exponent := le_shiftToTargetExponent_exponent mantissa exponent
  generalize UnpackedFloat.shiftToTargetExponent .binary64 mantissa exponent .exact = first at *
  obtain ⟨cut, shifted⟩ := first
  have rounded_le := roundedMantissa_le cut
  dsimp only at *
  have final_le := shiftToTargetExponent_exponent_le cut.roundedMantissa shifted (by omega)
  generalize UnpackedFloat.shiftToTargetExponent .binary64 cut.roundedMantissa shifted .exact =
    second at *
  obtain ⟨final, last⟩ := second
  have digits := log2_lt (Nat.lt_of_succ_lt small)
  have roundedDigits : cut.roundedMantissa.log2 < 200 := log2_lt (by omega)
  dsimp only at *
  by_cases none : final.mantissa = 0
  · rw [dif_pos none]
    trivial
  · rw [dif_neg none]
    show last ≤ 971
    omega

/-- What is rounded from a 64-bit word fits. -/
theorem fits_round (sign : Sign) {mantissa : Nat} (bound : mantissa < 2 ^ 64) :
    Fits (UnpackedFloat.round .binary64 sign mantissa 0) := by
  unfold UnpackedFloat.round UnpackedFloat.decreaseExponent
  have target_ge : -52 ≤ Format.binary64.targetExponent (totalExponent mantissa 0) := by
    have digits : Format.binary64.mantissaBits = 53 := rfl
    simp only [Format.targetExponent, totalExponent, digits]
    omega
  generalize Format.binary64.targetExponent (totalExponent mantissa 0) = target at *
  dsimp only
  have shift_le : (0 - target).toNat ≤ 52 := by omega
  refine fits_roundWithAccuracy sign ?_ (by omega) (by omega)
  calc mantissa <<< (0 - target).toNat + 1
      = mantissa * 2 ^ (0 - target).toNat + 1 := by rw [Nat.shiftLeft_eq]
    _ ≤ 2 ^ 64 * 2 ^ 52 + 1 := Nat.succ_le_succ
        (Nat.mul_le_mul (Nat.le_of_lt bound) (Nat.pow_le_pow_right (by decide) shift_le))
    _ < 2 ^ 200 := by decide

/-- A 64-bit word fits. -/
theorem fits_ofUInt64 (word : UInt64) : Fits (UnpackedFloat.ofUInt64 .binary64 word) := by
  unfold UnpackedFloat.ofUInt64 UnpackedFloat.ofNat UnpackedFloat.ofInt UnpackedFloat.normalize
  split
  case h_1 => exact fits_round .negative (by have := word.toNat_lt; omega)
  case h_2 => trivial
  case h_3 => exact fits_round .positive (by have := word.toNat_lt; omega)

/-- The double nearest to a 64-bit word is finite. -/
theorem isFinite_toFloat (word : UInt64) : word.toFloat.isFinite = true :=
  isFinite_pack (fits_ofUInt64 word)

end Double

/-- An integer is read as a finite double. -/
theorem Record.isFinite_floatOfInt (value : Int) : (floatOfInt value).isFinite = true := by
  cases value with
  | ofNat n => exact Double.isFinite_toFloat _
  | negSucc n => exact Double.isFinite_neg (Double.isFinite_toFloat _)

end RubyModel
