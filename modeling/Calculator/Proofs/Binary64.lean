import Calculator.Binary64
import Mathlib

/-!
# Numbers without a sign

The patterns up to infinity stand for positive zero, the positive numbers and positive
infinity, as `isUnsigned_toFloat` says: no NaN, no negative number and no negative zero is
among them. The three fields of a pattern are read as numbers here, so that this is a
matter of arithmetic on the pattern.
-/

namespace Calculator

open Float.Model

namespace Binary64

/-- Positive zero, a positive number or positive infinity. -/
def IsUnsigned (value : Float) : Prop :=
  value = 0.0 ∨ 0.0 < value

theorem IsUnsigned.ne_nan {value : Float} (isUnsigned : IsUnsigned value) :
    value ≠ Float.nan := by
  rintro rfl
  rcases isUnsigned with isZero | isPositive
  · exact absurd isZero (by decide)
  · exact absurd isPositive (by decide)

theorem IsUnsigned.isNaN_eq_false {value : Float} (isUnsigned : IsUnsigned value) :
    value.isNaN = false := by
  simp [isUnsigned.ne_nan]

theorem IsUnsigned.ne_negativeZero {value : Float} (isUnsigned : IsUnsigned value) :
    value ≠ -0.0 := by
  rintro rfl
  rcases isUnsigned with isZero | isPositive
  · exact absurd isZero (by decide)
  · exact absurd isPositive (by decide)

/-! ### The fields of a pattern -/

section Fields

variable (bits : BitVec 64)

private theorem toNat_unpackMantissa :
    (@UnpackedFloat.unpackMantissa Format.binary64 bits).toNat = bits.toNat % 2 ^ 52 := by
  rw [UnpackedFloat.unpackMantissa_def, BitVec.extractLsb'_toNat]
  simp

private theorem toNat_unpackExponent :
    (@UnpackedFloat.unpackExponent Format.binary64 bits).toNat = bits.toNat / 2 ^ 52 % 2 ^ 11 := by
  rw [UnpackedFloat.unpackExponent_def, BitVec.extractLsb'_toNat]
  simp [Nat.shiftRight_eq_div_pow]

private theorem toNat_unpackSign :
    (@UnpackedFloat.unpackSign Format.binary64 bits).toNat = bits.toNat / 2 ^ 63 % 2 := by
  rw [UnpackedFloat.unpackSign_def, BitVec.extractLsb'_toNat]
  simp [Nat.shiftRight_eq_div_pow]

variable {bits}

/-- Up to infinity, patterns have a positive sign. -/
theorem unpackSign_eq_zero (bound : bits.toNat ≤ infinity) :
    @UnpackedFloat.unpackSign Format.binary64 bits = 0#1 := by
  apply BitVec.eq_of_toNat_eq
  have sign := toNat_unpackSign bits
  rw [infinity] at bound
  rw [BitVec.toNat_zero]
  omega

/-- Up to infinity, only infinity has the exponent that infinities and NaN share. -/
theorem unpackMantissa_eq_zero (bound : bits.toNat ≤ infinity)
    (full : @UnpackedFloat.unpackExponent Format.binary64 bits = -1#11) :
    @UnpackedFloat.unpackMantissa Format.binary64 bits = 0#52 := by
  apply BitVec.eq_of_toNat_eq
  have mantissa := toNat_unpackMantissa bits
  have exponent : 2047 = bits.toNat / 2 ^ 52 % 2 ^ 11 := by
    rw [← toNat_unpackExponent, full]
    rfl
  rw [infinity] at bound
  rw [BitVec.toNat_zero]
  omega

/-- Up to infinity, only zero has neither an exponent nor a mantissa. -/
theorem eq_zero_of_unpack (bound : bits.toNat ≤ infinity)
    (noExponent : @UnpackedFloat.unpackExponent Format.binary64 bits = 0#11)
    (noMantissa : @UnpackedFloat.unpackMantissa Format.binary64 bits = 0#52) : bits = 0#64 := by
  apply BitVec.eq_of_toNat_eq
  have mantissa := toNat_unpackMantissa bits
  have exponent := toNat_unpackExponent bits
  rw [noMantissa, BitVec.toNat_zero] at mantissa
  rw [noExponent, BitVec.toNat_zero] at exponent
  rw [infinity] at bound
  rw [BitVec.toNat_zero]
  omega

end Fields

/-! ### Patterns up to infinity -/

theorem lt_iff_unpack {left right : Float} :
    left < right ↔ left.toModel.unpack.lt right.toModel.unpack = true := by
  change decide (left.toModel < right.toModel) = true ↔ _
  rw [decide_eq_true_eq]
  rfl

/-- A number whose pattern is at most that of infinity has no sign. -/
theorem isUnsigned_of_toBits_le {value : Float} (bound : value.toBits.toNat ≤ infinity) :
    IsUnsigned value := by
  by_cases isZero : value.toBits = 0
  · exact .inl (Float.toBits_inj.mp isZero)
  · right
    rw [lt_iff_unpack]
    change (UnpackedFloat.zero .positive).lt
      (UnpackedFloat.unpack Format.binary64 value.toBits.toBitVec) = true
    rw [UnpackedFloat.unpack]
    simp only [unpackSign_eq_zero bound]
    split
    · next full =>
        rw [if_pos (unpackMantissa_eq_zero bound full)]
        rfl
    · split
      · next noExponent =>
          split
          · next noMantissa =>
              have zeroBits := eq_zero_of_unpack bound noExponent noMantissa
              exact absurd (UInt64.toBitVec_inj.mp zeroBits) isZero
          · rfl
      · rfl

/-- Up to infinity, a pattern is the bits of the number that it stands for. -/
theorem toBits_toFloat {pattern : Nat} (bound : pattern ≤ infinity) :
    (toFloat pattern).toBits.toNat = pattern := by
  have small : pattern < 2 ^ 64 := Nat.lt_of_le_of_lt bound (by decide)
  have asBits : (UInt64.ofNat pattern).toBitVec.toNat = pattern := by
    simpa using Nat.mod_eq_of_lt small
  have notNaN : ¬ @UnpackedFloat.isNaNBits Format.binary64 (UInt64.ofNat pattern).toBitVec := by
    simp only [UnpackedFloat.isNaNBits, decide_eq_true_eq, not_and, not_not]
    exact unpackMantissa_eq_zero (asBits.symm ▸ bound)
  have packed : (toFloat pattern).toBits.toBitVec = (UInt64.ofNat pattern).toBitVec :=
    (@UnpackedFloat.pack_unpack Format.binary64 _ (by decide)).trans (if_neg notNaN)
  rw [← UInt64.toNat_toBitVec, packed, asBits]

/-- Apart from NaN, the magnitude of a number is a pattern up to infinity. -/
theorem magnitude_le_infinity {value : Float} (isNumber : value ≠ Float.nan) :
    value.toBits.toNat % signBit ≤ infinity := by
  have exponent := toNat_unpackExponent value.toBits.toBitVec
  have mantissa := toNat_unpackMantissa value.toBits.toBitVec
  rw [UInt64.toNat_toBitVec] at exponent mantissa
  have small := value.toBits.toNat_lt
  by_contra beyond
  rw [signBit, infinity] at beyond
  have full : @UnpackedFloat.unpackExponent Format.binary64 value.toBits.toBitVec = -1#11 := by
    apply BitVec.eq_of_toNat_eq
    rw [exponent]
    change _ = 2047
    omega
  have something : @UnpackedFloat.unpackMantissa Format.binary64 value.toBits.toBitVec ≠ 0#52 := by
    intro nothing
    rw [nothing, BitVec.toNat_zero] at mantissa
    omega
  have isNaN := value.toModel.valid.eq_packedNaN full something
  exact isNumber (Float.toBits_inj.mp (UInt64.toBitVec_inj.mp isNaN))

/-- Up to infinity, patterns stand for numbers without a sign. -/
theorem isUnsigned_toFloat {pattern : Nat} (bound : pattern ≤ infinity) :
    IsUnsigned (toFloat pattern) := by
  apply isUnsigned_of_toBits_le
  rw [toBits_toFloat bound]
  exact bound

end Binary64

end Calculator
