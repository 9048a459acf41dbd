/-!
# Binary64 magnitudes

The bit patterns from zero up to infinity, in numerical order, stand for the
nonnegative binary64 numbers. A finite pattern is a significand times a power of
two, and `Binary64.nearest` gives the pattern of the number nearest to a ratio.
-/

namespace Calculator

namespace Binary64

/-- The pattern of infinity, the greatest one that stands for a number. -/
def infinity : Nat := 0x7ff0000000000000

/-- The least significand of a number that is not subnormal, 52 doublings of one. -/
def leadingBit : Nat := 0x10000000000000

/-- The bit that negative numbers have set beside the pattern of their magnitude. -/
def signBit : Nat := 0x8000000000000000

/-- The exponent of the power of two that subnormal numbers are multiples of. -/
def leastExponent : Int := -1074

/-- The significand of a finite pattern: its low 52 bits, with the leading bit above
them unless the number is subnormal. -/
def significand (pattern : Nat) : Nat :=
  if pattern < leadingBit then pattern else pattern % leadingBit + leadingBit

/-- The exponent of the power of two that the significand of a finite pattern is
multiplied by. -/
def exponent (pattern : Nat) : Int :=
  if pattern < leadingBit then leastExponent
  else (pattern / leadingBit : Nat) - 1 + leastExponent

/-- The pattern of a significand of at most 53 bits, or the next integer, times a
power of two; infinity if that is too large. -/
def patternOf (significand : Nat) (exponent : Int) : Nat :=
  min infinity ((exponent - leastExponent).toNat * leadingBit + significand)

/-- The integer nearest to a ratio, an even one if two are equally near. -/
def roundHalfEven (numerator denominator : Nat) : Nat :=
  let quotient := numerator / denominator
  let remainder := numerator % denominator
  if 2 * remainder < denominator then quotient
  else if denominator < 2 * remainder then quotient + 1
  else quotient + quotient % 2

/-- The exponent at which a positive ratio has a significand of 53 bits, raised to
the least exponent where it lies below. -/
def exponentOf (numerator denominator : Nat) : Int :=
  let estimate : Int := numerator.log2 - denominator.log2 - 53
  let quotient := (numerator <<< (-estimate).toNat) / (denominator <<< estimate.toNat)
  max leastExponent (if quotient < 2 * leadingBit then estimate else estimate + 1)

/-- The pattern of the binary64 number nearest to a ratio with positive
denominator, one with an even significand if two are equally near. Ratios too large
for a finite number give infinity. -/
def nearest (numerator denominator : Nat) : Nat :=
  if numerator = 0 then 0
  else
    let exponent := exponentOf numerator denominator
    patternOf
      (roundHalfEven (numerator <<< (-exponent).toNat) (denominator <<< exponent.toNat))
      exponent

/-- The number that a pattern stands for. -/
def toFloat (pattern : Nat) : Float :=
  Float.ofBits (UInt64.ofNat pattern)

/-- Rounding never leaves the patterns that stand for numbers. -/
theorem nearest_le_infinity (numerator denominator : Nat) :
    nearest numerator denominator ≤ infinity := by
  unfold nearest
  split
  · exact Nat.zero_le _
  · exact Nat.min_le_left _ _

end Binary64

end Calculator
