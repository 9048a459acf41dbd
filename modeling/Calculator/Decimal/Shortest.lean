import Calculator.Decimal.Basic

/-!
# Shortest decimals

Among the decimals that read back as a given binary64 number, the shortest one has
the fewest digits, and of several with that many it is the nearest. It is sought on
ever finer grids of powers of ten, where only the two neighbours of the number can
be the nearest point. A point is taken only after it has been read back, as
`Decimal.nearest_of_onGrid?_eq_some` says.
-/

namespace Calculator

namespace Decimal

/-- The exponent of the least power of ten above a positive ratio. The logarithm
of two estimates it to within two. -/
def magnitudeOf (numerator denominator : Nat) : Int :=
  let lessThan (exponent : Int) : Bool :=
    numerator * tenTo (-exponent).toNat < denominator * tenTo exponent.toNat
  let estimate := (((numerator.log2 : Int) - denominator.log2 - 1) * 30103).fdiv 100000
  if lessThan estimate then estimate
  else if lessThan (estimate + 1) then estimate + 1
  else estimate + 2

/-- Move the zeros at the end of the digits into the exponent. -/
def trim (decimal : Decimal) : Decimal :=
  if decimal.digits ≠ 0 ∧ decimal.digits % 10 = 0 then
    trim ⟨decimal.digits / 10, decimal.exponent + 1⟩
  else decimal
termination_by decimal.digits
decreasing_by omega

/-- The nearest multiple of a power of ten that reads back as a pattern whose number
is the given ratio, without zeros at its end. Halfway between two, the greater one is
taken. -/
def onGrid? (pattern numerator denominator : Nat) (exponent : Int) : Option Decimal :=
  let scaledNumerator := numerator * tenTo (-exponent).toNat
  let scaledDenominator := denominator * tenTo exponent.toNat
  let below := trim ⟨scaledNumerator / scaledDenominator, exponent⟩
  let above := trim ⟨scaledNumerator / scaledDenominator + 1, exponent⟩
  let belowIsNearer := 2 * (scaledNumerator % scaledDenominator) < scaledDenominator
  match decide (below.nearest = pattern), decide (above.nearest = pattern) with
  | true, true => if belowIsNearer then some below else some above
  | true, false => some below
  | false, true => some above
  | false, false => none

/-- A point that is taken reads back as the pattern it was sought for. -/
theorem nearest_of_onGrid?_eq_some {pattern numerator denominator : Nat} {exponent : Int}
    {decimal : Decimal} (found : onGrid? pattern numerator denominator exponent = some decimal) :
    decimal.nearest = pattern := by
  unfold onGrid? at found
  grind

/-- All digits of a significand times a power of two. -/
def exact (significand : Nat) (exponent : Int) : Decimal :=
  ⟨(significand <<< exponent.toNat) * Nat.pow 5 (-exponent).toNat, min exponent 0⟩

/-- The shortest decimal that reads back as a positive finite pattern. Seventeen
digits are enough for every pattern. -/
def shortest (pattern : Nat) : Decimal :=
  let significand := Binary64.significand pattern
  let exponent := Binary64.exponent pattern
  let numerator := significand <<< exponent.toNat
  let denominator := 1 <<< (-exponent).toNat
  let magnitude := magnitudeOf numerator denominator
  let found := (List.range 17).findSome? fun (count : Nat) =>
    onGrid? pattern numerator denominator (magnitude - 1 - count)
  found.getD (exact significand exponent).trim

end Decimal

end Calculator
