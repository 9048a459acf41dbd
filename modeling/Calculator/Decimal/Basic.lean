import Calculator.Binary64

/-!
# Decimal numbers

A decimal is an integer times a power of ten. `Decimal.ofChars?` reads digits with
at most one point, however many, and `Decimal.toFloat` rounds to binary64 once.
-/

namespace Calculator

/-- The number `digits * 10 ^ exponent`. -/
structure Decimal where
  digits : Nat
  exponent : Int
  deriving DecidableEq

namespace Decimal

/-- The integer that a row of digits stands for. -/
def ofDigits (row : List Char) : Nat :=
  row.foldl (fun value digit => 10 * value + (digit.toNat - '0'.toNat)) 0

/-- Read digits with at most one point among, before or behind them. At least one
digit is needed. -/
def ofChars? (characters : List Char) : Option Decimal :=
  let whole := characters.takeWhile (· != '.')
  let fraction := (characters.dropWhile (· != '.')).drop 1
  let row := whole ++ fraction
  if row.isEmpty || row.any (! ·.isDigit) then none
  else some ⟨ofDigits row, -(fraction.length : Int)⟩

/-- A power of ten. -/
def tenTo (exponent : Nat) : Nat :=
  Nat.pow 10 exponent

/-- A decimal is the ratio of this number to its denominator. -/
def numerator (decimal : Decimal) : Nat :=
  decimal.digits * tenTo decimal.exponent.toNat

/-- The power of ten that a decimal is divided by; one unless its exponent is
negative. -/
def denominator (decimal : Decimal) : Nat :=
  tenTo (-decimal.exponent).toNat

/-- The binary64 pattern nearest to a decimal. -/
def nearest (decimal : Decimal) : Nat :=
  Binary64.nearest decimal.numerator decimal.denominator

/-- The binary64 number nearest to a decimal; infinity if it is too large. -/
def toFloat (decimal : Decimal) : Float :=
  Binary64.toFloat decimal.nearest

end Decimal

end Calculator
