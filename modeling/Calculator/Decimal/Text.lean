import Calculator.Decimal.Shortest

/-!
# Number text

The text of a binary64 number is its shortest decimal, written positionally with at
least one digit behind the point while the leading digit is near the point, and with
an exponent otherwise. Zeros keep their sign, and all NaNs are written alike.
-/

namespace Calculator

namespace Decimal

/-- The powers of ten of a leading digit for which numbers are written without an
exponent. -/
structure PositionalRange where
  least : Int
  greatest : Int

/-- Numbers from `0.0001` up to but excluding `10 ^ 16` are written positionally. -/
def positionalRange : PositionalRange := ⟨-4, 15⟩

/-- Write digits with the point behind the first `point` of them, filling up with
zeros on either side. -/
def positional (digits : List Char) (point : Int) : List Char :=
  if point ≤ 0 then
    '0' :: '.' :: List.replicate (-point).toNat '0' ++ digits
  else if digits.length ≤ point.toNat then
    digits ++ List.replicate (point.toNat - digits.length) '0' ++ ['.', '0']
  else
    digits.take point.toNat ++ '.' :: digits.drop point.toNat

/-- Write an integer in decimal, with a minus sign if it is negative. -/
def signed (value : Int) : List Char :=
  let magnitude := Nat.toDigits 10 value.natAbs
  if value < 0 then '-' :: magnitude else magnitude

/-- Write one digit, the others behind a point if there are any, and the power of
ten of the first digit. -/
def scientific (digits : List Char) (power : Int) : List Char :=
  let others := digits.drop 1
  digits.take 1 ++ (if others.isEmpty then [] else '.' :: others) ++ 'e' :: signed power

/-- The characters of a positive decimal without trailing zeros. -/
def toChars (decimal : Decimal) : List Char :=
  let digits := Nat.toDigits 10 decimal.digits
  let power := decimal.exponent + digits.length - 1
  if positionalRange.least ≤ power ∧ power ≤ positionalRange.greatest then
    positional digits (power + 1)
  else
    scientific digits power

end Decimal

namespace Binary64

/-- The characters of the number that a pattern stands for. -/
def toChars (pattern : Nat) : List Char :=
  if pattern = 0 then ['0', '.', '0']
  else if pattern = infinity then ['i', 'n', 'f']
  else (Decimal.shortest pattern).toChars

end Binary64

/-- The characters of a binary64 number: a sign if it is negative, and the text of
its magnitude. NaN has no sign. -/
def numberChars (value : Float) : List Char :=
  if value.isNaN then ['N', 'a', 'N']
  else
    let pattern := value.toBits.toNat
    if pattern < Binary64.signBit then Binary64.toChars pattern
    else '-' :: Binary64.toChars (pattern - Binary64.signBit)

/-- The text of a binary64 number. -/
def numberText (value : Float) : String :=
  String.ofList (numberChars value)

end Calculator
