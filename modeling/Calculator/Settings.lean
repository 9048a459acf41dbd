/-!
# Settings

What a caller chooses about reading and evaluating: how deep parentheses may nest,
and what becomes of a division by zero.
-/

namespace Calculator

/-- What becomes of a division whose divisor is zero, of either sign. -/
inductive DivisionPolicy where
  /-- Divide as binary64 does, to an infinity or NaN. -/
  | ieee
  /-- Refuse the division. -/
  | reject
  deriving DecidableEq

/-- The choices shared by reading and evaluating. -/
structure Settings where
  /-- The deepest nesting of parentheses that is read. -/
  maxDepth : Nat := 256
  /-- What becomes of divisions by zero. -/
  division : DivisionPolicy := .ieee
  deriving DecidableEq

end Calculator
