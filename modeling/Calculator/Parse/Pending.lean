import Calculator.Decimal.Basic

/-!
# Pending numbers

The digits and points read since the last operator or group. Nothing is checked
until they are taken. At its start a span holds an unwritten zero: digits are
appended to it, and a sign applies to it.
-/

namespace Calculator

/-- A number that is being read. -/
inductive Pending where
  /-- Nothing of the span has been read; it starts with an unwritten zero. -/
  | unwrittenZero
  /-- No number is being read. -/
  | absent
  /-- The characters of a number and the position of its first written one. -/
  | run (characters : List Char) (index : Nat)
  deriving DecidableEq

namespace Pending

/-- Append a run of digits and points that was found at `index`. -/
def append (pending : Pending) (run : List Char) (index : Nat) : Pending :=
  match pending with
  | unwrittenZero => .run ('0' :: run) index
  | absent => .run run index
  | .run characters start => .run (characters ++ run) start

/-- The characters of the number and its position, if there is one. -/
def taken? : Pending → Option (List Char × Nat)
  | unwrittenZero => some (['0'], 0)
  | absent => none
  | run characters index => some (characters, index)

/-- Whether digits or points have been read since the last operator or group. -/
def isWritten : Pending → Bool
  | run _ _ => true
  | unwrittenZero | absent => false

end Pending

end Calculator
