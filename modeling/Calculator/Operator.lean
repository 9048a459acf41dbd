/-!
# Operators

The four binary operators, the character each is written with, and their
arithmetic on binary64 numbers. `Operator.ofSymbol_eq_ok_iff` says that reading a
character and writing an operator are inverse to each other.
-/

namespace Calculator

/-- The binary operators of an arithmetic expression. -/
inductive Operator where
  | add
  | subtract
  | multiply
  | divide
  deriving DecidableEq

/-- A character stands where an operator belongs, but names none. -/
structure UnknownOperator where
  character : Char
  deriving DecidableEq

namespace UnknownOperator

/-- The sentence shown for a character that names no operator. -/
def message (error : UnknownOperator) : String :=
  let character := error.character
  s!"character '{character}' does not name a supported operator"

end UnknownOperator

namespace Operator

/-- The character an operator is written with. -/
def symbol : Operator → Char
  | add => '+'
  | subtract => '-'
  | multiply => '*'
  | divide => '/'

/-- The operator a character is read as, if it is one of the four. -/
def ofSymbol? (character : Char) : Option Operator :=
  if character = '+' then some add
  else if character = '-' then some subtract
  else if character = '*' then some multiply
  else if character = '/' then some divide
  else none

/-- The operator a character is read as; any other character is refused by name. -/
def ofSymbol (character : Char) : Except UnknownOperator Operator :=
  match ofSymbol? character with
  | some op => .ok op
  | none => .error ⟨character⟩

/-- Multiplication and division bind tighter than addition and subtraction. -/
def isMultiplicative : Operator → Bool
  | multiply | divide => true
  | add | subtract => false

/-- The value of an operation in binary64. A zero divisor gives an infinity or
NaN, as the arithmetic of that format has it. -/
def apply (op : Operator) (lhs rhs : Float) : Float :=
  match op with
  | add => lhs + rhs
  | subtract => lhs - rhs
  | multiply => lhs * rhs
  | divide => lhs / rhs

@[simp] theorem ofSymbol?_symbol (op : Operator) : ofSymbol? op.symbol = some op := by
  cases op <;> rfl

/-- A character is read as an operator exactly when it is that operator's symbol. -/
theorem ofSymbol?_eq_some_iff {character : Char} {op : Operator} :
    ofSymbol? character = some op ↔ op.symbol = character := by
  constructor
  · intro read
    unfold ofSymbol? at read
    split at read
    · cases read; simp_all [symbol]
    · split at read
      · cases read; simp_all [symbol]
      · split at read
        · cases read; simp_all [symbol]
        · split at read
          · cases read; simp_all [symbol]
          · cases read
  · rintro rfl
    exact ofSymbol?_symbol op

/-- Reading a character succeeds exactly on the symbol of the operator it gives. -/
theorem ofSymbol_eq_ok_iff {character : Char} {op : Operator} :
    ofSymbol character = .ok op ↔ op.symbol = character := by
  rw [← ofSymbol?_eq_some_iff, ofSymbol]
  cases ofSymbol? character <;> simp

end Operator

end Calculator
