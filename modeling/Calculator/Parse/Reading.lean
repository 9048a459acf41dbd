import Calculator.Logged
import Calculator.Parse.Error
import Calculator.Parse.OpenSpan
import Calculator.Parse.Pending
import Calculator.Token

/-!
# The reading of a span

What is known of a span after some of its tokens: the open span, the number being
read, and the positions that errors refer to. Each operation takes in one more piece
or says why it cannot; `whole` is the span itself, for the errors.
-/

namespace Calculator

/-- How far a span has been read. -/
structure Reading where
  /-- The elements and operators taken in. -/
  span : OpenSpan := {}
  /-- The number being read. -/
  pending : Pending := .unwrittenZero
  /-- The position of the operator read last. -/
  operatorIndex : Nat := 0
  /-- The position of the next token. -/
  position : Nat := 0

namespace Reading

/-- Take in an operand found at `index`. -/
def addOperand (whole : List Token) (reading : Reading) (operand : Expr) (index : Nat) :
    Logged ParseError Reading :=
  match reading.span.addOperand operand with
  | .ok span => do
      if let some op := reading.span.awaited? then
        Logged.emit (.folding op)
      return { reading with span }
  | .error .operand => throw (.missingOperator index (Token.text whole))
  | .error .operator => throw (.missingOperand reading.operatorIndex (Token.text whole))

/-- Take in digits and points. -/
def addDigits (reading : Reading) (run : List Char) : Reading :=
  { reading with
    pending := reading.pending.append run reading.position
    position := reading.position + (Token.number run).width }

/-- Take in the number being read, if there is one, as an operand. -/
def settle (whole : List Token) (reading : Reading) : Logged ParseError Reading :=
  match reading.pending.taken? with
  | none => pure reading
  | some (characters, index) =>
      match Decimal.ofChars? characters with
      | some decimal =>
          addOperand whole { reading with pending := .absent } (.literal decimal.toFloat) index
      | none => throw (.invalidNumber (String.ofList characters) index (Token.text whole))

/-- Take in an operator. A span cannot start with a multiplicative one. -/
def addOperator (whole : List Token) (reading : Reading) (op : Operator) :
    Logged ParseError Reading := do
  if reading.pending = .unwrittenZero && op.isMultiplicative then
    throw (.invalidLeadingOperator op (Token.text whole))
  let reading ← reading.settle whole
  match reading.span.addOperator op with
  | .ok span =>
      return { reading with
        span
        operatorIndex := reading.position
        position := reading.position + (Token.operator op).width }
  | .error _ => throw (.missingOperand reading.operatorIndex (Token.text whole))

/-- Check that the group whose opening parenthesis is the next token may be read as
an operand, `depth` groups deep, and report it. -/
def enterGroup (whole : List Token) (reading : Reading) (limit depth : Nat)
    (inner : List Token) : Logged ParseError Unit := do
  if inner.isEmpty then
    throw (.emptyParentheses reading.position (Token.text whole))
  if reading.pending.isWritten then
    throw (.missingOperator reading.position (Token.text whole))
  if limit < depth then
    throw (.nestingTooDeep limit)
  Logged.emit (.group (Token.text inner) depth)

/-- Take in the tree of the group whose opening parenthesis is the next token. -/
def leaveGroup (whole : List Token) (reading : Reading) (inner : List Token)
    (operand : Expr) : Logged ParseError Reading := do
  let reading ← addOperand whole { reading with pending := .absent } operand reading.position
  return { reading with
    position := reading.position + Token.totalWidth (.openParen :: inner) +
      Token.closeParen.width }

/-- End the span. -/
def close (whole : List Token) (reading : Reading) : Logged ParseError Expr := do
  let reading ← reading.settle whole
  match reading.span.close with
  | .ok expr => return expr
  | .error _ => throw (.missingOperand reading.operatorIndex (Token.text whole))

end Reading

end Calculator
