import Calculator.Expr.Render
import Calculator.Text.Quoted

/-!
# Events

What is reported while a text is read and a tree is evaluated, how important each
report is, and the sentence it is shown as.
-/

namespace Calculator

/-- How important a report is. -/
inductive Level where
  | warn
  | debug
  | trace
  deriving DecidableEq

/-- A report on the progress of reading or evaluating. -/
inductive Event where
  /-- The contents of a group are about to be read. Groups of the whole text have
  depth one. -/
  | group (text : String) (depth : Nat)
  /-- A multiplicative operator has got its right operand. -/
  | folding (op : Operator)
  /-- A whole text has been read. -/
  | parsed (source : String) (expr : Expr)
  /-- One operation of a span has been carried out. -/
  | folded (op : Operator) (lhs rhs value : Float)
  /-- A span has counts that do not fit together. -/
  | malformed (elements operators : Nat)

namespace Event

/-- Malformed spans are warnings, single operations details, and the rest is between
them. -/
def level : Event → Level
  | group _ _ | parsed _ _ => .debug
  | folding _ | folded _ _ _ _ => .trace
  | malformed _ _ => .warn

/-- The sentence an event is shown as. -/
def message : Event → String
  | group text depth =>
      let text := Text.quoted text
      s!"parsing group {text} at depth {depth}"
  | folding op =>
      let op := op.symbol
      s!"folding {op} into a binary node"
  | parsed source expr =>
      let source := Text.quoted source
      let rendered := expr.render
      s!"parsed {source} as {rendered}"
  | folded op lhs rhs value =>
      let op := op.symbol
      let lhs := numberText lhs
      let rhs := numberText rhs
      let value := numberText value
      s!"folded {lhs} {op} {rhs} = {value}"
  | malformed elements operators =>
      s!"cannot fold composite with {elements} elements and {operators} operators"

end Event

end Calculator
