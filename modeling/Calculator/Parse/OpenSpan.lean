import Calculator.Expr.Basic

/-!
# Open spans

A span while it is being read: finished terms with the additive operators behind
them, and the term under way. A multiplicative operator makes the term under way the
left operand of a product, so that precedence is settled as soon as the right operand
comes in.
-/

namespace Calculator

/-- What does not fit where it stands in a span. -/
inductive Misfit where
  /-- An operand directly behind an operand. -/
  | operand
  /-- An operator, or the end of the span, where an operand is due. -/
  | operator
  deriving DecidableEq

/-- The term of a span that is under way. -/
inductive OpenTerm where
  /-- Nothing has been read of it; an operand is due. -/
  | vacant
  /-- It may end here. -/
  | complete (term : Expr)
  /-- A multiplicative operator has been read; its right operand is due. -/
  | product (lhs : Expr) (op : Operator)

namespace OpenTerm

/-- The element that a term under way contributes to its span. -/
def elements : OpenTerm → List Expr
  | vacant => []
  | complete term => [term]
  | product lhs _ => [lhs]

/-- The operator that a term under way contributes to its span. -/
def operators : OpenTerm → List Operator
  | vacant | complete _ => []
  | product _ op => [op]

end OpenTerm

/-- A span that has been read up to some point. -/
structure OpenSpan where
  /-- The finished terms, newest first, each with the operator behind it. -/
  terms : List (Expr × Operator) := []
  /-- The term behind them. -/
  last : OpenTerm := .vacant

namespace OpenSpan

/-- The elements read so far, in order. -/
def elements (span : OpenSpan) : List Expr :=
  span.terms.reverse.map Prod.fst ++ span.last.elements

/-- The operators read so far and not yet part of an element, in order. -/
def operators (span : OpenSpan) : List Operator :=
  span.terms.reverse.map Prod.snd ++ span.last.operators

/-- The multiplicative operator whose right operand is due, if there is one. -/
def awaited? (span : OpenSpan) : Option Operator :=
  match span.last with
  | .product _ op => some op
  | _ => none

/-- Add an operand. If it is the right operand of a product, the product becomes one
element. -/
def addOperand (span : OpenSpan) (operand : Expr) : Except Misfit OpenSpan :=
  match span.last with
  | .vacant => .ok { span with last := .complete operand }
  | .product lhs op => .ok { span with last := .complete (.binary op lhs operand) }
  | .complete _ => .error .operand

/-- Add an operator. An additive one finishes the term before it. -/
def addOperator (span : OpenSpan) (op : Operator) : Except Misfit OpenSpan :=
  match span.last with
  | .complete term =>
      if op.isMultiplicative then .ok { span with last := .product term op }
      else .ok ⟨(term, op) :: span.terms, .vacant⟩
  | _ => .error .operator

/-- End a span. Every span is closed by adding zero. -/
def close (span : OpenSpan) : Except Misfit Expr :=
  match span.last with
  | .complete term =>
      .ok (.composite (span.terms.reverse.map Prod.fst ++ [term, .literal 0.0])
        (span.terms.reverse.map Prod.snd ++ [.add]))
  | _ => .error .operator

end OpenSpan

end Calculator
