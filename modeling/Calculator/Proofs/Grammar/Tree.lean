import Calculator.Event
import Calculator.Parse.OpenSpan
import Calculator.Proofs.Decimal.Validity
import Calculator.Proofs.Grammar.Lead

/-!
# Trees of written expressions

The tree that belongs to a written expression, and the events that reading it reports.
`Lead.openSpan` is the span under way before a factor; `Lead.addOperand_openSpan` and
`Lead.addOperator_openSpan` say that taking in operands and operators one by one leads
to the tree of the whole span.
-/

namespace Calculator

/-! ### Trees -/

mutual

/-- The tree of a factor. `first` tells if it stands at the start of its span. -/
def Factor.expr (first : Bool) : Factor → Expr
  | .number run => .literal (numberValue (literalChars first run))
  | .group span =>
      .composite (span.terms.reverse.map Prod.fst ++ [span.last, .literal 0.0])
        (span.terms.reverse.map Prod.snd ++ [.add])

/-- The tree of a term. `first` tells if it stands at the start of its span. -/
def Term.expr (first : Bool) : Term → Expr
  | .single factor => factor.expr first
  | .product term op factor => .binary op (term.expr first) (factor.expr false)

/-- The terms of a span before its last one, newest first, each with the operator behind
it. A sign applies to a zero. -/
def Span.terms : Span → List (Expr × Operator)
  | .unsigned _ => []
  | .signed sign _ => [(.literal 0.0, sign)]
  | .sum span op _ => (span.last, op) :: span.terms

/-- The last term of a span. -/
def Span.last : Span → Expr
  | .unsigned term => term.expr true
  | .signed _ term => term.expr false
  | .sum _ _ term => term.expr false

end

/-- The tree of a span. -/
def Span.expr (span : Span) : Expr :=
  .composite (span.terms.reverse.map Prod.fst ++ [span.last, .literal 0.0])
    (span.terms.reverse.map Prod.snd ++ [.add])

@[simp] theorem Factor.expr_group (first : Bool) (span : Span) :
    (Factor.group span).expr first = span.expr := by
  rw [Factor.expr, Span.expr]

/-- The tree of a source. The empty one is zero. -/
def Source.expr : Source → Expr
  | .empty => .composite [.literal 0.0, .literal 0.0] [.add]
  | .written span => span.expr

/-! ### Events -/

mutual

/-- The events that reading a factor reports, `depth` groups deep. -/
def Factor.events (depth : Nat) : Factor → List Event
  | .number _ => []
  | .group span => .group (Token.text span.tokens) (depth + 1) :: span.events (depth + 1)

/-- The events that reading a term reports, `depth` groups deep. -/
def Term.events (depth : Nat) : Term → List Event
  | .single factor => factor.events depth
  | .product term op factor => term.events depth ++ factor.events depth ++ [.folding op]

/-- The events that reading a span reports, `depth` groups deep. -/
def Span.events (depth : Nat) : Span → List Event
  | .unsigned term => term.events depth
  | .signed _ term => term.events depth
  | .sum span _ term => span.events depth ++ term.events depth

end

/-- The events that reading a source reports before its tree is complete. -/
def Source.events : Source → List Event
  | .empty => []
  | .written span => span.events 0

/-! ### Spans under way -/

namespace Lead

/-- The span under way before a factor. -/
def openSpan : Lead → OpenSpan
  | start => {}
  | sign op => ⟨[(.literal 0.0, op)], .vacant⟩
  | behind span op =>
      if op.isMultiplicative then ⟨span.terms, .product span.last op⟩
      else ⟨(span.last, op) :: span.terms, .vacant⟩

/-- The event of a factor that completes a product. -/
def folding : Lead → List Event
  | start | sign _ => []
  | behind _ op => if op.isMultiplicative then [.folding op] else []

/-- The events that reading a lead reports, `depth` groups deep. -/
def events (depth : Nat) : Lead → List Event
  | start | sign _ => []
  | behind span _ => span.events depth

@[simp] theorem events_start (depth : Nat) : start.events depth = [] := rfl

@[simp] theorem events_sign (op : Operator) (depth : Nat) : (sign op).events depth = [] := rfl

@[simp] theorem events_behind (span : Span) (op : Operator) (depth : Nat) :
    (behind span op).events depth = span.events depth := rfl

theorem events_add (lead : Lead) (factor : Factor) (depth : Nat) :
    (lead.add factor).events depth = lead.events depth ++ factor.events depth ++ lead.folding := by
  cases lead with
  | start => simp [add, events, folding, Span.events, Term.events]
  | sign op => simp [add, events, folding, Span.events, Term.events]
  | behind span op =>
      cases span <;> cases multiplicative : op.isMultiplicative <;>
        simp [add, Span.push, Span.extend, events, folding, Span.events, Term.events,
          multiplicative]

/-- Taking in the operand behind a lead completes the last term of the span. -/
theorem addOperand_openSpan (lead : Lead) (factor : Factor) :
    lead.openSpan.addOperand (factor.expr lead.isStart) =
      .ok ⟨(lead.add factor).terms, .complete (lead.add factor).last⟩ := by
  cases lead with
  | start => rfl
  | sign op => rfl
  | behind span op =>
      cases span <;> cases multiplicative : op.isMultiplicative <;>
        simp [add, Span.push, Span.extend, openSpan, OpenSpan.addOperand, isStart, Span.terms,
          Span.last, Term.expr, multiplicative]

/-- A product is awaited behind a multiplicative operator, and only there. -/
theorem awaited?_openSpan (lead : Lead) :
    lead.openSpan.awaited?.toList.map Event.folding = lead.folding := by
  cases lead with
  | start => rfl
  | sign op => rfl
  | behind span op =>
      cases multiplicative : op.isMultiplicative <;>
        simp [openSpan, OpenSpan.awaited?, folding, multiplicative]

/-- Taking in an operator behind a span makes the span a lead. -/
theorem addOperator_openSpan (span : Span) (op : Operator) :
    OpenSpan.addOperator ⟨span.terms, .complete span.last⟩ op = .ok (behind span op).openSpan := by
  cases multiplicative : op.isMultiplicative <;>
    simp [OpenSpan.addOperator, openSpan, multiplicative]

/-- A sign is an operator behind an unwritten zero. -/
theorem addOperator_zero {op : Operator} (additive : op.isMultiplicative = false) :
    OpenSpan.addOperator ⟨[], .complete (.literal 0.0)⟩ op = .ok (sign op).openSpan := by
  simp [OpenSpan.addOperator, openSpan, additive]

/-- Only at its start does a span lack nothing but an operand. -/
theorem addOperator_openSpan_eq_error (lead : Lead) (op : Operator) :
    lead.openSpan.addOperator op = .error .operator := by
  cases lead with
  | start => rfl
  | sign sign => rfl
  | behind span op' =>
      cases multiplicative : op'.isMultiplicative <;>
        simp [OpenSpan.addOperator, openSpan, multiplicative]

theorem close_openSpan (lead : Lead) : lead.openSpan.close = .error .operator := by
  cases lead with
  | start => rfl
  | sign op => rfl
  | behind span op =>
      cases multiplicative : op.isMultiplicative <;>
        simp [OpenSpan.close, openSpan, multiplicative]

end Lead

theorem Span.close_openSpan (span : Span) :
    OpenSpan.close ⟨span.terms, .complete span.last⟩ = .ok span.expr :=
  rfl

end Calculator
