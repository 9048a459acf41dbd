import Calculator.Proofs.Evaluate.Operations
import Calculator.Proofs.Grammar.Tree

/-!
# Precedence

The value of a written expression, by the rules of precedence, and the operations that
lead to it, in order. No law of arithmetic is used: each operation is carried out as it is
written, and zeros that are added are added. `Source.computes` says that evaluating the
tree of an expression does just this.
-/

namespace Calculator

/-! ### Values -/

mutual

/-- The value of a factor. `first` tells if it stands at the start of its span. A group has
the value of its span, which is closed by adding zero. -/
def Factor.value (first : Bool) : Factor → Float
  | .number run => numberValue (literalChars first run)
  | .group span => Operator.add.apply span.total 0.0

/-- The value of a term: its factors, combined from left to right. -/
def Term.value (first : Bool) : Term → Float
  | .single factor => factor.value first
  | .product term op factor => op.apply (term.value first) (factor.value false)

/-- The terms of a span, combined from left to right. A sign combines zero with the first
of them. -/
def Span.total : Span → Float
  | .unsigned term => term.value true
  | .signed sign term => sign.apply 0.0 (term.value false)
  | .sum span op term => op.apply span.total (term.value false)

end

/-- The value of a span, which is closed by adding zero. -/
def Span.value (span : Span) : Float :=
  Operator.add.apply span.total 0.0

/-- The value of a source. The empty one is a span whose only term is zero. -/
def Source.value : Source → Float
  | .empty => Operator.add.apply 0.0 0.0
  | .written span => span.value

@[simp] theorem Factor.value_group (first : Bool) (span : Span) :
    (Factor.group span).value first = span.value := by
  rw [Factor.value, Span.value]

/-! ### Operations -/

mutual

/-- The operations that lead to the value of a factor. -/
def Factor.operations : Factor → List Operation
  | .number _ => []
  | .group span => span.folds ++ [⟨.add, span.total, 0.0, true⟩]

/-- The operations that lead to the value of a term. -/
def Term.operations (first : Bool) : Term → List Operation
  | .single factor => factor.operations
  | .product term op factor =>
      term.operations first ++ factor.operations ++
        [⟨op, term.value first, factor.value false, false⟩]

/-- The operations that combine the terms of a span. -/
def Span.folds : Span → List Operation
  | .unsigned term => term.operations true
  | .signed sign term => term.operations false ++ [⟨sign, 0.0, term.value false, true⟩]
  | .sum span op term =>
      span.folds ++ (term.operations false ++ [⟨op, span.total, term.value false, true⟩])

end

/-- The operations that lead to the value of a span. -/
def Span.operations (span : Span) : List Operation :=
  span.folds ++ [⟨.add, span.total, 0.0, true⟩]

/-- The operations that lead to the value of a source. -/
def Source.operations : Source → List Operation
  | .empty => [⟨.add, 0.0, 0.0, true⟩]
  | .written span => span.operations

@[simp] theorem Factor.operations_group (span : Span) :
    (Factor.group span).operations = span.operations := by
  rw [Factor.operations, Span.operations]

/-! ### Trees compute these values -/

/-- The elements of a span as operands, with a row of operands behind them. -/
def Span.row (span : Span) (rest : List Expr.Operand) : List Expr.Operand :=
  span.terms.reverse.map (fun term => .tree term.1) ++ .tree span.last :: rest

/-- The operators of a span, with further operators behind them. -/
def Span.rowOperators (span : Span) (rest : List Operator) : List Operator :=
  span.terms.reverse.map Prod.snd ++ rest

/-- Folding a span that more operands follow first folds the span itself. -/
def Span.Folds (span : Span) : Prop :=
  ∀ policy refused second rest op operators,
    Expr.fold policy refused (span.row (second :: rest)) (span.rowOperators (op :: operators)) =
      carryOut policy span.folds
        (Expr.fold policy refused (.value span.total :: second :: rest) (op :: operators))

/-- A span whose terms are folded is closed by one more operation. -/
theorem Span.Folds.computes {span : Span} (folds : span.Folds) :
    span.expr.Computes span.operations span.value := by
  intro policy
  have elements : List.map Expr.Operand.tree
      (span.terms.reverse.map Prod.fst ++ [span.last, .literal 0.0]) =
        span.row [.tree (.literal 0.0)] := by
    simp [row]
  have zero := Expr.computes_literal 0.0
  rw [expr, Expr.evaluate_composite, elements]
  refine (folds policy _ _ _ _ _).trans ?_
  rw [zero.fold_cons, Expr.fold_singleton, Expr.evaluateOperand_value, List.nil_append,
    ← carryOut_append, operations, value]

mutual

theorem Factor.computes (first : Bool) : (factor : Factor) →
    (factor.expr first).Computes factor.operations (factor.value first)
  | .number run => by
      rw [Factor.expr, Factor.operations, Factor.value]
      exact Expr.computes_literal _
  | .group span => by
      rw [Factor.expr_group, Factor.operations_group, Factor.value_group]
      exact span.folds_eq.computes

theorem Term.computes (first : Bool) : (term : Term) →
    (term.expr first).Computes (term.operations first) (term.value first)
  | .single factor => factor.computes first
  | .product term op factor => (term.computes first).binary (factor.computes false) op

/-- The terms of a span are folded from left to right. -/
theorem Span.folds_eq : (span : Span) → span.Folds
  | .unsigned term => by
      intro policy refused second rest op operators
      refine (Expr.fold_tree _ _ _ _ _).trans ?_
      rw [Span.last, term.computes true policy, carryOut_bind, pure_bind, Span.folds, Span.total]
  | .signed sign term => by
      intro policy refused second rest op operators
      refine (Expr.fold_tree _ _ _ _ _).trans ?_
      rw [Expr.evaluate_literal, pure_bind, Span.folds, Span.total]
      exact (term.computes false).fold_cons _ _ _ _
  | .sum span op' term => by
      intro policy refused second rest op operators
      have before := span.folds_eq policy refused (.tree (term.expr false)) (second :: rest) op'
        (op :: operators)
      rw [(term.computes false).fold_cons, ← carryOut_append] at before
      simpa [Span.row, Span.rowOperators, Span.terms, Span.last, Span.folds, Span.total]
        using before

end

/-- The tree of a source is evaluated by the operations of the source, to its value. -/
theorem Source.computes : (source : Source) → source.expr.Computes source.operations source.value
  | .written span => span.folds_eq.computes
  | .empty => by
      intro policy
      have zero := Expr.computes_literal 0.0
      rw [expr, Expr.evaluate_composite, List.map_cons, List.map_cons, List.map_nil,
        Expr.fold_tree, zero, carryOut_nil, pure_bind, zero.fold_cons, Expr.fold_singleton,
        Expr.evaluateOperand_value]
      rfl

end Calculator
