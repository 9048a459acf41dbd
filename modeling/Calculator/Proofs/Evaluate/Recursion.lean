import Calculator.Expr.Evaluate

/-!
# Evaluation by recursion

The spine of a tree is walked in a loop, down to its leftmost operand and up again. What
comes out is evaluation by recursion on the tree: `evaluate_literal`, `evaluate_binary` and
`evaluate_composite` are its equations, and the lemmas on `fold` those of a row of operands.
They are all that later modules know of the evaluator.
-/

namespace Calculator

namespace Expr

variable {policy : DivisionPolicy}

/-- Walking down a spine evaluates the tree and then applies the spine to its value. -/
theorem evaluateDown_eq : (spine : Spine) → (expr : Expr) →
    evaluateDown policy spine expr = do
      let value ← expr.evaluate policy
      evaluateUp policy value spine
  | spine, literal value => by
      simp only [evaluate, evaluateDown, evaluateUp, pure_bind]
  | spine, binary op lhs rhs => by
      -- The operation joins the spine on the left and is its only member on the right.
      have joined := evaluateDown_eq ((op, rhs) :: spine) lhs
      have alone := evaluateDown_eq [(op, rhs)] lhs
      rw [evaluate, evaluateDown, evaluateDown, joined, alone]
      simp only [evaluateUp, bind_assoc, pure_bind]
  | spine, composite elements operators => by
      simp only [evaluate, evaluateDown, evaluateUp, bind_assoc, pure_bind]

/-- A number has itself as value. -/
theorem evaluate_literal (value : Float) : (literal value).evaluate policy = pure value := by
  simp only [evaluate, evaluateDown, evaluateUp]

/-- An operation evaluates its left operand, then its right one, and is then carried out. -/
theorem evaluate_binary (op : Operator) (lhs rhs : Expr) :
    (binary op lhs rhs).evaluate policy = (do
      let lhs ← lhs.evaluate policy
      let rhs ← rhs.evaluate policy
      liftExcept (op.applyUnder policy lhs rhs)) := by
  rw [evaluate, evaluateDown, evaluateDown_eq]
  simp only [evaluateUp, evaluate, bind_pure]

/-- A span is folded. -/
theorem evaluate_composite (elements : List Expr) (operators : List Operator) :
    (composite elements operators).evaluate policy =
      fold policy (malformed elements.length operators.length) (elements.map .tree) operators := by
  simp only [evaluate, evaluateDown, evaluateUp, bind_pure]

@[simp] theorem evaluateOperand_tree (expr : Expr) :
    evaluateOperand policy (.tree expr) = expr.evaluate policy := by
  rw [evaluateOperand, evaluate]

@[simp] theorem evaluateOperand_value (value : Float) :
    evaluateOperand policy (.value value) = pure value := by
  rw [evaluateOperand]

section Fold

variable {refused : Logged EvaluationError Float}

/-- An operator takes the place of the first two operands by their value. -/
theorem fold_cons_cons (first second : Operand) (rest : List Operand) (op : Operator)
    (operators : List Operator) :
    fold policy refused (first :: second :: rest) (op :: operators) = (do
      let lhs ← evaluateOperand policy first
      let rhs ← evaluateOperand policy second
      let value ← liftExcept (op.applyUnder policy lhs rhs)
      Logged.emit (.folded op lhs rhs value)
      fold policy refused (.value value :: rest) operators) := by
  rw [fold]

/-- The last operand that is left is the value of the span. -/
theorem fold_singleton (operand : Operand) :
    fold policy refused [operand] [] = evaluateOperand policy operand := by
  rw [fold]

/-- Without operands there is nothing to fold. -/
theorem fold_nil (operators : List Operator) : fold policy refused [] operators = refused := by
  rw [fold] <;> simp

/-- An operator with a single operand is stuck. -/
theorem fold_singleton_cons (operand : Operand) (op : Operator) (operators : List Operator) :
    fold policy refused [operand] (op :: operators) = refused := by
  rw [fold] <;> simp

/-- Operands that are left without an operator are stuck. -/
theorem fold_cons_cons_nil (first second : Operand) (rest : List Operand) :
    fold policy refused (first :: second :: rest) [] = refused := by
  rw [fold] <;> simp

/-- An operand that an operator follows may as well be evaluated beforehand. -/
theorem fold_tree (expr : Expr) (second : Operand) (rest : List Operand) (op : Operator)
    (operators : List Operator) :
    fold policy refused (.tree expr :: second :: rest) (op :: operators) = (do
      let value ← expr.evaluate policy
      fold policy refused (.value value :: second :: rest) (op :: operators)) := by
  simp only [fold_cons_cons, evaluateOperand_tree, evaluateOperand_value, pure_bind]

end Fold

end Expr

end Calculator
