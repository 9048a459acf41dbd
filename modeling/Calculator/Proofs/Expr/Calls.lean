import Calculator.Proofs.Evaluate.Recursion
import Calculator.Proofs.Expr.Bracketed
import Calculator.Proofs.Expr.Height

/-!
# Nested calls

One call for a tree is written here with the calls that it takes left open: along a left spine it
goes in a loop, and for everything else in the tree it turns to `call`. If calls may nest only so
deep, a tree that is too high comes to `overflow` instead. `evaluateWithin_eq` and
`renderWithin_eq` say that a tree never gets there if calls may nest deeper than it is high.
-/

namespace Calculator

namespace Expr

/-! ### Evaluation -/

section Evaluation

variable (policy : DivisionPolicy) (call : Expr → Logged EvaluationError Float)

/-- Evaluate a run of operations in a loop, with a call for each operand. -/
def evaluateSpine : Expr → Logged EvaluationError Float
  | binary op lhs rhs => do
      let lhs ← evaluateSpine lhs
      let rhs ← call rhs
      liftExcept (op.applyUnder policy lhs rhs)
  | expr => call expr

/-- The value of an operand in a row, with a call if it is a tree. -/
def operandBy : Operand → Logged EvaluationError Float
  | .tree expr => call expr
  | .value value => pure value

/-- Fold a row of operands in a loop, with a call for each tree in it. -/
def foldBy (refused : Logged EvaluationError Float) :
    List Operand → List Operator → Logged EvaluationError Float
  | first :: second :: rest, op :: operators => do
      let lhs ← operandBy call first
      let rhs ← operandBy call second
      let value ← liftExcept (op.applyUnder policy lhs rhs)
      Logged.emit (.folded op lhs rhs value)
      foldBy refused (.value value :: rest) operators
  | [last], [] => operandBy call last
  | _, _ => refused

/-- One call for the value of a tree. -/
def evaluateBy : Expr → Logged EvaluationError Float
  | literal value => pure value
  | binary op lhs rhs => evaluateSpine policy call (binary op lhs rhs)
  | composite elements operators =>
      foldBy policy call (malformed elements.length operators.length) (elements.map .tree) operators

/-- The value of a tree by calls that nest at most `calls` deep. -/
def evaluateWithin (overflow : Expr → Logged EvaluationError Float) :
    Nat → Expr → Logged EvaluationError Float
  | 0 => overflow
  | calls + 1 => evaluateBy policy (evaluateWithin overflow calls)

variable {policy call}

theorem evaluateSpine_eq : (expr : Expr) →
    (∀ operand ∈ expr.spineOperands, call operand = operand.evaluate policy) →
      evaluateSpine policy call expr = expr.evaluate policy
  | literal value, answers => answers _ (by simp [spineOperands])
  | composite elements operators, answers => answers _ (by simp [spineOperands])
  | binary op lhs rhs, answers => by
      have ofLhs := evaluateSpine_eq lhs fun operand member =>
        answers operand (by simp [spineOperands, member])
      rw [evaluateSpine, ofLhs, answers rhs (by simp [spineOperands]), evaluate_binary]

section Rows

variable {row : List Operand}
  (answers : ∀ expr, .tree expr ∈ row → call expr = expr.evaluate policy)

include answers

theorem operandBy_eq {operand : Operand} (member : operand ∈ row) :
    operandBy call operand = evaluateOperand policy operand := by
  cases operand with
  | tree expr => rw [operandBy, answers expr member, evaluateOperand_tree]
  | value value => rw [operandBy, evaluateOperand_value]

theorem foldBy_eq (refused : Logged EvaluationError Float) (operators : List Operator) :
    foldBy policy call refused row operators = fold policy refused row operators := by
  induction operators generalizing row with
  | nil =>
      rcases row with _ | ⟨last, _ | ⟨second, rest⟩⟩
      · rw [foldBy, fold_nil] <;> simp
      · rw [foldBy, fold_singleton, operandBy_eq answers (by simp)]
      · rw [foldBy, fold_cons_cons_nil] <;> simp
  | cons op operators inductionHypothesis =>
      rcases row with _ | ⟨first, _ | ⟨second, rest⟩⟩
      · rw [foldBy, fold_nil] <;> simp
      · rw [foldBy, fold_singleton_cons] <;> simp
      · have others : ∀ value : Float,
            foldBy policy call refused (.value value :: rest) operators =
              fold policy refused (.value value :: rest) operators :=
          fun value => inductionHypothesis fun expr member => by
            have isBehind : .tree expr ∈ rest := by simpa using member
            exact answers expr (by simp [isBehind])
        rw [foldBy, fold_cons_cons, operandBy_eq answers (by simp : first ∈ _),
          operandBy_eq answers (by simp : second ∈ _)]
        simp only [others]

end Rows

/-- A call that is answered for every tree it turns to comes out as it should. -/
theorem evaluateBy_eq {expr : Expr}
    (answers : ∀ callee ∈ expr.callees, call callee = callee.evaluate policy) :
    evaluateBy policy call expr = expr.evaluate policy := by
  cases expr with
  | literal value => rw [evaluateBy, evaluate_literal]
  | binary op lhs rhs => exact evaluateSpine_eq _ answers
  | composite elements operators =>
      rw [callees] at answers
      rw [evaluateBy, evaluate_composite]
      exact foldBy_eq (fun expr member => answers expr (by simpa using member)) _ operators

/-- Calls need not nest deeper than a tree is high. -/
theorem evaluateWithin_eq (overflow : Expr → Logged EvaluationError Float) {calls : Nat}
    {expr : Expr} (enough : expr.height < calls) :
    evaluateWithin policy overflow calls expr = expr.evaluate policy := by
  induction calls generalizing expr with
  | zero => cases enough
  | succ calls inductionHypothesis =>
      refine evaluateBy_eq fun callee member => inductionHypothesis ?_
      exact Nat.lt_of_lt_of_le (height_lt_of_mem_callees member) (Nat.le_of_lt_succ enough)

end Evaluation

/-! ### Rendering -/

section Rendering

variable (call : Expr → String)

/-- Write a run of operations in a loop, with a call for each operand. -/
def renderSpine : Expr → String
  | binary op lhs rhs =>
      "([" ++ renderSpine lhs ++ "][" ++ call rhs ++ "] " ++ String.singleton op.symbol ++ ")"
  | expr => call expr

/-- Write trees one after another, each in brackets and by a call. -/
def renderEach : List Expr → String
  | [] => ""
  | element :: elements => "[" ++ call element ++ "]" ++ renderEach elements

/-- One call for the text of a tree. -/
def renderBy : Expr → String
  | literal value => numberText value
  | binary op lhs rhs => renderSpine call (binary op lhs rhs)
  | composite elements operators =>
      "(" ++ renderEach call elements ++ " " ++ symbols operators ++ ")"

/-- The text of a tree by calls that nest at most `calls` deep. -/
def renderWithin (overflow : Expr → String) : Nat → Expr → String
  | 0 => overflow
  | calls + 1 => renderBy (renderWithin overflow calls)

variable {call}

theorem renderSpine_eq : (expr : Expr) →
    (∀ operand ∈ expr.spineOperands, call operand = operand.bracketed) →
      renderSpine call expr = expr.bracketed
  | literal value, answers => answers _ (by simp [spineOperands])
  | composite elements operators, answers => answers _ (by simp [spineOperands])
  | binary op lhs rhs, answers => by
      have ofLhs := renderSpine_eq lhs fun operand member =>
        answers operand (by simp [spineOperands, member])
      rw [renderSpine, ofLhs, answers rhs (by simp [spineOperands]), bracketed]

theorem renderEach_eq {elements : List Expr}
    (answers : ∀ element ∈ elements, call element = element.bracketed) :
    renderEach call elements = bracketedElements elements := by
  induction elements with
  | nil => rw [renderEach, bracketedElements]
  | cons element elements inductionHypothesis =>
      rw [List.forall_mem_cons] at answers
      rw [renderEach, bracketedElements, answers.1, inductionHypothesis answers.2]

theorem renderBy_eq {expr : Expr}
    (answers : ∀ callee ∈ expr.callees, call callee = callee.bracketed) :
    renderBy call expr = expr.bracketed := by
  cases expr with
  | literal value => rw [renderBy, bracketed]
  | binary op lhs rhs => exact renderSpine_eq _ answers
  | composite elements operators =>
      rw [callees] at answers
      rw [renderBy, bracketed, renderEach_eq answers, symbols_eq]

/-- Calls need not nest deeper than a tree is high. -/
theorem renderWithin_eq (overflow : Expr → String) {calls : Nat} {expr : Expr}
    (enough : expr.height < calls) : renderWithin overflow calls expr = expr.render := by
  rw [render, renderDown_nil, String.empty_append]
  induction calls generalizing expr with
  | zero => cases enough
  | succ calls inductionHypothesis =>
      refine renderBy_eq fun callee member => inductionHypothesis ?_
      exact Nat.lt_of_lt_of_le (height_lt_of_mem_callees member) (Nat.le_of_lt_succ enough)

end Rendering

end Expr

end Calculator
