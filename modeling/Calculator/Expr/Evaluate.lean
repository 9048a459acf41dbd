import Calculator.Logged
import Calculator.Settings

/-!
# Evaluation

The value of a tree. An operation evaluates its left operand before its right one,
and the left spine of a run of operations is walked in a loop. A span is folded over
a row of operands: each operator replaces the first two by their value, until one is
left. A span whose counts do not fit together is reported and refused, but only where
the fold gets stuck.
-/

namespace Calculator

/-- Why a tree has no value. -/
inductive EvaluationError where
  /-- A span that does not have one element more than operators. -/
  | malformedComposite (elements operators : Nat)
  /-- A division by zero where these are refused. -/
  | divisionByZero
  deriving DecidableEq

namespace EvaluationError

/-- The sentence shown for a tree without a value. -/
def message : EvaluationError → String
  | malformedComposite elements operators =>
      s!"malformed composite with {elements} elements and {operators} operators, " ++
        "please review the operation layout"
  | divisionByZero => "division by zero"

end EvaluationError

namespace Operator

/-- Carry out an operation, unless it is a division by zero and these are refused.
Zeros of either sign count. -/
def applyUnder (policy : DivisionPolicy) (op : Operator) (lhs rhs : Float) :
    Except EvaluationError Float :=
  if op = divide && rhs == 0.0 && policy = .reject then .error .divisionByZero
  else .ok (op.apply lhs rhs)

end Operator

namespace Expr

/-- An operand in the fold of a span: an element not yet evaluated, or the value of
the operands before it. -/
inductive Operand where
  | tree (expr : Expr)
  | value (value : Float)

namespace Operand

/-- A bound on the work that an operand still needs. -/
def work : Operand → Nat
  | tree expr => 3 * expr.size
  | value _ => 0

/-- A bound on the work that a row of operands still needs. -/
def rowWork : List Operand → Nat
  | [] => 0
  | operand :: row => operand.work + rowWork row

@[simp] theorem rowWork_map_tree (elements : List Expr) :
    rowWork (elements.map tree) = 3 * sizeElements elements := by
  induction elements with
  | nil => rfl
  | cons element elements inductionHypothesis =>
      simp only [List.map_cons, rowWork, work, sizeElements, inductionHypothesis]
      omega

end Operand

/-- Refuse a span with the given counts. -/
def malformed (elements operators : Nat) : Logged EvaluationError Float := do
  Logged.emit (.malformed elements operators)
  throw (.malformedComposite elements operators)

mutual

/-- Evaluate `expr`, the leftmost operand of a spine, and then the rest of the
spine. -/
def evaluateDown (policy : DivisionPolicy) (spine : Spine) :
    Expr → Logged EvaluationError Float
  | literal value => evaluateUp policy value spine
  | binary op lhs rhs => evaluateDown policy ((op, rhs) :: spine) lhs
  | composite elements operators => do
      let refused := malformed elements.length operators.length
      let value ← fold policy refused (elements.map .tree) operators
      evaluateUp policy value spine
termination_by expr => (3 * expr.size + spine.work, 0)
decreasing_by
  all_goals simp only [size, Spine.work, Operand.rowWork_map_tree]
  all_goals exact Prod.Lex.left _ _ (by omega)

/-- Apply the operations of a spine, innermost first, to the value of its leftmost
operand. -/
def evaluateUp (policy : DivisionPolicy) (lhs : Float) :
    Spine → Logged EvaluationError Float
  | [] => pure lhs
  | (op, rhs) :: spine => do
      let rhs ← evaluateDown policy [] rhs
      let value ← liftExcept (op.applyUnder policy lhs rhs)
      evaluateUp policy value spine
termination_by spine => (spine.work, 0)
decreasing_by
  all_goals simp only [Spine.work]
  all_goals exact Prod.Lex.left _ _ (by omega)

/-- Fold a row of operands, giving `refused` where the fold gets stuck. -/
def fold (policy : DivisionPolicy) (refused : Logged EvaluationError Float)
    (row : List Operand) (operators : List Operator) : Logged EvaluationError Float :=
  match row, operators with
  | first :: second :: rest, op :: operators => do
      let lhs ← evaluateOperand policy first
      let rhs ← evaluateOperand policy second
      let value ← liftExcept (op.applyUnder policy lhs rhs)
      Logged.emit (.folded op lhs rhs value)
      fold policy refused (.value value :: rest) operators
  | [last], [] => evaluateOperand policy last
  | _, _ => refused
termination_by (Operand.rowWork row + 2, operators.length)
decreasing_by
  all_goals simp only [Operand.rowWork, Operand.work, List.length_cons]
  · exact Prod.Lex.left _ _ (by omega)
  · exact Prod.Lex.left _ _ (by omega)
  · apply Prod.Lex.right' <;> omega
  · exact Prod.Lex.left _ _ (by omega)

/-- The value of an operand. -/
def evaluateOperand (policy : DivisionPolicy) : Operand → Logged EvaluationError Float
  | .tree expr => evaluateDown policy [] expr
  | .value value => pure value
termination_by operand => (operand.work + 1, 0)
decreasing_by simp only [Operand.work, Spine.work]; exact Prod.Lex.left _ _ (by omega)

end

/-- The value of a tree. -/
def evaluate (policy : DivisionPolicy) (expr : Expr) : Logged EvaluationError Float :=
  evaluateDown policy [] expr

end Expr

end Calculator
