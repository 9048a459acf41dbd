import Calculator.Proofs.Evaluate.Recursion
import Calculator.Proofs.Logged

/-!
# Evaluation operation by operation

What an evaluation does is known by the operations it carries out, in order, and by what it
finishes with. Neither depends on the policy: `carryOut` only stops before a division by
zero where these are refused. `carryOut_eq` says what comes out, with all events.
-/

namespace Calculator

open Logged

/-- An operation that an evaluation carries out. -/
structure Operation where
  op : Operator
  lhs : Float
  rhs : Float
  /-- Operations of a span are reported, those of a term are not. -/
  isReported : Bool

namespace Operation

/-- What an operation gives. -/
def value (operation : Operation) : Float :=
  operation.op.apply operation.lhs operation.rhs

/-- Whether an operation is a division by a zero of either sign. -/
def isDivisionByZero (operation : Operation) : Bool :=
  operation.op = .divide && operation.rhs == 0.0

/-- The events that an operation reports. -/
def events (operation : Operation) : List Event :=
  if operation.isReported then
    [.folded operation.op operation.lhs operation.rhs operation.value]
  else []

end Operation

section CarryOut

variable {policy : DivisionPolicy} {value value' : Type}

/-- Carry out some operations in order and then finish. Where divisions by zero are refused,
nothing is done behind the first one. -/
def carryOut (policy : DivisionPolicy) (operations : List Operation)
    (finish : Logged EvaluationError value) : Logged EvaluationError value :=
  match operations with
  | [] => finish
  | operation :: operations =>
      if operation.isDivisionByZero && policy = .reject then throw .divisionByZero
      else after operation.events (carryOut policy operations finish)

@[simp] theorem carryOut_nil (finish : Logged EvaluationError value) :
    carryOut policy [] finish = finish := rfl

/-- Operations may be carried out in two rows. -/
theorem carryOut_append (first second : List Operation) (finish : Logged EvaluationError value) :
    carryOut policy (first ++ second) finish =
      carryOut policy first (carryOut policy second finish) := by
  induction first with
  | nil => rfl
  | cons operation operations inductionHypothesis =>
      rw [List.cons_append, carryOut, carryOut, inductionHypothesis]

/-- What follows some operations follows the finish of them. -/
theorem carryOut_bind (operations : List Operation) (finish : Logged EvaluationError value)
    (next : value → Logged EvaluationError value') :
    (carryOut policy operations finish >>= next) =
      carryOut policy operations (finish >>= next) := by
  induction operations with
  | nil => rfl
  | cons operation operations inductionHypothesis =>
      rw [carryOut, carryOut]
      split
      · simp
      · rw [after_bind, inductionHypothesis]

/-- Without a division by zero that is refused, all operations are carried out and reported;
with one, only those before it. -/
theorem carryOut_eq (operations : List Operation) (outcome : Except EvaluationError value)
    (log : List Event) :
    carryOut policy operations (ending outcome log) =
      if policy = .reject ∧ ∃ operation ∈ operations, operation.isDivisionByZero then
        ending (.error .divisionByZero)
          ((operations.takeWhile (! ·.isDivisionByZero)).flatMap Operation.events)
      else ending outcome (operations.flatMap Operation.events ++ log) := by
  induction operations with
  | nil => simp
  | cons operation operations inductionHypothesis =>
      rw [carryOut, inductionHypothesis]
      cases policy <;> cases zero : operation.isDivisionByZero <;> simp [zero]
      split <;> simp

/-- An operation of a term is carried out without a report. -/
theorem liftExcept_applyUnder (op : Operator) (lhs rhs : Float) :
    (liftExcept (op.applyUnder policy lhs rhs) : Logged EvaluationError Float) =
      carryOut policy [⟨op, lhs, rhs, false⟩] (pure (op.apply lhs rhs)) := by
  rw [carryOut, carryOut, Operator.applyUnder, Operation.isDivisionByZero]
  split <;> simp_all [Operation.events]

/-- An operation between the operands of a span is carried out and reported. -/
theorem applyUnder_emit_bind (op : Operator) (lhs rhs : Float)
    (next : Float → Logged EvaluationError value) :
    (do
      let result ← liftExcept (op.applyUnder policy lhs rhs)
      emit (.folded op lhs rhs result)
      next result) =
      carryOut policy [⟨op, lhs, rhs, true⟩] (next (op.apply lhs rhs)) := by
  rw [carryOut, carryOut, Operator.applyUnder, Operation.isDivisionByZero]
  split <;> simp_all [Operation.events, Operation.value]

end CarryOut

/-- Under every policy, a tree is evaluated to this value by these operations. -/
def Expr.Computes (expr : Expr) (operations : List Operation) (value : Float) : Prop :=
  ∀ policy, expr.evaluate policy = carryOut policy operations (pure value)

namespace Expr

theorem computes_literal (value : Float) : (literal value).Computes [] value := fun _ =>
  evaluate_literal value

/-- The operations of both operands come before the one that combines them. -/
theorem Computes.binary {lhs rhs : Expr} {lhsOperations rhsOperations : List Operation}
    {left right : Float} (ofLhs : lhs.Computes lhsOperations left)
    (ofRhs : rhs.Computes rhsOperations right) (op : Operator) :
    (binary op lhs rhs).Computes (lhsOperations ++ rhsOperations ++ [⟨op, left, right, false⟩])
      (op.apply left right) := by
  intro policy
  rw [evaluate_binary, ofLhs, carryOut_bind, pure_bind, ofRhs, carryOut_bind, pure_bind,
    liftExcept_applyUnder, List.append_assoc, carryOut_append, carryOut_append]

variable {policy : DivisionPolicy} {refused : Logged EvaluationError Float}

/-- In a row of operands, the value so far is combined with the next operand. -/
theorem Computes.fold_cons {expr : Expr} {operations : List Operation} {right : Float}
    (computes : expr.Computes operations right) (left : Float) (rest : List Operand) (op : Operator)
    (operators : List Operator) :
    fold policy refused (.value left :: .tree expr :: rest) (op :: operators) =
      carryOut policy (operations ++ [⟨op, left, right, true⟩])
        (fold policy refused (.value (op.apply left right) :: rest) operators) := by
  rw [fold_cons_cons, evaluateOperand_value, pure_bind, evaluateOperand_tree, computes,
    carryOut_bind, pure_bind, applyUnder_emit_bind, carryOut_append]

end Expr

end Calculator
