import Calculator.Proofs.Evaluate.Recursion
import Calculator.Proofs.Logged

/-!
# The definition of evaluation

What the value of a tree is, without loops over spines and rows of operands: a number is
its own value, an operation evaluates both operands, and a span carries out its operators
one after another, each on the value so far and the next element. `denote` says for each
operator when it is reached, what is evaluated before it and what is reported behind it,
so it also fixes which of several errors comes out and what has been reported by then.
It computes nothing but how the evaluation ends and the list of its events.
-/

namespace Calculator

open Logged

/-- How an evaluation ends, and the events that it has reported by then. -/
structure Account where
  outcome : Except EvaluationError Float
  log : List Event

namespace Account

/-- A value that is there without any report. -/
def value (value : Float) : Account := ⟨.ok value, []⟩

/-- Go on with a value. Nothing comes behind an error. -/
def andThen (account : Account) (next : Float → Account) : Account :=
  match account.outcome with
  | .ok value => ⟨(next value).outcome, account.log ++ (next value).log⟩
  | .error cause => ⟨.error cause, account.log⟩

/-- Report an event before everything else. -/
def reporting (event : Event) (account : Account) : Account :=
  ⟨account.outcome, event :: account.log⟩

/-- The computation that an account is about. -/
def computation (account : Account) : Logged EvaluationError Float :=
  ending account.outcome account.log

theorem computation_value (result : Float) : (value result).computation = pure result :=
  (pure_eq_ending result).symm

theorem computation_andThen (account : Account) (next : Float → Account) :
    (account.andThen next).computation = (do
      let value ← account.computation
      (next value).computation) := by
  obtain ⟨cause | value, log⟩ := account
  · rfl
  · exact (after_ending log _ _).symm

theorem computation_reporting (event : Event) (account : Account) :
    (account.reporting event).computation = (do
      emit event
      account.computation) := by
  rw [emit_eq_ending, ending_ok_bind]
  exact (after_ending [event] _ _).symm

end Account

/-- Carry out an operation. Where divisions by zero are refused, they have no value. -/
def Operator.perform (policy : DivisionPolicy) (op : Operator) (lhs rhs : Float) : Account :=
  match op with
  | add => .value (lhs + rhs)
  | subtract => .value (lhs - rhs)
  | multiply => .value (lhs * rhs)
  | divide =>
      if policy = .reject ∧ rhs == 0.0 then ⟨.error .divisionByZero, []⟩ else .value (lhs / rhs)

theorem Operator.computation_perform (policy : DivisionPolicy) (op : Operator) (lhs rhs : Float) :
    (op.perform policy lhs rhs).computation = liftExcept (op.applyUnder policy lhs rhs) := by
  rw [liftExcept_eq_ending]
  cases op with
  | add => rfl
  | subtract => rfl
  | multiply => rfl
  | divide =>
      simp only [perform, applyUnder, decide_true, Bool.true_and, Bool.and_eq_true,
        decide_eq_true_eq, and_comm]
      split <;> rfl

namespace Expr

/-- Carry out the operators of a span from its `k`-th one on. Of the accounts of its elements,
and of `lhs` for what stands before them, those are taken up that an operator reaches. The span
is `refused` at an operator without an element behind it, and at the end if there are more
elements. -/
def combineFrom (policy : DivisionPolicy) (refused : Account) (elements : List Account) (k : Nat)
    (lhs : Account) : List Operator → Account
  | [] => if elements.length = k then lhs else refused
  | op :: operators =>
      if present : k < elements.length then
        lhs.andThen fun left =>
          elements[k].andThen fun right =>
            (op.perform policy left right).andThen fun value =>
              (combineFrom policy refused elements (k + 1) (.value value) operators).reporting
                (.folded op left right value)
      else refused

mutual

/-- How a tree is evaluated, by recursion on the tree. -/
def denote (policy : DivisionPolicy) : Expr → Account
  | literal value => .value value
  | binary op lhs rhs =>
      (denote policy lhs).andThen fun left =>
        (denote policy rhs).andThen fun right => op.perform policy left right
  | composite elements operators =>
      let refused : Account :=
        ⟨.error (.malformedComposite elements.length operators.length),
          [.malformed elements.length operators.length]⟩
      let accounts := denoteAll policy elements
      combineFrom policy refused accounts 1 (accounts.headD refused) operators

/-- How some trees are evaluated, one by one. -/
def denoteAll (policy : DivisionPolicy) : List Expr → List Account
  | [] => []
  | element :: elements => denote policy element :: denoteAll policy elements

end

/-- An operator without a second element is refused before its first element is evaluated, which
would have been refused, too. -/
example : ((composite [.composite [] []] [.add]).denote .ieee).log = [.malformed 1 1] := rfl

section Fold

variable {policy : DivisionPolicy} {refused : Account}

/-- A row of operands is folded as the operators of its span are carried out: the first
operand is what stands before the `k`-th operator, and the others are the elements from
there on. -/
theorem fold_eq_combineFrom {elements : List Account} {k : Nat} {others : List Expr}
    (started : k ≤ elements.length)
    (rest : others.map (evaluate policy) = (elements.drop k).map Account.computation)
    {first : Operand} {lhs : Account} (ofFirst : evaluateOperand policy first = lhs.computation)
    (operators : List Operator) :
    fold policy refused.computation (first :: others.map .tree) operators =
      (combineFrom policy refused elements k lhs operators).computation := by
  have counts : others.length = elements.length - k := by
    simpa using congrArg List.length rest
  -- The fold gets stuck where the others run out, which is where `k` reaches the length.
  induction operators generalizing k first lhs others with
  | nil =>
      rw [combineFrom]
      cases others with
      | nil =>
          rw [List.length_nil] at counts
          rw [List.map_nil, fold_singleton, if_pos (by omega), ofFirst]
      | cons second others =>
          rw [List.length_cons] at counts
          rw [List.map_cons, fold_cons_cons_nil, if_neg (by omega)]
  | cons op operators inductionHypothesis =>
      rw [combineFrom]
      cases others with
      | nil =>
          rw [List.length_nil] at counts
          rw [List.map_nil, fold_singleton_cons, dif_neg (by omega)]
      | cons second others =>
          rw [List.length_cons] at counts
          have present : k < elements.length := by omega
          rw [List.drop_eq_getElem_cons present, List.map_cons, List.map_cons] at rest
          obtain ⟨ofSecond, behind⟩ := List.cons.inj rest
          have ofValue (value : Float) : evaluateOperand policy (.value value) =
              (Account.value value).computation := by
            rw [evaluateOperand_value, Account.computation_value]
          have goOn := fun value =>
            inductionHypothesis present behind (ofValue value) (by omega)
          rw [List.map_cons, fold_cons_cons, dif_pos present, ofFirst, evaluateOperand_tree,
            ofSecond]
          simp only [Account.computation_andThen, Account.computation_reporting,
            Operator.computation_perform, goOn]

/-- The row of all elements is folded from the first operator on. -/
theorem fold_map_tree {elements : List Expr} {accounts : List Account}
    (told : elements.map (evaluate policy) = accounts.map Account.computation)
    (operators : List Operator) :
    fold policy refused.computation (elements.map .tree) operators =
      (combineFrom policy refused accounts 1 (accounts.headD refused) operators).computation := by
  cases elements with
  | nil =>
      obtain rfl : accounts = [] := by simpa using told.symm
      rw [List.map_nil, fold_nil]
      cases operators <;> simp [combineFrom]
  | cons first others =>
      cases accounts with
      | nil => cases told
      | cons account accounts =>
          obtain ⟨ofFirst, ofOthers⟩ := List.cons.inj told
          exact fold_eq_combineFrom (by simp) ofOthers ((evaluateOperand_tree first).trans ofFirst)
            operators

end Fold

mutual

/-- The loops of the evaluator give what the definition says. -/
theorem evaluate_eq_denote (policy : DivisionPolicy) : (expr : Expr) →
    expr.evaluate policy = (expr.denote policy).computation
  | literal value => by rw [denote, evaluate_literal, Account.computation_value]
  | binary op lhs rhs => by
      rw [denote, evaluate_binary, evaluate_eq_denote policy lhs, evaluate_eq_denote policy rhs]
      simp only [Account.computation_andThen, Operator.computation_perform]
  | composite elements operators => by
      have refusal : malformed elements.length operators.length =
          Account.computation ⟨.error (.malformedComposite elements.length operators.length),
            [.malformed elements.length operators.length]⟩ := by
        simp [malformed, Account.computation]
      rw [denote, evaluate_composite, refusal]
      exact fold_map_tree (map_evaluate_eq_denoteAll policy elements) operators

theorem map_evaluate_eq_denoteAll (policy : DivisionPolicy) : (elements : List Expr) →
    elements.map (evaluate policy) = (denoteAll policy elements).map Account.computation
  | [] => rfl
  | element :: elements => by
      rw [denoteAll, List.map_cons, List.map_cons, evaluate_eq_denote policy element,
        map_evaluate_eq_denoteAll policy elements]

end

/-- Under any settings, evaluating a tree comes out as the definition says: with the same
value or the same error, and with the same events in the same order. -/
theorem evaluate_refines_definition (settings : Settings) (expr : Expr) :
    (expr.evaluate settings.division).run =
      ((expr.denote settings.division).outcome, (expr.denote settings.division).log.toArray) := by
  rw [evaluate_eq_denote, Account.computation, run_ending]

end Expr

end Calculator
