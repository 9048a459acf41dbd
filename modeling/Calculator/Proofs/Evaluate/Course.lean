import Calculator.Proofs.Evaluate.Operations
import Calculator.Proofs.Evaluate.Recursion

/-!
# The course of an evaluation

What any tree does when it is evaluated and no division is refused: the operations that are
carried out, in order, and what they end in, which is a value or a span whose counts do not
fit together. The course of a tree does not depend on the policy. `evaluate_eq_perform` says
that the policy only decides how much of it is carried out, so two policies are compared by
looking for divisions by zero in one list.
-/

namespace Calculator

open Logged

/-- The counts of a span that do not fit together. -/
structure Counts where
  elements : Nat
  operators : Nat

/-- Operations in order, and the value or the refused span that they end in. -/
structure Course where
  operations : List Operation
  outcome : Except Counts Float

namespace Course

/-- The value is known without any operation. -/
def done (value : Float) : Course := ⟨[], .ok value⟩

/-- A span is refused. -/
def refused (elements operators : Nat) : Course := ⟨[], .error ⟨elements, operators⟩⟩

/-- One operation. -/
def single (operation : Operation) : Course := ⟨[operation], .ok operation.value⟩

/-- What follows a value follows the operations that lead to it; nothing follows a refused
span. -/
def bind (course : Course) (next : Float → Course) : Course :=
  match course.outcome with
  | .ok value => ⟨course.operations ++ (next value).operations, (next value).outcome⟩
  | .error counts => ⟨course.operations, .error counts⟩

/-- The courses of the operands of a span, joined by its operators from left to right. The
span is refused as soon as the operators and what is left of the operands do not fit. -/
def combine (refusal : Course) : List Course → List Operator → Course
  | left :: right :: others, op :: operators =>
      left.bind fun lhs =>
        right.bind fun rhs =>
          (single ⟨op, lhs, rhs, true⟩).bind fun value =>
            combine refusal (done value :: others) operators
  | [last], [] => last
  | _, _ => refusal

/-- What a course gives. -/
def result (course : Course) : Except EvaluationError Float :=
  course.outcome.mapError fun counts => .malformedComposite counts.elements counts.operators

/-- The event behind the last operation of a course, if there is one. -/
def warnings (course : Course) : List Event :=
  match course.outcome with
  | .ok _ => []
  | .error counts => [.malformed counts.elements counts.operators]

/-- The events of a course, in order. -/
def events (course : Course) : List Event :=
  course.operations.flatMap Operation.events ++ course.warnings

/-- Carry out a course. -/
def perform (policy : DivisionPolicy) (course : Course) : Logged EvaluationError Float :=
  carryOut policy course.operations (ending course.result course.warnings)

variable {policy : DivisionPolicy}

theorem perform_done (value : Float) : (done value).perform policy = pure value := by
  rw [pure_eq_ending]
  rfl

theorem perform_refused (elements operators : Nat) :
    (refused elements operators).perform policy = Expr.malformed elements operators := by
  rw [Expr.malformed, emit_eq_ending, throw_eq_ending, ending_ok_bind, after_ending]
  rfl

/-- Of two courses the first is carried out first. -/
theorem perform_bind (course : Course) (next : Float → Course) :
    (course.bind next).perform policy = (do
      let value ← course.perform policy
      (next value).perform policy) := by
  obtain ⟨operations, counts | value⟩ := course
  · simp only [bind, perform, carryOut_bind]
    rfl
  · simp only [bind, perform, carryOut_bind, carryOut_append]
    exact congrArg (carryOut policy operations) (after_nil _).symm

theorem perform_single (op : Operator) (lhs rhs : Float) :
    (single ⟨op, lhs, rhs, false⟩).perform policy = liftExcept (op.applyUnder policy lhs rhs) := by
  rw [liftExcept_applyUnder, pure_eq_ending]
  rfl

theorem perform_single_reported (op : Operator) (lhs rhs : Float) :
    (single ⟨op, lhs, rhs, true⟩).perform policy = (do
      let value ← liftExcept (op.applyUnder policy lhs rhs)
      emit (.folded op lhs rhs value)
      pure value) := by
  rw [applyUnder_emit_bind, pure_eq_ending]
  rfl

/-! ### Courses joined by operations -/

/-- Two courses, and the operation on their values. -/
def join (op : Operator) (isReported : Bool) (left right : Course) : Course :=
  left.bind fun lhs => right.bind fun rhs => single ⟨op, lhs, rhs, isReported⟩

/-- A row of courses, joined to the first one from left to right. -/
def joinAll (first : Course) (row : List (Operator × Course)) : Course :=
  row.foldl (fun course next => join next.1 true course next.2) first

theorem bind_assoc (course : Course) (next next' : Float → Course) :
    (course.bind next).bind next' = course.bind fun value => (next value).bind next' := by
  obtain ⟨operations, counts | value⟩ := course
  · rfl
  · simp only [bind]
    cases (next value).outcome <;> simp

theorem done_bind (value : Float) (next : Float → Course) : (done value).bind next = next value :=
  rfl

theorem bind_done (course : Course) : course.bind done = course := by
  obtain ⟨operations, counts | value⟩ := course
  · rfl
  · simp [bind, done]

/-- What follows in a row only needs the value so far. -/
theorem joinAll_eq_bind (first : Course) (row : List (Operator × Course)) :
    joinAll first row = first.bind fun value => joinAll (done value) row := by
  induction row generalizing first with
  | nil => exact first.bind_done.symm
  | cons next row inductionHypothesis =>
      have step : ∀ course : Course,
          joinAll course (next :: row) = joinAll (join next.1 true course next.2) row :=
        fun _ => rfl
      simp only [step]
      rw [inductionHypothesis, join, bind_assoc]
      refine congrArg (bind first) (funext fun value => ?_)
      rw [inductionHypothesis (join _ _ _ _), join, done_bind]

/-- A row of courses with an operator before each but the first is joined from left to right. -/
theorem combine_eq_joinAll (refusal first : Course) (row : List (Operator × Course)) :
    combine refusal (first :: row.map Prod.snd) (row.map Prod.fst) = joinAll first row := by
  induction row generalizing first with
  | nil => rfl
  | cons next row inductionHypothesis =>
      rw [List.map_cons, List.map_cons, combine]
      simp only [inductionHypothesis]
      have goOn : joinAll first (next :: row) = joinAll (join next.1 true first next.2) row := rfl
      rw [goOn, joinAll_eq_bind, join, bind_assoc]
      simp only [bind_assoc]

/-- What two courses with values come to, joined by an operation. -/
theorem join_eq {left right : Course} {lhs rhs : Float} (ofLeft : left.outcome = .ok lhs)
    (ofRight : right.outcome = .ok rhs) (op : Operator) (isReported : Bool) :
    join op isReported left right =
      ⟨left.operations ++ right.operations ++ [⟨op, lhs, rhs, isReported⟩],
        .ok (op.apply lhs rhs)⟩ := by
  simp [join, bind, single, ofLeft, ofRight, Operation.value]

end Course

namespace Expr

mutual

/-- The course of the evaluation of a tree: operands from left to right, and then the
operation on them. -/
def course : Expr → Course
  | literal value => .done value
  | binary op lhs rhs =>
      lhs.course.bind fun left =>
        rhs.course.bind fun right => .single ⟨op, left, right, false⟩
  | composite elements operators =>
      .combine (.refused elements.length operators.length) (courses elements) operators

/-- The courses of some trees. -/
def courses : List Expr → List Course
  | [] => []
  | element :: elements => element.course :: courses elements

end

theorem courses_eq_map (elements : List Expr) : courses elements = elements.map course := by
  induction elements with
  | nil => rfl
  | cons element elements inductionHypothesis => rw [courses, inductionHypothesis, List.map_cons]

/-- The courses of some trees, each with the operator before it. -/
def coursesOf (row : List (Operator × Expr)) : List (Operator × Course) :=
  row.map fun next => (next.1, next.2.course)

/-- The course of a span is that of its elements, joined from left to right. -/
theorem course_composite (first : Expr) (row : List (Operator × Expr)) :
    (composite (first :: row.map Prod.snd) (row.map Prod.fst)).course =
      .joinAll first.course (coursesOf row) := by
  have joined := Course.combine_eq_joinAll (.refused (row.length + 1) row.length) first.course
    (coursesOf row)
  rw [← joined, course, courses_eq_map]
  simp [coursesOf, Function.comp_def]

/-- The course of an operand in a row. -/
def Operand.course : Operand → Course
  | .tree expr => expr.course
  | .value result => .done result

variable {policy : DivisionPolicy}

/-- A row is folded as the courses of its operands are joined. -/
theorem fold_eq_perform {elements operators : Nat} {row : List Operand}
    (operands : ∀ operand ∈ row, evaluateOperand policy operand = operand.course.perform policy)
    (ops : List Operator) :
    fold policy (malformed elements operators) row ops =
      (Course.combine (.refused elements operators) (row.map Operand.course) ops).perform
        policy := by
  induction ops generalizing row with
  | nil =>
      match row with
      | [] => rw [fold_nil, List.map_nil, Course.combine, Course.perform_refused] <;> simp
      | [last] => rw [fold_singleton, operands last (by simp)]; rfl
      | first :: second :: rest =>
          rw [fold_cons_cons_nil, ← Course.perform_refused]; rfl
  | cons op ops inductionHypothesis =>
      match row with
      | [] => rw [fold_nil, ← Course.perform_refused]; rfl
      | [only] => rw [fold_singleton_cons, ← Course.perform_refused]; rfl
      | first :: second :: rest =>
          have goOn : ∀ value,
              fold policy (malformed elements operators) (.value value :: rest) ops =
              (Course.combine (.refused elements operators)
                ((Operand.value value :: rest).map Operand.course) ops).perform policy := by
            intro value
            refine inductionHypothesis fun operand member => ?_
            rcases List.mem_cons.mp member with rfl | member
            · rw [evaluateOperand_value, Operand.course, Course.perform_done]
            · exact operands operand (by simp [member])
          simp only [fold_cons_cons, operands first (by simp), operands second (by simp), goOn,
            List.map_cons, Course.combine, Course.perform_bind, Course.perform_single_reported,
            Operand.course, bind_assoc, pure_bind]

mutual

/-- Under every policy, evaluating a tree carries out its course. -/
theorem evaluate_eq_perform (policy : DivisionPolicy) : (expr : Expr) →
    expr.evaluate policy = expr.course.perform policy
  | literal value => by rw [evaluate_literal, course, Course.perform_done]
  | binary op lhs rhs => by
      rw [evaluate_binary, course, evaluate_eq_perform policy lhs, evaluate_eq_perform policy rhs]
      simp only [Course.perform_bind, Course.perform_single]
  | composite elements operators => by
      have ofOperands : (elements.map Operand.tree).map Operand.course = elements.map course := by
        rw [List.map_map]
        rfl
      rw [evaluate_composite, fold_eq_perform (evaluateOperand_eq_perform policy elements),
        ofOperands, course, courses_eq_map]

theorem evaluateOperand_eq_perform (policy : DivisionPolicy) : (elements : List Expr) →
    ∀ operand ∈ elements.map Operand.tree,
      evaluateOperand policy operand = operand.course.perform policy
  | [] => by simp
  | first :: elements => by
      intro operand member
      rcases List.mem_cons.mp member with rfl | member
      · rw [evaluateOperand_tree, evaluate_eq_perform policy first, Operand.course]
      · exact evaluateOperand_eq_perform policy elements operand member

end

end Expr

end Calculator
