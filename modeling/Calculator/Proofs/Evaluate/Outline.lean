import Calculator.Proofs.Evaluate.Policy
import Calculator.Proofs.Expr.Outline

/-!
# What bracketed text tells of a value

An operation is shown as a span of its two operands, and it is evaluated like that span, except
that the span reports what it does. So a tree can be read off its outline that is evaluated with
the same result, and trees that are shown alike have one result.
-/

namespace Calculator

open Logged

namespace Course

/-! ### Courses without reports -/

/-- A course that reports no operation. -/
def silent (course : Course) : Course :=
  ⟨course.operations.map fun operation => { operation with isReported := false }, course.outcome⟩

@[simp] theorem silent_silent (course : Course) : course.silent.silent = course.silent := by
  simp [silent, Function.comp_def]

@[simp] theorem silent_single (op : Operator) (lhs rhs : Float) (isReported : Bool) :
    (single ⟨op, lhs, rhs, isReported⟩).silent = single ⟨op, lhs, rhs, false⟩ := rfl

@[simp] theorem silent_bind (course : Course) (next : Float → Course) :
    (course.bind next).silent = course.silent.bind fun value => (next value).silent := by
  obtain ⟨operations, counts | value⟩ := course
  · rfl
  · simp [bind, silent]

/-- Courses may be made silent before they are joined. -/
theorem silent_combine (refusal : Course) (courses : List Course) (operators : List Operator) :
    (combine refusal (courses.map silent) operators).silent =
      (combine refusal courses operators).silent := by
  induction operators generalizing courses with
  | nil =>
      match courses with
      | [] => rfl
      | [last] => exact last.silent_silent
      | _ :: _ :: _ => rfl
  | cons op operators inductionHypothesis =>
      match courses with
      | [] => rfl
      | [only] => rfl
      | left :: right :: others =>
          have goOn : ∀ value,
              (combine refusal (done value :: others.map silent) operators).silent =
                (combine refusal (done value :: others) operators).silent :=
            fun value => inductionHypothesis (done value :: others)
          simp only [List.map_cons, combine, silent_bind, silent_silent, silent_single, goOn]

/-- The result of a course does not depend on what it reports. -/
theorem result_perform_silent (course : Course) (policy : DivisionPolicy) :
    (course.silent.perform policy).result = (course.perform policy).result := by
  have divides : (∃ operation ∈ course.silent.operations, operation.isDivisionByZero = true) ↔
      ∃ operation ∈ course.operations, operation.isDivisionByZero = true := by
    simp [silent, Operation.isDivisionByZero]
  cases policy with
  | ieee => rw [perform_ieee, perform_ieee, result_ending, result_ending]; rfl
  | reject =>
      rw [result_perform_reject, result_perform_reject]
      simp only [divides]
      rfl

end Course

/-! ### Trees read off outlines -/

theorem plainNumber_injective : Function.Injective plainNumber := fun _ _ same =>
  numberText_injective (congrArg String.ofList (congrArg PlainText.chars same))

namespace Outline

mutual

/-- The tree of an outline in which every group is a span. `number` reads the texts of numbers. -/
def tree (number : PlainText → Float) : Outline → Expr
  | .number text => .literal (number text)
  | .group elements operators => .composite (trees number elements) operators

/-- The trees of some outlines. -/
def trees (number : PlainText → Float) : List Outline → List Expr
  | [] => []
  | element :: elements => element.tree number :: trees number elements

end

end Outline

namespace Expr

variable {number : PlainText → Float}

theorem length_trees_outlines (elements : List Expr) :
    (Outline.trees number (outlines elements)).length = elements.length := by
  induction elements with
  | nil => rfl
  | cons element elements inductionHypothesis =>
      rw [outlines, Outline.trees, List.length_cons, inductionHypothesis, List.length_cons]

mutual

/-- The tree that is read off the outline of a tree does the same operations. -/
theorem silent_course_tree (reads : ∀ value, number (plainNumber value) = value) :
    (expr : Expr) → (expr.outline.tree number).course.silent = expr.course.silent
  | literal value => by rw [outline, Outline.tree, reads]
  | binary op lhs rhs => by
      simp only [outline, Outline.tree, Outline.trees, course, courses, Course.combine,
        Course.silent_bind, Course.silent_single, Course.bind_done,
        silent_course_tree reads lhs, silent_course_tree reads rhs]
  | composite elements operators => by
      rw [outline, Outline.tree, course, course, length_trees_outlines, ← Course.silent_combine,
        silent_courses_trees reads elements, Course.silent_combine]

theorem silent_courses_trees (reads : ∀ value, number (plainNumber value) = value) :
    (elements : List Expr) →
      (courses (Outline.trees number (outlines elements))).map Course.silent =
        (courses elements).map Course.silent
  | [] => rfl
  | element :: elements => by
      simp only [outlines, Outline.trees, courses, List.map_cons,
        silent_course_tree reads element, silent_courses_trees reads elements]

end

end Expr

/-- Whatever becomes of divisions by zero, trees that are shown alike have one result: the same
value, or the same error with the same counts. -/
theorem evaluate_of_render_eq (settings : Settings) {left right : Expr}
    (alike : left.render = right.render) :
    (left.evaluate settings.division).result = (right.evaluate settings.division).result := by
  obtain ⟨number, reads⟩ := plainNumber_injective.hasLeftInverse
  have sameOutline : left.outline = right.outline := Expr.render_eq_render_iff.mp alike
  have sameCourse : left.course.silent = right.course.silent := by
    rw [← Expr.silent_course_tree reads left, sameOutline, Expr.silent_course_tree reads right]
  rw [Expr.evaluate_eq_perform, Expr.evaluate_eq_perform, ← Course.result_perform_silent,
    sameCourse, Course.result_perform_silent]

/-- A quotient and the span of its operands are shown alike. -/
theorem evaluate_of_render_eq_quotient :
    let quotient : Expr := .binary .divide (.literal 1.0) (.literal 0.0)
    let span : Expr := .composite [.literal 1.0, .literal 0.0] [.divide]
    quotient.render = span.render ∧
      (quotient.evaluate .reject).result = (span.evaluate .reject).result ∧
      (quotient.evaluate .ieee).result = (span.evaluate .ieee).result := by
  intro quotient span
  have alike : quotient.render = span.render := Expr.render_eq_render_iff.mpr rfl
  exact ⟨alike, evaluate_of_render_eq { division := .reject } alike, evaluate_of_render_eq {} alike⟩

end Calculator
