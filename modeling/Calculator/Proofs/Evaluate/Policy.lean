import Calculator.Proofs.Evaluate.Course

/-!
# Policies

Where divisions by zero are refused, an evaluation goes the same way as where they are
carried out, and only stops before the first of them. Since both carry out the course of the
tree, nothing is said here about trees, spines or rows of operands.
-/

namespace Calculator

open Logged

namespace Course

variable (course : Course)

theorem result_ne_divisionByZero : course.result ≠ .error .divisionByZero := by
  rw [result]
  cases course.outcome <;> exact nofun

variable {course} in
theorem result_eq_ok {value : Float} (ends : course.outcome = .ok value) :
    course.result = .ok value := by
  rw [result, ends]
  rfl

/-- Where divisions by zero are carried out, so is the whole course. -/
theorem perform_ieee : course.perform .ieee = ending course.result course.events := by
  rw [perform, carryOut_eq, if_neg (by simp), events]

/-- Where divisions by zero are refused, the course is carried out up to the first of them. -/
theorem perform_reject :
    course.perform .reject =
      if ∃ operation ∈ course.operations, operation.isDivisionByZero then
        ending (.error .divisionByZero)
          ((course.operations.takeWhile (! ·.isDivisionByZero)).flatMap Operation.events)
      else ending course.result course.events := by
  rw [perform, carryOut_eq, events]
  simp only [true_and]

theorem result_perform_reject :
    (course.perform .reject).result =
      if ∃ operation ∈ course.operations, operation.isDivisionByZero then .error .divisionByZero
      else course.result := by
  rw [perform_reject]
  split
  · rw [result_ending]
  · rw [result_ending]

variable {course}

/-- A course that is refused for no division by zero has none. -/
theorem perform_reject_eq_perform_ieee
    (noDivision : (course.perform .reject).result ≠ .error .divisionByZero) :
    course.perform .reject = course.perform .ieee := by
  rw [perform_reject, perform_ieee, if_neg]
  intro divides
  rw [result_perform_reject, if_pos divides] at noDivision
  exact noDivision rfl

end Course

/-- The operations before the first division by zero. -/
theorem takeWhile_operations {before after : List Operation} {division : Operation}
    (none : ∀ operation ∈ before, operation.isDivisionByZero = false)
    (isDivision : division.isDivisionByZero = true) :
    (before ++ division :: after).takeWhile (! ·.isDivisionByZero) = before := by
  rw [List.takeWhile_append_of_pos (by simpa using none), List.takeWhile_cons_of_neg (by simpa),
    List.append_nil]

/-- Refusing divisions by zero only cuts an evaluation short. A value or a refused span comes
out as it does otherwise, with the same events; a division is refused exactly if the operations
that are carried out otherwise, up to the end or to a refused span, include a division by a
zero of either sign; and then the events are those of the operations before the first such
division, which are the first ones that are reported otherwise. -/
theorem Expr.reject_cuts_ieee_short (expr : Expr) :
    ((expr.evaluate .ieee).result = expr.course.result ∧
      (expr.evaluate .ieee).events.toList = expr.course.events) ∧
    (∀ value, (expr.evaluate .reject).result = .ok value →
      (expr.evaluate .ieee).run = (expr.evaluate .reject).run) ∧
    (∀ elements operators,
      (expr.evaluate .reject).result = .error (.malformedComposite elements operators) →
        (expr.evaluate .ieee).run = (expr.evaluate .reject).run) ∧
    ((expr.evaluate .reject).result = .error .divisionByZero ↔
      ∃ operation ∈ expr.course.operations, operation.isDivisionByZero) ∧
    ∀ before division after, expr.course.operations = before ++ division :: after →
      (∀ operation ∈ before, operation.isDivisionByZero = false) →
      division.isDivisionByZero = true →
        (expr.evaluate .reject).events.toList = before.flatMap Operation.events ∧
        (expr.evaluate .ieee).events.toList =
          before.flatMap Operation.events ++
            ((division :: after).flatMap Operation.events ++ expr.course.warnings) := by
  simp only [evaluate_eq_perform]
  have refusedOtherwise : ∀ outcome, (expr.course.perform .reject).result = outcome →
      outcome ≠ .error .divisionByZero →
        (expr.course.perform .ieee).run = (expr.course.perform .reject).run := by
    rintro _ rfl otherwise
    rw [Course.perform_reject_eq_perform_ieee otherwise]
  refine ⟨⟨?_, ?_⟩, ?_, ?_, ?_, ?_⟩
  · rw [Course.perform_ieee, result_ending]
  · rw [Course.perform_ieee, events_ending]
  · exact fun value ends => refusedOtherwise _ ends (by simp)
  · exact fun elements operators ends => refusedOtherwise _ ends (by simp)
  · rw [Course.result_perform_reject]
    split
    · next divides => simp only [divides]
    · next none => simp only [none, Course.result_ne_divisionByZero]
  · intro before division after split none isDivision
    have divides : ∃ operation ∈ expr.course.operations, operation.isDivisionByZero :=
      ⟨division, by simp [split], isDivision⟩
    constructor
    · rw [Course.perform_reject, if_pos divides, events_ending, split,
        takeWhile_operations none isDivision]
    · rw [Course.perform_ieee, events_ending, Course.events, split, List.flatMap_append,
        List.append_assoc]

/-- A sum is reported before the division by zero behind it is refused, although the span
lacks an element and is refused itself where divisions by zero are carried out. -/
theorem Expr.reject_cuts_ieee_short_before_malformed :
    let span : Expr := .composite
      [.literal 1.0, .literal 2.0, .binary .divide (.literal 3.0) (.literal (-0.0))] [.add, .add, .add]
    (span.evaluate .reject).result = .error .divisionByZero ∧
      (span.evaluate .reject).events.toList = [.folded .add 1.0 2.0 (Operator.add.apply 1.0 2.0)] ∧
      (span.evaluate .ieee).result = .error (.malformedComposite 3 3) := by
  intro span
  obtain ⟨⟨ends, -⟩, -, -, refuses, cuts⟩ := span.reject_cuts_ieee_short
  have isDivision : (⟨.divide, 3.0, -0.0, false⟩ : Operation).isDivisionByZero = true := by decide
  refine ⟨refuses.mpr ⟨⟨.divide, 3.0, -0.0, false⟩, ?_, isDivision⟩, ?_, ends⟩
  · exact List.mem_cons_of_mem _ List.mem_cons_self
  · exact (cuts [⟨.add, 1.0, 2.0, true⟩] _ _ rfl (by decide) isDivision).1

end Calculator
