import Calculator.Proofs.Binary64.Alike
import Calculator.Proofs.Evaluate.Policy
import Calculator.Proofs.Grammar.Shape
import Calculator.Proofs.Parse.Acceptance

/-!
# Trees without their closing zeros

Every span of a tree that was read is closed by adding zero. Without these zeros the tree has
the same value, except that negative zeros are no longer made positive. The two courses are
compared operation by operation: values stay alike and the same divisions are divisions by
zero, since what changes is the sign of a zero and nothing tells the signs of zeros apart but a
division by one of them.
-/

namespace Calculator

open Binary64

/-! ### Similar courses -/

namespace Course

/-- Some operation of a course is a division by zero. -/
def DividesByZero (course : Course) : Prop :=
  ∃ operation ∈ course.operations, operation.isDivisionByZero = true

/-- Some operation of a course is a division by negative zero. -/
def DividesByNegativeZero (course : Course) : Prop :=
  ∃ operation ∈ course.operations, operation.op = .divide ∧ operation.rhs = -0.0

instance (course : Course) : Decidable course.DividesByNegativeZero :=
  inferInstanceAs (Decidable (∃ operation ∈ course.operations, _ ∧ _))

theorem DividesByNegativeZero.dividesByZero {course : Course}
    (divides : course.DividesByNegativeZero) : course.DividesByZero := by
  obtain ⟨operation, member, isDivision, isNegativeZero⟩ := divides
  refine ⟨operation, member, ?_⟩
  have equal : (operation.rhs == 0.0) = true := beq_zero_iff.mpr (.inr isNegativeZero)
  simp [Operation.isDivisionByZero, isDivision, equal]

section Join

variable {left right : Course} {lhs rhs : Float} (ofLeft : left.outcome = .ok lhs)
  (ofRight : right.outcome = .ok rhs) (op : Operator) (isReported : Bool)
include ofLeft ofRight

theorem dividesByZero_join : (join op isReported left right).DividesByZero ↔
    left.DividesByZero ∨ right.DividesByZero ∨ op = .divide ∧ IsZero rhs := by
  rw [join_eq ofLeft ofRight, DividesByZero, DividesByZero, DividesByZero, ← beq_zero_iff]
  simp [or_and_right, exists_or, Operation.isDivisionByZero]

theorem dividesByNegativeZero_join : (join op isReported left right).DividesByNegativeZero ↔
    left.DividesByNegativeZero ∨ right.DividesByNegativeZero ∨ op = .divide ∧ rhs = -0.0 := by
  rw [join_eq ofLeft ofRight, DividesByNegativeZero, DividesByNegativeZero, DividesByNegativeZero]
  simp [or_and_right, exists_or]

end Join

/-- Two courses with values divide by zero both or not at all. As long as the second one does
not divide by negative zero, their values are alike. -/
structure Similar (course bare : Course) : Prop where
  divides : course.DividesByZero ↔ bare.DividesByZero
  values : ∃ value value', course.outcome = .ok value ∧ bare.outcome = .ok value' ∧
    (¬ bare.DividesByNegativeZero → Alike value value')

theorem similar_done (value : Float) : Similar (done value) (done value) :=
  ⟨.rfl, value, value, rfl, rfl, fun _ => .refl value⟩

variable {left left' right right' : Course}

/-- Courses stay similar when they are joined, since a divisor of the first one is never
negative zero. -/
theorem Similar.join (ofLeft : Similar left left') (ofRight : Similar right right')
    {op : Operator} (isReported : Bool) (ofDivisor : op = .divide → right.outcome ≠ .ok (-0.0)) :
    Similar (Course.join op isReported left right) (Course.join op isReported left' right') := by
  obtain ⟨lhs, lhs', hasLhs, hasLhs', alikeLhs⟩ := ofLeft.values
  obtain ⟨rhs, rhs', hasRhs, hasRhs', alikeRhs⟩ := ofRight.values
  constructor
  · rw [dividesByZero_join hasLhs hasRhs, dividesByZero_join hasLhs' hasRhs', ofLeft.divides,
      ofRight.divides]
    -- As long as nothing has been divided by zero, the divisors are alike.
    refine or_congr_right' fun _ => or_congr_right' fun none => and_congr_right fun _ => ?_
    exact (alikeRhs fun divides => none divides.dividesByZero).isZero_iff
  · refine ⟨_, _, by rw [join_eq hasLhs hasRhs], by rw [join_eq hasLhs' hasRhs'], fun none => ?_⟩
    rw [dividesByNegativeZero_join hasLhs' hasRhs', not_or, not_or] at none
    obtain ⟨noneLeft, noneRight, noneHere⟩ := none
    refine (alikeLhs noneLeft).apply (alikeRhs noneRight) fun isDivision => ⟨?_, ?_⟩
    · rintro rfl
      exact ofDivisor isDivision hasRhs
    · exact fun isNegativeZero => noneHere ⟨isDivision, isNegativeZero⟩

/-- A course stays similar when zero is added to its value. -/
theorem Similar.close (similar : Similar left left') :
    Similar (Course.join .add true left (done 0.0)) left' := by
  obtain ⟨value, value', hasValue, hasValue', alike⟩ := similar.values
  constructor
  · have hasZero : (done 0.0).outcome = .ok 0.0 := rfl
    rw [dividesByZero_join hasValue hasZero, similar.divides]
    simp [DividesByZero, done]
  · refine ⟨_, value', by rw [join_eq hasValue rfl], hasValue', fun none => ?_⟩
    exact (alike_add_zero value).trans (alike none)

/-- Where divisions by zero are refused, a course is refused for them if there is one. -/
theorem reject_eq_divisionByZero_iff (course : Course) :
    (course.perform .reject).result = .error .divisionByZero ↔ course.DividesByZero := by
  rw [result_perform_reject]
  split
  · next divides => exact iff_of_true rfl divides
  · next none => exact iff_of_false course.result_ne_divisionByZero none

section Value

variable {course : Course} {value : Float} (ends : course.outcome = .ok value)
include ends

theorem result_perform_ieee : (course.perform .ieee).result = .ok value := by
  rw [perform_ieee, Logged.result_ending, result_eq_ok ends]

theorem result_perform_reject_of_not (none : ¬ course.DividesByZero) :
    (course.perform .reject).result = .ok value := by
  rw [result_perform_reject]
  exact (if_neg none).trans (result_eq_ok ends)

end Value

end Course

/-! ### Bare trees -/

namespace Expr

mutual

/-- A tree without the last element and the last operator of each of its spans. -/
def bare : Expr → Expr
  | literal value => literal value
  | binary op lhs rhs => binary op lhs.bare rhs.bare
  | composite elements operators => composite (bareAll elements).dropLast operators.dropLast

/-- Some trees without the last elements and operators of their spans. -/
def bareAll : List Expr → List Expr
  | [] => []
  | element :: elements => element.bare :: bareAll elements

end

theorem bareAll_eq_map (elements : List Expr) : bareAll elements = elements.map bare := by
  induction elements with
  | nil => rfl
  | cons element elements inductionHypothesis => rw [bareAll, inductionHypothesis, List.map_cons]

/-- The course of a closed span ends with the addition of zero. -/
theorem course_closed (first : Expr) (row : List (Operator × Expr)) :
    (composite (first :: row.map Prod.snd ++ [.literal 0.0]) (row.map Prod.fst ++ [.add])).course =
      .join .add true (.joinAll first.course (coursesOf row)) (.done 0.0) := by
  have whole := course_composite first (row ++ [(.add, .literal 0.0)])
  simpa [coursesOf, Course.joinAll, course] using whole

/-- The value of a number or of a closed span is not negative zero. -/
theorem Shaped.outcome_ne_negativeZero {expr : Expr} (shaped : expr.Shaped)
    (notBinary : ∀ op lhs rhs, expr ≠ binary op lhs rhs) :
    expr.course.outcome ≠ .ok (-0.0) := by
  intro isNegativeZero
  cases expr with
  | binary op lhs rhs => exact notBinary op lhs rhs rfl
  | literal value => exact IsUnsigned.ne_negativeZero shaped (Except.ok.inj isNegativeZero)
  | composite elements operators =>
      obtain ⟨first, row, rfl, rfl, -⟩ := Closed.exists_row shaped
      rw [course_closed] at isNegativeZero
      generalize Course.joinAll first.course (coursesOf row) = joined at isNegativeZero
      obtain ⟨operations, counts | value⟩ := joined
      · cases isNegativeZero
      · exact add_zero_ne_negativeZero value (Except.ok.inj isNegativeZero)

/-- Courses stay similar when the elements of a span are joined to them. -/
theorem similar_joinAll {row : List (Operator × Expr)}
    (additive : ∀ next ∈ row, next.1.isMultiplicative = false)
    (ofRow : ∀ next ∈ row, Course.Similar next.2.course next.2.bare.course) {first first' : Course}
    (ofFirst : Course.Similar first first') :
    Course.Similar (first.joinAll (coursesOf row))
      (first'.joinAll (coursesOf (row.map fun next => (next.1, next.2.bare)))) := by
  induction row generalizing first first' with
  | nil => exact ofFirst
  | cons next row inductionHypothesis =>
      obtain ⟨isAdditive, additive⟩ := List.forall_mem_cons.mp additive
      obtain ⟨ofNext, ofRow⟩ := List.forall_mem_cons.mp ofRow
      refine inductionHypothesis additive ofRow (ofFirst.join ofNext true fun isDivision => ?_)
      rw [isDivision] at isAdditive
      cases isAdditive

/-- Without the zero that closes a span its course is similar. -/
theorem Closed.similar {elements : List Expr} {operators : List Operator}
    (closed : Closed elements operators)
    (ofElements : ∀ element ∈ elements, Course.Similar element.course element.bare.course) :
    Course.Similar (composite elements operators).course
      (composite elements operators).bare.course := by
  obtain ⟨first, row, rfl, rfl, additive⟩ := closed.exists_row
  have bareRow : (composite (first :: row.map Prod.snd ++ [.literal 0.0])
      (row.map Prod.fst ++ [.add])).bare =
        composite (first.bare :: (row.map fun next => (next.1, next.2.bare)).map Prod.snd)
          ((row.map fun next => (next.1, next.2.bare)).map Prod.fst) := by
    rw [bare, bareAll_eq_map, List.map_append, List.map_singleton, List.dropLast_concat,
      List.dropLast_concat]
    simp
  rw [course_closed, bareRow, course_composite]
  refine Course.Similar.close (similar_joinAll additive (fun next member => ?_) ?_)
  · exact ofElements next.2 (by simp [List.mem_map_of_mem member])
  · exact ofElements first (by simp)

mutual

/-- Without its closing zeros, a tree of the shape of written expressions has a similar
course. -/
theorem similar_bare : (expr : Expr) → (∀ node ∈ expr.nodes, node.Shaped) →
    Course.Similar expr.course expr.bare.course
  | literal value, _ => Course.similar_done value
  | binary op lhs rhs, shaped => by
      obtain ⟨⟨-, notBinary⟩, ofLhs, ofRhs⟩ := forall_nodes_binary.mp shaped
      have shapedRhs : rhs.Shaped := ofRhs rhs (mem_nodes_self rhs)
      rw [bare]
      exact (similar_bare lhs ofLhs).join (similar_bare rhs ofRhs) false fun _ =>
        shapedRhs.outcome_ne_negativeZero notBinary
  | composite elements operators, shaped => by
      obtain ⟨closed, ofElements⟩ := forall_nodes_composite.mp shaped
      exact Closed.similar closed (similar_bareAll elements ofElements)

theorem similar_bareAll : (elements : List Expr) →
    (∀ element ∈ elements, ∀ node ∈ element.nodes, node.Shaped) →
      ∀ element ∈ elements, Course.Similar element.course element.bare.course
  | [], _ => by simp
  | first :: elements, shaped => by
      obtain ⟨ofFirst, ofOthers⟩ := List.forall_mem_cons.mp shaped
      exact List.forall_mem_cons.mpr ⟨similar_bare first ofFirst, similar_bareAll elements ofOthers⟩

end

end Expr

/-- The zeros that close the spans of a tree that was read make no difference but to the signs
of zeros. Where divisions by zero are refused, the tree is refused exactly if it is without
these zeros, and otherwise the values are alike. Where they are carried out, there is a value
with and without, and the two are alike as long as nothing is divided by negative zero
without. -/
theorem evaluate_bare_of_parse (settings : Settings) {text : String} {expr : Expr}
    (parsed : (parse settings text).result = .ok expr) :
    ((expr.evaluate .reject).result = .error .divisionByZero ↔
      (expr.bare.evaluate .reject).result = .error .divisionByZero) ∧
    ((expr.evaluate .reject).result ≠ .error .divisionByZero →
      ∃ value value', (expr.evaluate .reject).result = .ok value ∧
        (expr.bare.evaluate .reject).result = .ok value' ∧ Alike value value') ∧
    ∃ value value', (expr.evaluate .ieee).result = .ok value ∧
      (expr.bare.evaluate .ieee).result = .ok value' ∧
        (¬ expr.bare.course.DividesByNegativeZero → Alike value value') := by
  obtain ⟨source, wellFormed, -, -, rfl⟩ := exists_source_of_parse parsed
  have similar := Expr.similar_bare source.expr (Source.shaped_expr wellFormed)
  obtain ⟨value, value', ends, ends', alike⟩ := similar.values
  simp only [Expr.evaluate_eq_perform]
  rw [ne_eq, Course.reject_eq_divisionByZero_iff, Course.reject_eq_divisionByZero_iff]
  refine ⟨similar.divides, fun none => ?_, value, value', Course.result_perform_ieee ends,
    Course.result_perform_ieee ends', alike⟩
  have none' : ¬ source.expr.bare.course.DividesByZero := mt similar.divides.mpr none
  exact ⟨value, value', Course.result_perform_reject_of_not ends none,
    Course.result_perform_reject_of_not ends' none', alike (mt (·.dividesByZero) none')⟩

/-- Zero times a negative number is negative zero only without the zero that closes the span. -/
theorem evaluate_bare_of_parse_negative_product :
    ∃ expr, (parse {} "0*(0-1)").result = .ok expr ∧
      (expr.evaluate .ieee).result = .ok 0.0 ∧ (expr.bare.evaluate .ieee).result = .ok (-0.0) ∧
        Alike 0.0 (-0.0) := by
  have wellFormed : (Source.written (.unsigned (.product (.single (.number ['0'])) .multiply
      (.group (.sum (.unsigned (.single (.number ['0']))) .subtract
        (.single (.number ['1']))))))).WellFormed :=
    ⟨numberRun_digit true rfl, rfl, numberRun_digit true rfl, rfl, numberRun_digit false rfl⟩
  let expr : Expr := .composite [.binary .multiply (.literal 0.0)
    (.composite [.literal 0.0, .literal 1.0, .literal 0.0] [.subtract, .add]), .literal 0.0] [.add]
  have parsed : (parse {} "0*(0-1)").result = .ok expr :=
    congrArg Logged.result (parse_text wellFormed (by decide))
  have ends : (expr.evaluate .ieee).result = .ok 0.0 := by
    rw [Expr.evaluate_eq_perform]
    rfl
  have ends' : (expr.bare.evaluate .ieee).result = .ok (-0.0) := by
    rw [Expr.evaluate_eq_perform]
    rfl
  obtain ⟨-, -, value, value', hasValue, hasValue', alike⟩ := evaluate_bare_of_parse {} parsed
  cases ends.symm.trans hasValue
  cases ends'.symm.trans hasValue'
  exact ⟨expr, parsed, ends, ends', alike (by decide)⟩

/-- A division by such a product shows the sign of its zero. -/
example :
    let product : Expr := .composite [.binary .multiply (.literal 0.0)
      (.composite [.literal 0.0, .literal 1.0, .literal 0.0] [.subtract, .add]), .literal 0.0] [.add]
    let quotient : Expr := .composite [.binary .divide (.literal 1.0) product, .literal 0.0] [.add]
    quotient.bare.course.DividesByNegativeZero ∧
      quotient.course.outcome = .ok (1.0 / 0.0) ∧
        quotient.bare.course.outcome = .ok (1.0 / -0.0) :=
  ⟨by decide, rfl, rfl⟩

end Calculator
