import Calculator.Proofs.Calculate.Safety
import Calculator.Proofs.Evaluate.Bare

/-!
# Negative zero stays inside spans

Products and sums within a span may well be negative zero. The zero that closes the span makes it
positive, so neither a text nor a group ever has this value. A divisor is a number or a group, and
so is never negative zero, either: a division by zero keeps the sign of its dividend.
-/

namespace Calculator

open Binary64

namespace Course

/-- A division by negative zero in two courses and the operation that joins them is in one of the
courses, or the operation divides by the value of the second one. -/
theorem DividesByNegativeZero.of_join {op : Operator} {isReported : Bool} {left right : Course}
    (divides : (join op isReported left right).DividesByNegativeZero) :
    left.DividesByNegativeZero ∨ right.DividesByNegativeZero ∨
      op = .divide ∧ right.outcome = .ok (-0.0) := by
  obtain ⟨operations, counts | lhs⟩ := left
  · exact .inl divides
  · obtain ⟨operations', counts | rhs⟩ := right
    · obtain ⟨operation, member, isDivision⟩ := divides
      rcases List.mem_append.mp member with ofLeft | ofRight
      · exact .inl ⟨operation, ofLeft, isDivision⟩
      · exact .inr (.inl ⟨operation, ofRight, isDivision⟩)
    · refine ((dividesByNegativeZero_join rfl rfl op isReported).mp divides).imp_right
        (Or.imp_right (And.imp_right fun isNegativeZero => ?_))
      exact congrArg Except.ok isNegativeZero

/-- A row that is joined by additive operators divides by negative zero only within its courses. -/
theorem DividesByNegativeZero.of_joinAll {row : List (Operator × Course)}
    (additive : ∀ next ∈ row, next.1.isMultiplicative = false) {first : Course}
    (divides : (first.joinAll row).DividesByNegativeZero) :
    first.DividesByNegativeZero ∨ ∃ next ∈ row, next.2.DividesByNegativeZero := by
  induction row generalizing first with
  | nil => exact .inl divides
  | cons next row inductionHypothesis =>
      obtain ⟨isAdditive, additive⟩ := List.forall_mem_cons.mp additive
      rcases inductionHypothesis additive divides with inJoin | ⟨later, member, inLater⟩
      · rcases inJoin.of_join with inFirst | inNext | ⟨isDivision, -⟩
        · exact .inl inFirst
        · exact .inr ⟨next, List.mem_cons_self, inNext⟩
        · rw [isDivision] at isAdditive
          cases isAdditive
      · exact .inr ⟨later, List.mem_cons_of_mem _ member, inLater⟩

/-- Under every policy, the value that comes out is the value of the course. -/
theorem outcome_of_result_perform {course : Course} {policy : DivisionPolicy} {value : Float}
    (performs : (course.perform policy).result = .ok value) : course.outcome = .ok value := by
  have ofCourse : course.result = .ok value := by
    cases policy with
    | ieee => rwa [perform_ieee, Logged.result_ending] at performs
    | reject =>
        rw [result_perform_reject] at performs
        split at performs
        · cases performs
        · exact performs
  rw [result] at ofCourse
  cases ends : course.outcome with
  | ok value' =>
      rw [ends] at ofCourse
      exact congrArg Except.ok (Except.ok.inj ofCourse)
  | error counts =>
      rw [ends] at ofCourse
      cases ofCourse

end Course

namespace Expr

mutual

/-- Evaluating a tree of the shape of written expressions divides by no negative zero. -/
theorem not_dividesByNegativeZero : (expr : Expr) → (∀ node ∈ expr.nodes, node.Shaped) →
    ¬ expr.course.DividesByNegativeZero
  | literal value, _ => nofun
  | binary op lhs rhs, shaped => by
      obtain ⟨⟨-, notBinary⟩, ofLhs, ofRhs⟩ := forall_nodes_binary.mp shaped
      have shapedRhs : rhs.Shaped := ofRhs rhs (mem_nodes_self rhs)
      intro divides
      rcases Course.DividesByNegativeZero.of_join divides with inLhs | inRhs | ⟨-, isDivisor⟩
      · exact not_dividesByNegativeZero lhs ofLhs inLhs
      · exact not_dividesByNegativeZero rhs ofRhs inRhs
      · exact shapedRhs.outcome_ne_negativeZero notBinary isDivisor
  | composite elements operators, shaped => by
      obtain ⟨closed, ofElements⟩ := forall_nodes_composite.mp shaped
      have none := not_dividesByNegativeZero_of_mem elements ofElements
      obtain ⟨first, row, rfl, rfl, additive⟩ := Closed.exists_row closed
      rw [course_closed]
      intro divides
      -- No operator of a span is a division, so only its elements can divide.
      rcases divides.of_join with inTerms | inZero | ⟨isDivision, -⟩
      · have additive' : ∀ next ∈ coursesOf row, next.1.isMultiplicative = false :=
          List.forall_mem_map.mpr additive
        rcases inTerms.of_joinAll additive' with inFirst | ⟨next, isCourse, inNext⟩
        · exact none first (by simp) inFirst
        · obtain ⟨element, member, rfl⟩ := List.mem_map.mp isCourse
          exact none element.2 (by simp [List.mem_map_of_mem member]) inNext
      · obtain ⟨operation, member, -⟩ := inZero
        cases member
      · cases isDivision

theorem not_dividesByNegativeZero_of_mem : (elements : List Expr) →
    (∀ element ∈ elements, ∀ node ∈ element.nodes, node.Shaped) →
      ∀ element ∈ elements, ¬ element.course.DividesByNegativeZero
  | [], _ => by simp
  | first :: elements, shaped => by
      obtain ⟨ofFirst, ofOthers⟩ := List.forall_mem_cons.mp shaped
      exact List.forall_mem_cons.mpr ⟨not_dividesByNegativeZero first ofFirst,
        not_dividesByNegativeZero_of_mem elements ofOthers⟩

end

/-- A span that is closed by adding zero does not have the value negative zero. -/
theorem Closed.result_evaluate_ne_negativeZero {elements : List Expr} {operators : List Operator}
    (closed : Closed elements operators) (policy : DivisionPolicy) :
    ((composite elements operators).evaluate policy).result ≠ .ok (-0.0) := by
  rw [evaluate_eq_perform]
  have shaped : (composite elements operators).Shaped := closed
  exact mt Course.outcome_of_result_perform (shaped.outcome_ne_negativeZero nofun)

end Expr

/-- Negative zero is never the value of a text. While the tree of a text is evaluated, it is not
the value of any span, and of the operations that are carried out, none divides by it. So a
division by zero gives infinity for a positive dividend and negative infinity for a negative one,
and NaN only for a dividend without a sign of its own, a zero or NaN. -/
theorem negativeZero_stays_inside_spans (settings : Settings) (text : String) :
    (calculate settings text).result ≠ .ok (-0.0) ∧
    ∀ expr, (parse settings text).result = .ok expr →
      (∀ elements operators, .composite elements operators ∈ expr.nodes → ∀ policy,
        ((Expr.composite elements operators).evaluate policy).result ≠ .ok (-0.0)) ∧
      (∀ policy, expr.evaluate policy = expr.course.perform policy) ∧
      ∀ operation ∈ expr.course.operations, operation.op = .divide →
        operation.rhs ≠ -0.0 ∧
        (IsZero operation.rhs →
          0.0 < operation.lhs ∧ operation.value = 1.0 / 0.0 ∨
            operation.lhs < 0.0 ∧ operation.value = -1.0 / 0.0 ∨
              (IsZero operation.lhs ∨ operation.lhs.isNaN = true) ∧
                operation.value = Float.nan) := by
  have ofTree : ∀ expr, (parse settings text).result = .ok expr →
      ∀ elements operators, .composite elements operators ∈ expr.nodes → ∀ policy,
        ((Expr.composite elements operators).evaluate policy).result ≠ .ok (-0.0) := by
    intro expr parsed elements operators member policy
    obtain ⟨source, wellFormed, -, -, rfl⟩ := exists_source_of_parse parsed
    have closed : Expr.Closed elements operators := Source.shaped_expr wellFormed _ member
    exact closed.result_evaluate_ne_negativeZero policy
  refine ⟨?_, fun expr parsed => ⟨ofTree expr parsed, expr.evaluate_eq_perform, ?_⟩⟩
  · obtain ⟨outcome, log, calculates, -, ends⟩ := exists_calculation settings text
    rw [calculates, Logged.result_ending]
    rintro rfl
    cases ends with
    | value parsed ends =>
        obtain ⟨source, wellFormed, -, -, rfl⟩ := exists_source_of_parse parsed
        have shaped := Source.shaped_expr wellFormed source.expr (Expr.mem_nodes_self _)
        -- The root of the tree is a span.
        refine shaped.outcome_ne_negativeZero (fun op lhs rhs => ?_) ends
        cases source <;> exact nofun
  · intro operation member isDivision
    obtain ⟨source, wellFormed, -, -, rfl⟩ := exists_source_of_parse parsed
    have none := source.expr.not_dividesByNegativeZero (Source.shaped_expr wellFormed)
    have notNegative : operation.rhs ≠ -0.0 :=
      fun isNegativeZero => none ⟨operation, member, isDivision, isNegativeZero⟩
    refine ⟨notNegative, fun isZero => ?_⟩
    have quotient : operation.value = operation.lhs / 0.0 := by
      rw [Operation.value, isDivision, isZero.resolve_right notNegative]
      rfl
    rw [quotient]
    exact div_zero_cases operation.lhs

/-- One over a product that is negative zero by itself is infinity. -/
theorem negativeZero_stays_inside_spans_product :
    (calculate {} "1/(0*(0-1))").result ≠ .ok (-0.0) ∧
    ∃ expr, (parse {} "1/(0*(0-1))").result = .ok expr ∧
      ∃ operation ∈ expr.course.operations,
        operation.op = .divide ∧ IsZero operation.rhs ∧ operation.value = 1.0 / 0.0 := by
  have wellFormed : (Source.written (.unsigned (.product (.single (.number ['1'])) .divide
      (.group (.unsigned (.product (.single (.number ['0'])) .multiply
        (.group (.sum (.unsigned (.single (.number ['0']))) .subtract
          (.single (.number ['1'])))))))))).WellFormed :=
    ⟨numberRun_digit true rfl, rfl, numberRun_digit true rfl, rfl, numberRun_digit true rfl, rfl,
      numberRun_digit false rfl⟩
  let divisor : Expr := .composite [.binary .multiply (.literal 0.0)
    (.composite [.literal 0.0, .literal 1.0, .literal 0.0] [.subtract, .add]), .literal 0.0] [.add]
  let expr : Expr := .composite [.binary .divide (.literal 1.0) divisor, .literal 0.0] [.add]
  have parsed : (parse {} "1/(0*(0-1))").result = .ok expr :=
    congrArg Logged.result (parse_text wellFormed (by decide))
  obtain ⟨positive, ofTree⟩ := negativeZero_stays_inside_spans {} "1/(0*(0-1))"
  let division : Operation := ⟨.divide, 1.0, 0.0, false⟩
  have carriedOut : division ∈ expr.course.operations :=
    List.mem_of_getElem? (rfl : expr.course.operations[4]? = some division)
  obtain ⟨-, signs⟩ := (ofTree expr parsed).2.2 division carriedOut rfl
  refine ⟨positive, expr, parsed, division, carriedOut, rfl, .inl rfl, ?_⟩
  rcases signs (.inl rfl) with ⟨-, isInfinity⟩ | ⟨negative, -⟩ | ⟨isNeither, -⟩
  · exact isInfinity
  · exact absurd (show (1.0 : Float) < 0.0 from negative) (by decide)
  · exact absurd (show IsZero 1.0 ∨ Float.isNaN 1.0 = true from isNeither) (by decide)

end Calculator
