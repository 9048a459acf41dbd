import Calculator.Proofs.Evaluate.Policy
import Calculator.Proofs.Expr.Nodes

/-!
# Malformed trees

Any tree may be built by hand, also one with spans whose counts do not fit. The evaluator
notices such a span only where its fold gets stuck: by then some of its elements have been
evaluated, and the others never are. `traversal` lists the spans in the order in which their
evaluation ends, and the first malformed one of them is what the tree is refused for. Trees
without malformed spans are never refused, although a traversal of other trees misses some.
-/

namespace Calculator

open Logged

namespace Counts

/-- Whether a span has anything but one element more than operators. -/
def isMalformed (counts : Counts) : Bool :=
  counts.elements != counts.operators + 1

end Counts

/-- No event is a warning. -/
def NoWarning (log : List Event) : Prop :=
  ∀ event ∈ log, event.level ≠ .warn

namespace NoWarning

theorem nil : NoWarning [] := by
  simp [NoWarning]

theorem append_iff {first second : List Event} :
    NoWarning (first ++ second) ↔ NoWarning first ∧ NoWarning second :=
  List.forall_mem_append

theorem cons_iff {event : Event} {log : List Event} :
    NoWarning (event :: log) ↔ event.level ≠ .warn ∧ NoWarning log :=
  List.forall_mem_cons

end NoWarning

/-- Operations are reported, but not as warnings. -/
theorem Operation.noWarning_events (operations : List Operation) :
    NoWarning (operations.flatMap Operation.events) := by
  intro event member
  obtain ⟨operation, -, isEvent⟩ := List.mem_flatMap.mp member
  rw [Operation.events] at isEvent
  split at isEvent
  · obtain rfl := List.mem_singleton.mp isEvent
    simp [Event.level]
  · cases isEvent

namespace Expr

/-! ### The order of evaluation -/

section Visited

variable {α β : Type}

/-- The elements of a span that are visited: those that its operators reach, if there is an
operator with two operands, and a single element without operators. -/
def visited (elements : List α) (operators : List Operator) : List α :=
  if 2 ≤ elements.length ∧ 1 ≤ operators.length then elements.take (operators.length + 1)
  else if elements.length = 1 ∧ operators.length = 0 then elements
  else []

theorem visited_map (f : α → β) (elements : List α) (operators : List Operator) :
    visited (elements.map f) operators = (visited elements operators).map f := by
  simp only [visited, List.length_map]
  split
  · rw [List.map_take]
  · split <;> rfl

/-- Behind an operator with two operands, each further operator reaches one more. -/
theorem visited_cons_cons (first second : α) (rest : List α) (op : Operator)
    (operators : List Operator) :
    visited (first :: second :: rest) (op :: operators) =
      first :: second :: rest.take operators.length := by
  rw [visited, if_pos (by simp)]
  rfl

/-- Where the counts fit, all elements are visited. -/
theorem visited_of_fit {elements : List α} {operators : List Operator}
    (fit : elements.length = operators.length + 1) : visited elements operators = elements := by
  rw [visited, fit]
  split
  · rw [← fit, List.take_length]
  · rw [if_pos (by omega)]

end Visited

mutual

/-- The counts of the spans that are visited in a tree, in order. The left operand of an
operation comes before the right one, and a span behind the elements that are visited in
it. -/
def traversal : Expr → List Counts
  | literal _ => []
  | binary _ lhs rhs => lhs.traversal ++ rhs.traversal
  | composite elements operators =>
      (visited (traversals elements) operators).flatten ++ [⟨elements.length, operators.length⟩]

/-- The traversals of some trees, one by one. -/
def traversals : List Expr → List (List Counts)
  | [] => []
  | element :: elements => element.traversal :: traversals elements

end

theorem traversals_eq_map (elements : List Expr) :
    traversals elements = elements.map traversal := by
  induction elements with
  | nil => rfl
  | cons element elements inductionHypothesis =>
      rw [traversals, inductionHypothesis, List.map_cons]

theorem traversal_composite (elements : List Expr) (operators : List Operator) :
    (composite elements operators).traversal =
      (visited elements operators).flatMap traversal ++ [⟨elements.length, operators.length⟩] := by
  rw [traversal, traversals_eq_map, visited_map, List.flatMap_def]

/-- The first malformed span in the order of the traversal. -/
def firstMalformed? (expr : Expr) : Option Counts :=
  expr.traversal.find? Counts.isMalformed

/-- In a span the elements that are visited come first, and then the span itself. -/
theorem firstMalformed?_composite (elements : List Expr) (operators : List Operator) :
    (composite elements operators).firstMalformed? =
      ((visited (elements.map firstMalformed?) operators).findSome? id).or
        (if elements.length = operators.length + 1 then none
          else some ⟨elements.length, operators.length⟩) := by
  rw [firstMalformed?, traversal_composite, List.find?_append, List.find?_flatMap, visited_map,
    List.findSome?_map]
  congr 1
  by_cases fit : elements.length = operators.length + 1 <;> simp [Counts.isMalformed, fit]

end Expr

/-! ### Where a course is refused -/

namespace Course

/-- The span that a course is refused for. -/
def fault? (course : Course) : Option Counts :=
  match course.outcome with
  | .ok _ => none
  | .error counts => some counts

theorem fault?_eq_none_iff {course : Course} :
    course.fault? = none ↔ ∃ value, course.outcome = .ok value := by
  rw [fault?]
  cases course.outcome <;> simp

theorem fault?_eq_some_iff {course : Course} {counts : Counts} :
    course.fault? = some counts ↔ course.outcome = .error counts := by
  rw [fault?]
  cases course.outcome <;> simp

theorem fault?_refused (elements operators : Nat) :
    (refused elements operators).fault? = some ⟨elements, operators⟩ := rfl

/-- What follows a value may be refused, too, if the value itself makes no difference to it. -/
theorem fault?_bind {next : Float → Course} {fault : Option Counts}
    (ofNext : ∀ value, (next value).fault? = fault) (course : Course) :
    (course.bind next).fault? = course.fault?.or fault := by
  obtain ⟨operations, counts | value⟩ := course
  · rfl
  · exact ofNext value

/-- An operation is not refused, but its operands may be, the left one first. -/
theorem fault?_join (op : Operator) (isReported : Bool) (left right : Course) :
    (join op isReported left right).fault? = left.fault?.or right.fault? := by
  have ofSingle : ∀ lhs : Float,
      (right.bind fun rhs => single ⟨op, lhs, rhs, isReported⟩).fault? = right.fault? := by
    intro lhs
    have none : ∀ rhs, (single ⟨op, lhs, rhs, isReported⟩).fault? = none := fun _ => rfl
    rw [fault?_bind none, Option.or_none]
  exact fault?_bind ofSingle left

/-- The first two courses of a row are joined by its first operator. -/
theorem combine_cons_cons (refusal left right : Course) (others : List Course) (op : Operator)
    (operators : List Operator) :
    combine refusal (left :: right :: others) (op :: operators) =
      (join op true left right).bind fun value =>
        combine refusal (done value :: others) operators := by
  rw [combine, join, bind_assoc]
  simp only [bind_assoc]

/-- Behind a value, a row is refused for the first fault among as many courses as there are
operators, or where it runs out of one of the two. -/
theorem fault?_combine_done (refusal : Course) (others : List Course)
    (operators : List Operator) (value : Float) :
    (combine refusal (done value :: others) operators).fault? =
      (((others.map fault?).take operators.length).findSome? id).or
        (if others.length = operators.length then none else refusal.fault?) := by
  induction operators generalizing others value with
  | nil =>
      cases others with
      | nil => rfl
      | cons next others => simp [combine]
  | cons op operators inductionHypothesis =>
      cases others with
      | nil => simp [combine]
      | cons next others =>
          rw [combine_cons_cons, fault?_bind (inductionHypothesis others), fault?_join]
          simp only [List.map_cons, List.length_cons, List.take_succ_cons, List.findSome?_cons,
            Nat.add_right_cancel_iff]
          cases next.fault? <;> rfl

/-- A row of courses is refused for the first fault of those that are visited, and otherwise
if the counts do not fit. -/
theorem fault?_combine (refusal : Course) (row : List Course) (operators : List Operator) :
    (combine refusal row operators).fault? =
      ((Expr.visited (row.map fault?) operators).findSome? id).or
        (if row.length = operators.length + 1 then none else refusal.fault?) := by
  match row, operators with
  | [], _ => simp [combine, Expr.visited]
  | [only], [] => simp [combine, Expr.visited]
  | [only], op :: operators => simp [combine, Expr.visited]
  | first :: second :: rest, [] => simp [combine, Expr.visited]
  | first :: second :: rest, op :: operators =>
      rw [combine_cons_cons, fault?_bind (fault?_combine_done refusal rest operators), fault?_join,
        List.map_cons, List.map_cons, Expr.visited_cons_cons]
      simp only [List.length_cons, List.findSome?_cons, Nat.add_right_cancel_iff]
      cases first.fault? <;> cases second.fault? <;> rfl

end Course

namespace Expr

mutual

/-- The course of a tree is refused for the first malformed span. -/
theorem fault?_course : (expr : Expr) → expr.course.fault? = expr.firstMalformed?
  | literal value => rfl
  | binary op lhs rhs => by
      have joined : (binary op lhs rhs).course = .join op false lhs.course rhs.course := by
        rw [course, Course.join]
      rw [joined, Course.fault?_join, fault?_course lhs, fault?_course rhs, firstMalformed?,
        firstMalformed?, firstMalformed?, traversal, List.find?_append]
  | composite elements operators => by
      rw [course, Course.fault?_combine, map_fault?_courses elements, courses_eq_map,
        List.length_map, Course.fault?_refused, firstMalformed?_composite]

theorem map_fault?_courses : (elements : List Expr) →
    (courses elements).map Course.fault? = elements.map firstMalformed?
  | [] => rfl
  | element :: elements => by
      rw [courses, List.map_cons, List.map_cons, fault?_course element,
        map_fault?_courses elements]

end

/-- An operator reaches two elements of the span, and the empty one of them is refused before the
span itself. -/
example : (composite [.literal 1.0, .composite [] [], .composite [] [.add]] [.add]).firstMalformed? =
    some ⟨0, 0⟩ := rfl

/-! ### Trees whose spans all fit -/

/-- A span has one element more than operators. -/
def Fits : Expr → Prop
  | composite elements operators => elements.length = operators.length + 1
  | literal _ | binary _ _ _ => True

mutual

/-- There is a malformed span in the traversal exactly if there is one at all. -/
theorem firstMalformed?_eq_none_iff : (expr : Expr) →
    (expr.firstMalformed? = none ↔ ∀ node ∈ expr.nodes, node.Fits)
  | literal value => by simp [firstMalformed?, traversal, nodes, Fits]
  | binary op lhs rhs => by
      rw [forall_nodes_binary, ← firstMalformed?_eq_none_iff lhs,
        ← firstMalformed?_eq_none_iff rhs, firstMalformed?, traversal, List.find?_append,
        Option.or_eq_none_iff]
      simp [Fits, firstMalformed?]
  | composite elements operators => by
      rw [firstMalformed?_composite, forall_nodes_composite, Fits, Option.or_eq_none_iff]
      by_cases fit : elements.length = operators.length + 1
      · -- Where the span itself fits, none of its elements is missed.
        have all : (elements.map firstMalformed?).length = operators.length + 1 := by
          rw [List.length_map, fit]
        rw [visited_of_fit all, if_pos fit, ← firstMalformed?_eq_none_iff_all elements,
          List.findSome?_eq_none_iff, List.forall_mem_map]
        simp [fit]
      · simp [fit]

theorem firstMalformed?_eq_none_iff_all : (elements : List Expr) →
    ((∀ element ∈ elements, element.firstMalformed? = none) ↔
      ∀ element ∈ elements, ∀ node ∈ element.nodes, node.Fits)
  | [] => by simp
  | element :: elements => by
      rw [List.forall_mem_cons, List.forall_mem_cons, firstMalformed?_eq_none_iff element,
        firstMalformed?_eq_none_iff_all elements]

end

/-- The course of a tree has a value exactly if all spans fit. -/
theorem exists_outcome_iff (expr : Expr) :
    (∃ value, expr.course.outcome = .ok value) ↔ ∀ node ∈ expr.nodes, node.Fits := by
  rw [← Course.fault?_eq_none_iff, fault?_course, firstMalformed?_eq_none_iff]

/-- Where divisions by zero are carried out, a tree has a value exactly if each of its spans has
one element more than operators. Otherwise it is refused for the first malformed span of the
traversal, with the counts of that span, and this is reported by a warning, the only one, behind
all other events. A tree with a value is evaluated without a warning. -/
theorem evaluate_refuses_firstMalformed (expr : Expr) :
    ((∃ value, (expr.evaluate .ieee).result = .ok value) ↔ ∀ node ∈ expr.nodes, node.Fits) ∧
    ((¬ ∀ node ∈ expr.nodes, node.Fits) →
      ∃ counts before, expr.traversal.find? Counts.isMalformed = some counts ∧
        (expr.evaluate .ieee).result =
          .error (.malformedComposite counts.elements counts.operators) ∧
        (expr.evaluate .ieee).events.toList =
          before ++ [.malformed counts.elements counts.operators] ∧
        NoWarning before ∧
        (Event.malformed counts.elements counts.operators).level = .warn) ∧
    ((∃ value, (expr.evaluate .ieee).result = .ok value) →
      NoWarning (expr.evaluate .ieee).events.toList) := by
  have reported := Operation.noWarning_events expr.course.operations
  have refused : expr.course.fault? = expr.traversal.find? Counts.isMalformed :=
    expr.fault?_course
  rw [← exists_outcome_iff, evaluate_eq_perform, Course.perform_ieee, result_ending, events_ending]
  cases ends : expr.course.outcome with
  | ok value =>
      have hasValue : expr.course.result = .ok value := Course.result_eq_ok ends
      refine ⟨iff_of_true ⟨value, hasValue⟩ ⟨value, rfl⟩, fun none => absurd ⟨value, rfl⟩ none,
        fun _ => ?_⟩
      simpa [Course.events, Course.warnings, ends] using reported
  | error counts =>
      have isRefused : expr.course.result =
          .error (.malformedComposite counts.elements counts.operators) := by
        rw [Course.result, ends]
        rfl
      rw [isRefused, ← refused, Course.fault?_eq_some_iff.mpr ends]
      refine ⟨iff_of_false (by simp) (by simp),
        fun _ => ⟨counts, _, rfl, rfl, ?_, reported, rfl⟩, by simp⟩
      simp [Course.events, Course.warnings, ends]

/-- A sum is carried out before its last element is refused. The empty span in that element is
malformed, too, but without operators nothing in the element is visited. -/
theorem evaluate_refuses_firstMalformed_behind_sum :
    let span : Expr := .composite
      [.literal 1.0, .literal 2.0, .composite [.literal 3.0, .composite [] []] []] [.add, .add]
    (span.evaluate .ieee).result = .error (.malformedComposite 2 0) ∧
      ∃ before, (span.evaluate .ieee).events.toList = before ++ [.malformed 2 0] ∧
        NoWarning before ∧ (Event.malformed 2 0).level = .warn := by
  intro span
  have someMalformed : ¬ ∀ node ∈ span.nodes, node.Fits := by
    rw [← firstMalformed?_eq_none_iff]
    exact nofun
  obtain ⟨-, refuses, -⟩ := span.evaluate_refuses_firstMalformed
  obtain ⟨counts, before, first, isRefused, events, quiet, isWarning⟩ := refuses someMalformed
  obtain rfl : ⟨2, 0⟩ = counts := Option.some.inj first
  exact ⟨isRefused, before, events, quiet, isWarning⟩

end Expr

end Calculator
