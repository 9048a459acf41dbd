import Calculator.Proofs.Span.Builder
import Mathlib.Data.List.Basic
import Mathlib.Data.List.Induction

/-!
# Calls in any order

A builder may be called in any order, and a call that fails is simply followed by the next one.
`Sound` is what holds at all times: the elements with the operators between them read as the calls
that have succeeded, where a product reads as its left operand, its operator and its right one. It
is kept by every call, so it holds after any calls; and it says which call succeeds next.
-/

namespace Calculator

namespace SpanBuilder

/-- A call on a builder. -/
inductive Call where
  | operand (expr : Expr)
  | operator (op : Operator)

namespace Call

/-- Whether a call inserts an operand. -/
def isOperand : Call → Bool
  | operand _ => true
  | operator _ => false

/-- What a call does to a builder. -/
def change : Call → Change Unit
  | operand expr => insert expr
  | operator op => pushOperator op

/-- What a call does to an open span. -/
def extend (span : OpenSpan) : Call → Except Misfit OpenSpan
  | operand expr => span.addOperand expr
  | operator op => span.addOperator op

end Call

/-- What has come of some calls. -/
structure History where
  /-- The calls that succeeded, in order. -/
  taken : List Call := []
  /-- The builder that the calls left behind. -/
  builder : SpanBuilder := {}

namespace History

/-- Make one more call. Whether it succeeds or fails, the builder is what it leaves behind. -/
def record (history : History) (call : Call) : History :=
  match call.change.run history.builder with
  | .ok () builder => ⟨history.taken ++ [call], builder⟩
  | .error _ builder => ⟨history.taken, builder⟩

/-- Make some calls on a new builder, one after another. -/
def ofCalls (calls : List Call) : History :=
  calls.foldl record {}

theorem ofCalls_append (calls : List Call) (call : Call) :
    ofCalls (calls ++ [call]) = (ofCalls calls).record call := by
  simp [ofCalls]

end History

end SpanBuilder

namespace OpenSpan

open SpanBuilder

/-- Make one more call on an open span, or leave it as it is if the call fails. -/
def record (span : OpenSpan) (call : Call) : OpenSpan :=
  match call.extend span with
  | .ok next => next
  | .error _ => span

/-- Make some calls on an empty span, one after another. -/
def ofCalls (calls : List Call) : OpenSpan :=
  calls.foldl record {}

theorem ofCalls_append (calls : List Call) (call : Call) :
    ofCalls (calls ++ [call]) = (ofCalls calls).record call := by
  simp [ofCalls]

/-- Calls keep precedence settled. -/
theorem Settled.record {span : OpenSpan} (settled : span.Settled) (call : Call) :
    (span.record call).Settled := by
  rw [OpenSpan.record]
  cases extended : call.extend span with
  | error misfit => exact settled
  | ok next =>
      cases call with
      | operand expr => exact settled.addOperand extended
      | operator op => exact settled.addOperator extended

/-- A call does to the builder of an open span what it does to the span. -/
theorem run_change_builder {span : OpenSpan} (settled : span.Settled) (call : Call) :
    call.change.run span.builder =
      match call.extend span with
      | .ok next => .ok () next.builder
      | .error misfit => .error misfit span.builder := by
  cases call with
  | operand expr => exact run_insert_builder settled expr
  | operator op => exact run_pushOperator_builder span op

end OpenSpan

namespace SpanBuilder

/-! ### Reading the lists -/

/-- Calls alternate between operands and operators and start with an operand. -/
def Alternates (calls : List Call) : Prop :=
  ∀ index call, calls[index]? = some call → (call.isOperand = true ↔ index % 2 = 0)

/-- An element reads as an operand, or as a product that was folded from what its left operand
reads as, an operator and a right operand. -/
inductive FoldedFrom : Expr → List Call → Prop where
  | operand (expr : Expr) : FoldedFrom expr [.operand expr]
  | product {lhs : Expr} {calls : List Call} {op : Operator}
      (multiplicative : op.isMultiplicative = true) (ofLhs : FoldedFrom lhs calls) (rhs : Expr) :
      FoldedFrom (.binary op lhs rhs) (calls ++ [.operator op, .operand rhs])

/-- Elements and operators read in turns, starting with an element. -/
inductive ReadsAs : List Expr → List Operator → List Call → Prop where
  | empty : ReadsAs [] [] []
  | last {element : Expr} {calls : List Call} (folded : FoldedFrom element calls) :
      ReadsAs [element] [] calls
  | next {element : Expr} {elements : List Expr} {op : Operator} {operators : List Operator}
      {calls others : List Call} (folded : FoldedFrom element calls)
      (reads : ReadsAs elements operators others) :
      ReadsAs (element :: elements) (op :: operators) (calls ++ .operator op :: others)

namespace ReadsAs

variable {elements : List Expr} {operators : List Operator} {calls : List Call}

/-- In front of an operator stands an element. -/
theorem exists_of_cons {element : Expr} {op : Operator}
    (reads : ReadsAs (element :: elements) (op :: operators) calls) :
    ∃ front others, FoldedFrom element front ∧ ReadsAs elements operators others ∧
      calls = front ++ .operator op :: others := by
  cases reads with
  | next folded reads => exact ⟨_, _, folded, reads, rfl⟩

/-- There are as many elements as operators, or one more. -/
theorem counts (reads : ReadsAs elements operators calls) :
    elements.length = operators.length ∨ elements.length = operators.length + 1 := by
  induction reads with
  | empty => exact .inl rfl
  | last => exact .inr rfl
  | next folded reads inductionHypothesis => simpa using inductionHypothesis

/-- An operand may be read behind an operator. -/
theorem append_operand (reads : ReadsAs elements operators calls)
    (due : elements.length = operators.length) (operand : Expr) :
    ReadsAs (elements ++ [operand]) operators (calls ++ [.operand operand]) := by
  induction reads with
  | empty => exact .last (.operand operand)
  | last => cases due
  | next folded reads inductionHypothesis =>
      rw [List.cons_append, List.append_assoc]
      exact .next folded (inductionHypothesis (by simpa using due))

/-- An operator may be read behind an element. -/
theorem append_operator (reads : ReadsAs elements operators calls)
    (complete : elements.length = operators.length + 1) (op : Operator) :
    ReadsAs elements (operators ++ [op]) (calls ++ [.operator op]) := by
  induction reads with
  | empty => cases complete
  | last folded => exact .next folded .empty
  | next folded reads inductionHypothesis =>
      rw [List.cons_append, List.append_assoc]
      exact .next folded (inductionHypothesis (by simpa using complete))

/-- An operand may be read as the end of a product, in place of a multiplicative operator behind
the last element. -/
theorem append_product {lhs : Expr} {op : Operator}
    (reads : ReadsAs (elements ++ [lhs]) (operators ++ [op]) calls)
    (counts : elements.length = operators.length) (multiplicative : op.isMultiplicative = true)
    (operand : Expr) :
    ReadsAs (elements ++ [.binary op lhs operand]) operators (calls ++ [.operand operand]) := by
  induction elements generalizing operators calls with
  | nil =>
      obtain rfl := List.eq_nil_of_length_eq_zero counts.symm
      obtain ⟨front, others, folded, behind, rfl⟩ := reads.exists_of_cons
      cases behind
      rw [List.append_assoc]
      exact .last (.product multiplicative folded operand)
  | cons element elements inductionHypothesis =>
      obtain ⟨first, operators, rfl⟩ := List.exists_cons_of_length_eq_add_one counts.symm
      obtain ⟨front, others, folded, behind, rfl⟩ := reads.exists_of_cons
      rw [List.cons_append, List.append_assoc]
      exact .next folded (inductionHypothesis behind (Nat.succ.inj counts))

end ReadsAs

theorem alternates_append {calls : List Call} {call : Call} :
    Alternates (calls ++ [call]) ↔
      Alternates calls ∧ (call.isOperand = true ↔ calls.length % 2 = 0) := by
  constructor
  · intro alternates
    refine ⟨fun index other isAt => alternates index other ?_, alternates _ call (by simp)⟩
    have within := (List.getElem?_eq_some_iff.mp isAt).1
    rwa [List.getElem?_append_left within]
  · rintro ⟨alternates, last⟩ index other isAt
    rcases Nat.lt_or_ge index calls.length with within | beyond
    · exact alternates index other (by rwa [List.getElem?_append_left within] at isAt)
    · have isLast : index = calls.length ∧ call = other := by
        rw [List.getElem?_append_right beyond, List.getElem?_singleton] at isAt
        split at isAt
        · exact ⟨by omega, Option.some.inj isAt⟩
        · cases isAt
      obtain ⟨rfl, rfl⟩ := isLast
      exact last

/-! ### What holds at all times -/

/-- What holds of a builder when the calls `taken` have succeeded on it. -/
structure Sound (taken : List Call) (builder : SpanBuilder) : Prop where
  reads : ReadsAs builder.elements builder.operators taken
  /-- Every operator but the last one is additive. -/
  additive : ∀ op ∈ builder.operators.dropLast, op.isMultiplicative = false
  /-- The last one is, too, once its right operand has come in. -/
  settled : builder.awaitsOperand = false → ∀ op ∈ builder.operators, op.isMultiplicative = false
  alternates : Alternates taken
  due : builder.awaitsOperand = true ↔ taken.length % 2 = 0

section Calls

variable {taken : List Call} {builder : SpanBuilder}

theorem sound_empty : Sound [] {} where
  reads := .empty
  additive := by simp
  settled := by simp
  alternates := by simp [Alternates]
  due := by simp [awaitsOperand]

theorem Sound.counts_of_due (sound : Sound taken builder) (due : builder.awaitsOperand = true) :
    builder.elements.length = builder.operators.length ∧ taken.length % 2 = 0 :=
  ⟨by simpa [awaitsOperand] using due, sound.due.mp due⟩

/-- Unless it completes a product, an operand that is due becomes an element. -/
theorem Sound.insert_element (sound : Sound taken builder) (due : builder.awaitsOperand = true)
    (notProduct : builder.awaited? = none) (operand : Expr) :
    Sound (taken ++ [.operand operand])
      { builder with elements := builder.elements ++ [operand] } := by
  obtain ⟨counts, isEven⟩ := sound.counts_of_due due
  have additive : ∀ op ∈ builder.operators, op.isMultiplicative = false := by
    rcases List.eq_nil_or_concat' builder.operators with none | ⟨before, last, isLast⟩
    · simp [none]
    · have ofBefore := sound.additive
      rw [awaited?, isLast] at notProduct
      rw [isLast] at ofBefore ⊢
      simpa [or_imp, forall_and] using ⟨by simpa using ofBefore, by simpa using notProduct⟩
  exact
    { reads := sound.reads.append_operand counts operand
      additive := sound.additive
      settled := fun _ => additive
      alternates := alternates_append.mpr ⟨sound.alternates, iff_of_true rfl isEven⟩
      due := by simp [awaitsOperand, counts]; omega }

/-- An operand that completes a product takes the place of the last element. -/
theorem Sound.insert_product {elements : List Expr} {operators : List Operator} {lhs : Expr}
    {op : Operator} (sound : Sound taken ⟨elements ++ [lhs], operators ++ [op]⟩)
    (counts : elements.length = operators.length) (multiplicative : op.isMultiplicative = true)
    (operand : Expr) :
    Sound (taken ++ [.operand operand]) ⟨elements ++ [.binary op lhs operand], operators⟩ := by
  have isEven := sound.due.mp (by simp [awaitsOperand, counts])
  have additive : ∀ op ∈ operators, op.isMultiplicative = false := by simpa using sound.additive
  exact
    { reads := sound.reads.append_product counts multiplicative operand
      additive := fun op member => additive op (List.dropLast_subset _ member)
      settled := fun _ => additive
      alternates := alternates_append.mpr ⟨sound.alternates, iff_of_true rfl isEven⟩
      due := by simp [awaitsOperand, counts]; omega }

/-- Behind a multiplicative operator that awaits its right operand stands a left one. -/
theorem exists_of_awaited? (due : builder.awaitsOperand = true) {op : Operator}
    (awaited : builder.awaited? = some op) :
    ∃ elements lhs operators, builder = ⟨elements ++ [lhs], operators ++ [op]⟩ ∧
      elements.length = operators.length ∧ op.isMultiplicative = true := by
  obtain ⟨elements, operators⟩ := builder
  obtain ⟨isLast, multiplicative⟩ := Option.filter_eq_some_iff.mp awaited
  obtain ⟨before, rfl⟩ := List.getLast?_eq_some_iff.mp isLast
  rcases List.eq_nil_or_concat' elements with rfl | ⟨front, lhs, rfl⟩
  · simp [awaitsOperand] at due
  · exact ⟨front, lhs, before, rfl, by simpa [awaitsOperand] using due, multiplicative⟩

/-- An operand that is due is inserted. -/
theorem Sound.insert (sound : Sound taken builder) (due : builder.awaitsOperand = true)
    (operand : Expr) :
    ∃ next, (insert operand).run builder = .ok () next ∧
      Sound (taken ++ [.operand operand]) next := by
  cases awaited : builder.awaited? with
  | none =>
      exact ⟨_, run_insert_of_due due awaited operand, sound.insert_element due awaited operand⟩
  | some op =>
      obtain ⟨elements, lhs, operators, rfl, counts, multiplicative⟩ :=
        exists_of_awaited? due awaited
      exact ⟨_, run_insert_product counts multiplicative lhs operand,
        sound.insert_product counts multiplicative operand⟩

/-- An operator is recorded behind a complete element. -/
theorem Sound.pushOperator (sound : Sound taken builder) (complete : builder.awaitsOperand = false)
    (op : Operator) :
    ∃ next, (pushOperator op).run builder = .ok () next ∧ Sound (taken ++ [.operator op]) next := by
  have counts : builder.elements.length = builder.operators.length + 1 :=
    sound.reads.counts.resolve_left (by simpa [awaitsOperand] using complete)
  have isOdd : ¬ taken.length % 2 = 0 := by simp [← sound.due, complete]
  refine ⟨_, run_pushOperator_of_complete complete op, ?_⟩
  exact
    { reads := sound.reads.append_operator counts op
      additive := by simpa using sound.settled complete
      settled := by simp [awaitsOperand, counts]
      alternates := alternates_append.mpr ⟨sound.alternates, iff_of_false Bool.false_ne_true isOdd⟩
      due := by simp [awaitsOperand, counts]; omega }

/-- A call succeeds exactly if it goes on with the alternation, and then keeps what holds at all
times. A call that fails leaves the builder as it was; that is an operand where none is due, or an
operator where an operand is. -/
theorem Sound.change (sound : Sound taken builder) (call : Call) :
    (Alternates (taken ++ [call]) ∧
      ∃ next, call.change.run builder = .ok () next ∧ Sound (taken ++ [call]) next) ∨
    (¬ Alternates (taken ++ [call]) ∧ call.change.run builder =
      .error (if call.isOperand then .operand else .operator) builder) := by
  cases due : builder.awaitsOperand with
  | true =>
      have isEven := sound.due.mp due
      cases call with
      | operand operand =>
          obtain ⟨next, runs, ofNext⟩ := sound.insert due operand
          exact .inl ⟨ofNext.alternates, next, runs, ofNext⟩
      | operator op =>
          refine .inr ⟨fun alternates => ?_, run_pushOperator_of_due due op⟩
          exact absurd ((alternates_append.mp alternates).2.mpr isEven) Bool.false_ne_true
  | false =>
      have isOdd : ¬ taken.length % 2 = 0 := by simp [← sound.due, due]
      cases call with
      | operand operand =>
          refine .inr ⟨fun alternates => ?_, run_insert_of_complete due operand⟩
          exact isOdd ((alternates_append.mp alternates).2.mp rfl)
      | operator op =>
          obtain ⟨next, runs, ofNext⟩ := sound.pushOperator due op
          exact .inl ⟨ofNext.alternates, next, runs, ofNext⟩

/-- The span may end exactly if the last call that succeeded was an operand. -/
theorem Sound.finish_iff (sound : Sound taken builder) :
    (∃ expr, builder.finish = .ok expr) ↔ ∃ operand, taken.getLast? = some (.operand operand) := by
  have ends : (∃ expr, builder.finish = .ok expr) ↔ ¬ taken.length % 2 = 0 := by
    rw [← sound.due]
    cases due : builder.awaitsOperand <;> simp [finish, due]
  rw [ends]
  rcases List.eq_nil_or_concat' taken with rfl | ⟨before, last, rfl⟩
  · simp
  · have isLast := (alternates_append.mp sound.alternates).2
    have odd : ¬ (before ++ [last]).length % 2 = 0 ↔ last.isOperand = true := by
      rw [isLast, List.length_append, List.length_singleton]
      omega
    rw [odd, List.getLast?_concat]
    cases last <;> simp [Call.isOperand]

end Calls

/-! ### All calls -/

/-- What holds at all times holds after any calls. -/
theorem sound_ofCalls (calls : List Call) :
    Sound (History.ofCalls calls).taken (History.ofCalls calls).builder := by
  induction calls using List.reverseRecOn with
  | nil => exact sound_empty
  | append_singleton calls call inductionHypothesis =>
      rw [History.ofCalls_append, History.record]
      rcases inductionHypothesis.change call with ⟨-, next, runs, ofNext⟩ | ⟨-, runs⟩
      · rw [runs]
        exact ofNext
      · rw [runs]
        exact inductionHypothesis

/-- Calls on a builder and on an open span go side by side. -/
theorem builder_ofCalls (calls : List Call) :
    (OpenSpan.ofCalls calls).Settled ∧
      (OpenSpan.ofCalls calls).builder = (History.ofCalls calls).builder := by
  induction calls using List.reverseRecOn with
  | nil => exact ⟨OpenSpan.settled_empty, rfl⟩
  | append_singleton calls call inductionHypothesis =>
      obtain ⟨settled, same⟩ := inductionHypothesis
      rw [OpenSpan.ofCalls_append]
      refine ⟨settled.record call, ?_⟩
      rw [History.ofCalls_append, History.record, ← same, OpenSpan.run_change_builder settled,
        OpenSpan.record]
      cases call.extend (OpenSpan.ofCalls calls) <;> rfl

/-- What a builder has become and what the next call does to it, by the calls that succeeded. -/
structure History.Regular (history : History) : Prop where
  alternates : Alternates history.taken
  /-- A call succeeds exactly if it goes on with the alternation. -/
  succeeds : ∀ call : Call, (∃ next, call.change.run history.builder = .ok () next) ↔
    Alternates (history.taken ++ [call])
  /-- A call that fails leaves the elements and the operators as they were. An operand is refused
  as an operand, and an operator as an operator. -/
  fails : ∀ (call : Call) {misfit : Misfit} {left : SpanBuilder},
    call.change.run history.builder = .error misfit left →
      left = history.builder ∧ misfit = if call.isOperand then .operand else .operator
  counts : history.builder.elements.length = history.builder.operators.length ∨
    history.builder.elements.length = history.builder.operators.length + 1
  /-- Every operator but the last one is additive. -/
  additive : ∀ op ∈ history.builder.operators.dropLast, op.isMultiplicative = false
  /-- Elements and operators give back the operands and operators in order. -/
  reads : ReadsAs history.builder.elements history.builder.operators history.taken
  finishes : (∃ expr, history.builder.finish = .ok expr) ↔
    ∃ operand, history.taken.getLast? = some (.operand operand)

theorem Sound.regular {history : History} (sound : Sound history.taken history.builder) :
    history.Regular where
  alternates := sound.alternates
  succeeds call := by
    rcases sound.change call with ⟨alternates, next, runs, -⟩ | ⟨breaks, runs⟩
    · exact iff_of_true ⟨next, runs⟩ alternates
    · exact iff_of_false (by simp [runs]) breaks
  fails call misfit left fails := by
    rcases sound.change call with ⟨-, next, runs, -⟩ | ⟨-, runs⟩
    · cases runs.symm.trans fails
    · obtain ⟨rfl, rfl⟩ := EStateM.Result.error.inj (runs.symm.trans fails)
      exact ⟨rfl, rfl⟩
  counts := sound.reads.counts
  additive := sound.additive
  reads := sound.reads
  finishes := sound.finish_iff

/-- After any calls a builder is made of what succeeded, which is an operand and an operator in
turns. An open span on which the same calls were made has the same lists, takes in the same calls
and ends in the same way. -/
theorem regular_ofCalls (calls : List Call) :
    (History.ofCalls calls).Regular ∧
      (OpenSpan.ofCalls calls).builder = (History.ofCalls calls).builder ∧
      (∀ call : Call, call.change.run (History.ofCalls calls).builder =
        match call.extend (OpenSpan.ofCalls calls) with
        | .ok next => .ok () next.builder
        | .error misfit => .error misfit (OpenSpan.ofCalls calls).builder) ∧
      (OpenSpan.ofCalls calls).close = (History.ofCalls calls).builder.finish := by
  obtain ⟨settled, same⟩ := builder_ofCalls calls
  refine ⟨(sound_ofCalls calls).regular, same, fun call => ?_, ?_⟩
  · rw [← same, OpenSpan.run_change_builder settled]
  · rw [← same, OpenSpan.finish_builder]

end SpanBuilder

end Calculator
