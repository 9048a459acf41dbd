import Calculator.Parse.OpenSpan

/-!
# Spans kept as two lists

A span under way may also be kept as nothing but the list of its elements and the list of its
operators. Then the two counts tell what is due, and a product is completed by taking its left
operand and its operator off the lists again. A call on such a builder changes the lists step by
step, so a call that fails half way could leave them changed, and there could be no left operand
to take. Neither happens to the lists of a span in which precedence has been settled:
`run_insert_builder` and `run_pushOperator_builder` say that the builder then does what the span
does.
-/

namespace Calculator

/-- A span under way, kept as two lists. -/
structure SpanBuilder where
  elements : List Expr := []
  operators : List Operator := []

namespace SpanBuilder

/-- A change of a builder. What has been changed before it fails stays changed. -/
abbrev Change := EStateM Misfit SpanBuilder

/-- An operand is due as long as there is no element behind the last operator. -/
def awaitsOperand (builder : SpanBuilder) : Bool :=
  builder.elements.length == builder.operators.length

/-- The last operator, if it is multiplicative. -/
def awaited? (builder : SpanBuilder) : Option Operator :=
  builder.operators.getLast?.filter Operator.isMultiplicative

/-- Put an element behind the others. -/
def pushElement (element : Expr) : Change Unit :=
  modify fun builder => { builder with elements := builder.elements ++ [element] }

/-- Take the last element away. -/
def popElement : Change Expr := do
  let builder ← get
  match builder.elements.getLast? with
  | some element =>
      set { builder with elements := builder.elements.dropLast }
      return element
  | none => throw .operator

/-- Take the last operator away. -/
def popOperator : Change Unit :=
  modify fun builder => { builder with operators := builder.operators.dropLast }

/-- Insert an operand. Behind a multiplicative operator it completes a product, which takes the
place of the last element. -/
def insert (operand : Expr) : Change Unit := do
  let builder ← get
  if !builder.awaitsOperand then throw .operand
  match builder.awaited? with
  | some op =>
      let lhs ← popElement
      popOperator
      pushElement (.binary op lhs operand)
  | none => pushElement operand

/-- Record an operator behind the last element. -/
def pushOperator (op : Operator) : Change Unit := do
  let builder ← get
  if builder.awaitsOperand then throw .operator
  set { builder with operators := builder.operators ++ [op] }

/-- End the span by adding zero. -/
def finish (builder : SpanBuilder) : Except Misfit Expr :=
  if builder.awaitsOperand then .error .operator
  else .ok (.composite (builder.elements ++ [.literal 0.0]) (builder.operators ++ [.add]))

/-! ### What the changes do -/

@[simp] theorem run_pushElement (element : Expr) (builder : SpanBuilder) :
    (pushElement element).run builder =
      .ok () { builder with elements := builder.elements ++ [element] } :=
  rfl

@[simp] theorem run_popElement (elements : List Expr) (element : Expr)
    (operators : List Operator) :
    popElement.run ⟨elements ++ [element], operators⟩ = .ok element ⟨elements, operators⟩ := by
  simp only [popElement, EStateM.run_bind, EStateM.run_get, List.getLast?_concat,
    List.dropLast_concat]
  rfl

@[simp] theorem run_popOperator (elements : List Expr) (operators : List Operator)
    (op : Operator) :
    popOperator.run ⟨elements, operators ++ [op]⟩ = .ok () ⟨elements, operators⟩ := by
  simp [popOperator]

section Changes

variable {builder : SpanBuilder}

/-- An operand is refused where none is due. -/
theorem run_insert_of_complete (complete : builder.awaitsOperand = false) (operand : Expr) :
    (insert operand).run builder = .error .operand builder := by
  simp [insert, complete]

/-- Unless it completes a product, an operand becomes an element. -/
theorem run_insert_of_due (due : builder.awaitsOperand = true)
    (notProduct : builder.awaited? = none) (operand : Expr) :
    (insert operand).run builder =
      .ok () { builder with elements := builder.elements ++ [operand] } := by
  simp [insert, due, notProduct]

/-- An operand that completes a product takes the left operand and the operator with it. -/
theorem run_insert_product {elements : List Expr} {operators : List Operator} {op : Operator}
    (counts : elements.length = operators.length) (multiplicative : op.isMultiplicative = true)
    (lhs operand : Expr) :
    (insert operand).run ⟨elements ++ [lhs], operators ++ [op]⟩ =
      .ok () ⟨elements ++ [.binary op lhs operand], operators⟩ := by
  have due : awaitsOperand ⟨elements ++ [lhs], operators ++ [op]⟩ = true := by
    simp [awaitsOperand, counts]
  have awaited : awaited? ⟨elements ++ [lhs], operators ++ [op]⟩ = some op := by
    simp [awaited?, Option.filter, multiplicative]
  simp [insert, due, awaited]

/-- An operator is refused where an operand is due. -/
theorem run_pushOperator_of_due (due : builder.awaitsOperand = true) (op : Operator) :
    (pushOperator op).run builder = .error .operator builder := by
  simp [pushOperator, due]

theorem run_pushOperator_of_complete (complete : builder.awaitsOperand = false) (op : Operator) :
    (pushOperator op).run builder =
      .ok () { builder with operators := builder.operators ++ [op] } := by
  simp [pushOperator, complete]

end Changes

end SpanBuilder

/-! ### The lists of an open span -/

namespace OpenSpan

open SpanBuilder

/-- The two lists of an open span. -/
def builder (span : OpenSpan) : SpanBuilder :=
  ⟨span.elements, span.operators⟩

/-- Precedence has been settled in what is finished: only additive operators stand behind the
finished terms, and only a multiplicative one awaits its right operand. -/
structure Settled (span : OpenSpan) : Prop where
  additive : ∀ term ∈ span.terms, term.2.isMultiplicative = false
  multiplicative : ∀ op ∈ span.awaited?, op.isMultiplicative = true

variable {span next : OpenSpan}

theorem settled_empty : Settled {} :=
  ⟨by simp, by simp [awaited?]⟩

/-- Operands keep precedence settled. -/
theorem Settled.addOperand (settled : span.Settled) {operand : Expr}
    (added : span.addOperand operand = .ok next) : next.Settled := by
  rw [OpenSpan.addOperand] at added
  split at added
  · cases added; exact ⟨settled.additive, by simp [awaited?]⟩
  · cases added; exact ⟨settled.additive, by simp [awaited?]⟩
  · cases added

/-- Operators keep precedence settled: a multiplicative one is awaited, an additive one finishes
the term before it. -/
theorem Settled.addOperator (settled : span.Settled) {op : Operator}
    (added : span.addOperator op = .ok next) : next.Settled := by
  rw [OpenSpan.addOperator] at added
  split at added
  · split at added
    · next multiplicative =>
        cases added
        exact ⟨settled.additive, by simpa [awaited?] using multiplicative⟩
    · next additive =>
        cases added
        exact ⟨by simpa using ⟨by simpa using additive, fun lhs op => settled.additive (lhs, op)⟩,
          by simp [awaited?]⟩
  · cases added

/-- The counts tell an operand is due exactly where the term under way is not complete. -/
theorem awaitsOperand_builder (span : OpenSpan) :
    span.builder.awaitsOperand = true ↔ ∀ term, span.last ≠ .complete term := by
  obtain ⟨terms, last⟩ := span
  cases last <;>
    simp [builder, awaitsOperand, elements, operators, OpenTerm.elements, OpenTerm.operators]

/-- The last operator is multiplicative exactly where a product is awaited. -/
theorem awaited?_builder (settled : span.Settled) : span.builder.awaited? = span.awaited? := by
  obtain ⟨terms, last⟩ := span
  have newest : ∀ op lhs, terms.head? = some (lhs, op) → op.isMultiplicative = false :=
    fun op lhs isNewest => settled.additive (lhs, op) (List.mem_of_head? isNewest)
  cases last with
  | vacant =>
      simpa [builder, awaited?, SpanBuilder.awaited?, operators, OpenTerm.operators] using newest
  | complete term =>
      simpa [builder, awaited?, SpanBuilder.awaited?, operators, OpenTerm.operators] using newest
  | product lhs op =>
      have multiplicative := settled.multiplicative op rfl
      simp [builder, awaited?, SpanBuilder.awaited?, operators, OpenTerm.operators, Option.filter,
        multiplicative]

/-- The builder of an open span takes in an operand exactly as the span does. -/
theorem run_insert_builder (settled : span.Settled) (operand : Expr) :
    (insert operand).run span.builder =
      match span.addOperand operand with
      | .ok next => .ok () next.builder
      | .error misfit => .error misfit span.builder := by
  have due := span.awaitsOperand_builder
  have awaited := awaited?_builder settled
  obtain ⟨terms, last⟩ := span
  cases last with
  | vacant =>
      rw [run_insert_of_due (due.mpr (by simp)) awaited]
      simp [addOperand, builder, elements, operators, OpenTerm.elements, OpenTerm.operators]
  | complete term =>
      rw [run_insert_of_complete (by simpa using due)]
      rfl
  | product lhs op =>
      have multiplicative := settled.multiplicative op rfl
      simp only [builder, elements, operators, OpenTerm.elements, OpenTerm.operators, addOperand]
      rw [run_insert_product (by simp) multiplicative, List.append_nil]

/-- The builder of an open span takes in an operator exactly as the span does. -/
theorem run_pushOperator_builder (span : OpenSpan) (op : Operator) :
    (pushOperator op).run span.builder =
      match span.addOperator op with
      | .ok next => .ok () next.builder
      | .error misfit => .error misfit span.builder := by
  have due := span.awaitsOperand_builder
  obtain ⟨terms, last⟩ := span
  cases last with
  | vacant => rw [run_pushOperator_of_due (due.mpr (by simp))]; rfl
  | product lhs op => rw [run_pushOperator_of_due (due.mpr (by simp))]; rfl
  | complete term =>
      rw [run_pushOperator_of_complete (by simpa using due)]
      cases multiplicative : op.isMultiplicative <;>
        simp [addOperator, multiplicative, builder, elements, operators, OpenTerm.elements,
          OpenTerm.operators]

/-- The builder of an open span ends as the span does. -/
theorem finish_builder (span : OpenSpan) : span.builder.finish = span.close := by
  have due := span.awaitsOperand_builder
  obtain ⟨terms, last⟩ := span
  cases last with
  | vacant => rw [finish, if_pos (due.mpr (by simp))]; rfl
  | product lhs op => rw [finish, if_pos (due.mpr (by simp))]; rfl
  | complete term =>
      rw [finish, if_neg (by simpa using due)]
      simp [close, builder, elements, operators, OpenTerm.elements, OpenTerm.operators]

end OpenSpan

end Calculator
