import Calculator.Parse
import Calculator.Proofs.Grammar.Tree
import Calculator.Proofs.Logged

/-!
# Progress through a span

A reading is determined by the tokens it has passed. `Checked` is the part of them that
has been taken in: it ends before a factor or behind a group. Digits behind it are only
collected, and become a number when an operator or the end of the span settles them.
The lemmas say what each operation on a reading makes of such progress; nothing else
refers to the fields of a reading.
-/

namespace Calculator

open Logged Token

/-! ### Readings of written expressions -/

namespace Lead

/-- The number being read when a lead has been passed. -/
def pending : Lead → Pending
  | start => .unwrittenZero
  | sign _ | behind _ _ => .absent

/-- The position of the operator that ends a lead. -/
def operatorIndex : Lead → Nat
  | start | sign _ => 0
  | behind span _ => totalWidth span.tokens

/-- The reading when a lead has been passed. -/
def reading (lead : Lead) : Reading :=
  ⟨lead.openSpan, lead.pending, lead.operatorIndex, totalWidth lead.tokens⟩

/-- The reading when a factor behind a lead has been taken in. -/
def taken (lead : Lead) (factor : Factor) : Reading :=
  ⟨⟨(lead.add factor).terms, .complete (lead.add factor).last⟩, .absent, lead.operatorIndex,
    totalWidth (lead.add factor).tokens⟩

@[simp] theorem pending_reading (lead : Lead) : lead.reading.pending = lead.pending := rfl

@[simp] theorem operatorIndex_reading (lead : Lead) :
    lead.reading.operatorIndex = lead.operatorIndex := rfl

@[simp] theorem position_reading (lead : Lead) : lead.reading.position = totalWidth lead.tokens :=
  rfl

@[simp] theorem pending_taken (lead : Lead) (factor : Factor) :
    (lead.taken factor).pending = .absent := rfl

@[simp] theorem position_taken (lead : Lead) (factor : Factor) :
    (lead.taken factor).position = totalWidth (lead.add factor).tokens := rfl

theorem pending_of_ne_start {lead : Lead} (begun : lead ≠ start) : lead.pending = .absent := by
  cases lead <;> simp_all [pending]

end Lead

/-- What has been taken in of a span. -/
inductive Checked where
  /-- A factor is due behind a lead. -/
  | due (lead : Lead)
  /-- The contents of a group behind a lead; an operator or the end is due. -/
  | closed (lead : Lead) (inner : Span)

namespace Checked

/-- The tokens that have been taken in. -/
def tokens : Checked → List Token
  | due lead => lead.tokens
  | closed lead inner => (lead.add (.group inner)).tokens

/-- The reading before the next token. -/
def reading : Checked → Reading
  | due lead => lead.reading
  | closed lead inner => lead.taken (.group inner)

/-- Whether digits that follow are the first token of their span. -/
def isStart : Checked → Bool
  | due lead => lead.isStart
  | closed _ _ => false

/-- The number of groups nested within each other. -/
def depth : Checked → Nat
  | due lead => lead.depth
  | closed lead inner => (lead.add (.group inner)).depth

/-- Whether everything taken in may stand where it does. -/
def WellFormed : Checked → Prop
  | due lead => lead.WellFormed
  | closed lead inner => (lead.add (.group inner)).WellFormed

/-- The events reported so far, `depth` groups deep. -/
def events (depth : Nat) : Checked → List Event
  | due lead => lead.events depth
  | closed lead inner => (lead.add (.group inner)).events depth

@[simp] theorem tokens_due (lead : Lead) : (due lead).tokens = lead.tokens := rfl

@[simp] theorem tokens_closed (lead : Lead) (inner : Span) :
    (closed lead inner).tokens = (lead.add (.group inner)).tokens := rfl

@[simp] theorem reading_due (lead : Lead) : (due lead).reading = lead.reading := rfl

@[simp] theorem reading_closed (lead : Lead) (inner : Span) :
    (closed lead inner).reading = lead.taken (.group inner) := rfl

@[simp] theorem events_due (lead : Lead) (depth : Nat) :
    (due lead).events depth = lead.events depth := rfl

@[simp] theorem events_closed (lead : Lead) (inner : Span) (depth : Nat) :
    (closed lead inner).events depth = (lead.add (.group inner)).events depth := rfl

@[simp] theorem position_reading (checked : Checked) :
    checked.reading.position = totalWidth checked.tokens := by
  cases checked <;> rfl

end Checked

/-- How far a span has been read: what has been taken in, and the digits behind it. -/
structure Progress where
  checked : Checked
  digits : Option (List Char) := none

namespace Progress

/-- The tokens that have been passed. -/
def tokens : Progress → List Token
  | ⟨checked, none⟩ => checked.tokens
  | ⟨checked, some run⟩ => checked.tokens ++ [.number run]

/-- The reading before the next token. -/
def reading : Progress → Reading
  | ⟨checked, none⟩ => checked.reading
  | ⟨checked, some run⟩ => checked.reading.addDigits run

@[simp] theorem tokens_checked (checked : Checked) :
    (Progress.mk checked none).tokens = checked.tokens := rfl

@[simp] theorem tokens_digits (checked : Checked) (run : List Char) :
    (Progress.mk checked (some run)).tokens = checked.tokens ++ [.number run] := rfl

@[simp] theorem reading_checked (checked : Checked) :
    (Progress.mk checked none).reading = checked.reading := rfl

@[simp] theorem reading_digits (checked : Checked) (run : List Char) :
    (Progress.mk checked (some run)).reading = checked.reading.addDigits run := rfl

@[simp] theorem position_reading (progress : Progress) :
    progress.reading.position = totalWidth progress.tokens := by
  obtain ⟨checked, _ | run⟩ := progress
  · exact checked.position_reading
  · simp [reading, tokens, Reading.addDigits]

/-- Digits have been read exactly where they are pending. -/
theorem isWritten_reading (progress : Progress) :
    progress.reading.pending.isWritten = progress.digits.isSome := by
  obtain ⟨checked, _ | run⟩ := progress
  · cases checked with
    | due lead => cases lead <;> rfl
    | closed lead inner => rfl
  · cases checked with
    | due lead => cases lead <;> rfl
    | closed lead inner => rfl

end Progress

/-! ### Operations on readings -/

section Operations

variable (whole : List Token)

/-- An operand is taken in behind a lead, and may complete a product. -/
theorem Lead.addOperand_eq (lead : Lead) (factor : Factor) (index : Nat) {reading : Reading}
    (atLead : reading.span = lead.openSpan) :
    reading.addOperand whole (factor.expr lead.isStart) index =
      ending (.ok { reading with
        span := ⟨(lead.add factor).terms, .complete (lead.add factor).last⟩ }) lead.folding := by
  have folding := lead.awaited?_openSpan
  rw [Reading.addOperand, atLead, lead.addOperand_openSpan]
  cases awaited : lead.openSpan.awaited? with
  | none =>
      rw [awaited] at folding
      simp [← folding]
  | some op =>
      rw [awaited] at folding
      simp [← folding]

/-- An operand is refused directly behind an operand. -/
theorem addOperand_complete (operand term : Expr) (index : Nat) {reading : Reading}
    (complete : reading.span.last = .complete term) :
    reading.addOperand whole operand index =
      ending (.error (.missingOperator index (text whole))) [] := by
  simp [Reading.addOperand, OpenSpan.addOperand, complete]

/-- The pending digits of a reading, with the unwritten zero, and their position. -/
theorem Checked.taken?_addDigits (checked : Checked) (run : List Char) :
    (checked.reading.addDigits run).pending.taken? =
      some (literalChars checked.isStart run, totalWidth checked.tokens) := by
  cases checked with
  | due lead => cases lead <;> rfl
  | closed lead inner => rfl

/-- Digits take the place of an unwritten zero. -/
theorem Checked.pending_addDigits (checked : Checked) (run : List Char) :
    (checked.reading.addDigits run).pending ≠ .unwrittenZero := by
  cases checked with
  | due lead => cases lead <;> exact Pending.noConfusion
  | closed lead inner => exact Pending.noConfusion

/-- Digits that are no number are refused where they are settled. -/
theorem Checked.settle_invalid (checked : Checked) {run : List Char}
    (invalid : Decimal.ofChars? (literalChars checked.isStart run) = none) :
    (checked.reading.addDigits run).settle whole =
      ending (.error (.invalidNumber (String.ofList (literalChars checked.isStart run))
        (totalWidth checked.tokens) (text whole))) [] := by
  rw [Reading.settle, checked.taken?_addDigits]
  simp [invalid]

/-- A number is taken in as the factor behind its lead. -/
theorem Lead.settle_number (lead : Lead) {run : List Char}
    (valid : (Decimal.ofChars? (literalChars lead.isStart run)).isSome) :
    (lead.reading.addDigits run).settle whole =
      ending (.ok (lead.taken (.number run))) lead.folding := by
  obtain ⟨decimal, read⟩ := Option.isSome_iff_exists.mp valid
  have pending := (Checked.due lead).taken?_addDigits run
  have literal : Expr.literal decimal.toFloat = (Factor.number run).expr lead.isStart := by
    rw [Factor.expr, numberValue_of_ofChars? read]
  simp only [Checked.reading, Checked.isStart, Checked.tokens] at pending
  simp only [Reading.settle, pending, read, literal]
  rw [lead.addOperand_eq whole (.number run) _ rfl]
  simp [taken, Reading.addDigits, Factor.tokens]

/-- A number behind a group lacks an operator. -/
theorem Checked.settle_stray (lead : Lead) (inner : Span) {run : List Char}
    (valid : (Decimal.ofChars? run).isSome) :
    ((closed lead inner).reading.addDigits run).settle whole =
      ending (.error
        (.missingOperator (totalWidth (closed lead inner).tokens) (text whole))) [] := by
  obtain ⟨decimal, read⟩ := Option.isSome_iff_exists.mp valid
  have pending := (closed lead inner).taken?_addDigits run
  simp only [isStart, literalChars, Bool.false_eq_true, ↓reduceIte] at pending
  simp only [Reading.settle, pending, read]
  exact addOperand_complete whole _ _ _ rfl

/-- At its start, a span holds an unwritten zero. -/
theorem settle_start :
    Lead.start.reading.settle whole =
      ending (.ok ⟨⟨[], .complete (.literal 0.0)⟩, .absent, 0, 0⟩) [] := by
  have read : Decimal.ofChars? ['0'] = some ⟨0, 0⟩ := rfl
  have zero : (Decimal.mk 0 0).toFloat = 0.0 := rfl
  simp [Reading.settle, Lead.reading, Lead.pending, Pending.taken?, read, zero, Reading.addOperand,
    Lead.openSpan, OpenSpan.addOperand, OpenSpan.awaited?, Lead.operatorIndex, Lead.tokens]

/-- Without digits there is nothing to settle. -/
theorem settle_absent {reading : Reading} (absent : reading.pending = .absent) :
    reading.settle whole = ending (.ok reading) [] := by
  simp [Reading.settle, absent, Pending.taken?]

/-! Operators and the end of a span settle what is pending and then ask the span. -/

/-- An operator is taken in behind a complete term. -/
theorem addOperator_eq_ok {op : Operator} {reading settled : Reading} {span : OpenSpan}
    {log : List Event}
    (notLeading : reading.pending = .unwrittenZero → op.isMultiplicative = false)
    (settles : reading.settle whole = ending (.ok settled) log)
    (added : settled.span.addOperator op = .ok span) :
    reading.addOperator whole op = ending (.ok { settled with
      span
      operatorIndex := settled.position
      position := settled.position + (Token.operator op).width }) log := by
  have allowed : ¬ (reading.pending = .unwrittenZero ∧ op.isMultiplicative = true) :=
    fun ⟨leading, multiplicative⟩ => by simp [notLeading leading] at multiplicative
  simp [Reading.addOperator, allowed, settles, added]

/-- An operator is refused where an operand is due. -/
theorem addOperator_eq_missingOperand {op : Operator} {reading settled : Reading}
    {misfit : Misfit} {log : List Event}
    (notLeading : reading.pending = .unwrittenZero → op.isMultiplicative = false)
    (settles : reading.settle whole = ending (.ok settled) log)
    (refused : settled.span.addOperator op = .error misfit) :
    reading.addOperator whole op =
      ending (.error (.missingOperand settled.operatorIndex (text whole))) log := by
  have allowed : ¬ (reading.pending = .unwrittenZero ∧ op.isMultiplicative = true) :=
    fun ⟨leading, multiplicative⟩ => by simp [notLeading leading] at multiplicative
  simp [Reading.addOperator, allowed, settles, refused]

/-- An operator does not get past what cannot be settled. -/
theorem addOperator_eq_error {op : Operator} {reading : Reading} {error : ParseError}
    {log : List Event}
    (notLeading : reading.pending = .unwrittenZero → op.isMultiplicative = false)
    (settles : reading.settle whole = ending (.error error) log) :
    reading.addOperator whole op = ending (.error error) log := by
  have allowed : ¬ (reading.pending = .unwrittenZero ∧ op.isMultiplicative = true) :=
    fun ⟨leading, multiplicative⟩ => by simp [notLeading leading] at multiplicative
  simp [Reading.addOperator, allowed, settles]

/-- A multiplicative operator cannot start a span. -/
theorem addOperator_start {op : Operator} (multiplicative : op.isMultiplicative = true) :
    Lead.start.reading.addOperator whole op =
      ending (.error (.invalidLeadingOperator op (text whole))) [] := by
  simp [Reading.addOperator, Lead.reading, Lead.pending, multiplicative]

/-- A span ends behind a complete term. -/
theorem close_eq_ok {reading settled : Reading} {expr : Expr} {log : List Event}
    (settles : reading.settle whole = ending (.ok settled) log)
    (closed : settled.span.close = .ok expr) : reading.close whole = ending (.ok expr) log := by
  simp [Reading.close, settles, closed]

/-- A span does not end where an operand is due. -/
theorem close_eq_missingOperand {reading settled : Reading} {misfit : Misfit} {log : List Event}
    (settles : reading.settle whole = ending (.ok settled) log)
    (refused : settled.span.close = .error misfit) :
    reading.close whole =
      ending (.error (.missingOperand settled.operatorIndex (text whole))) log := by
  simp [Reading.close, settles, refused]

/-- A span does not end behind what cannot be settled. -/
theorem close_eq_error {reading : Reading} {error : ParseError} {log : List Event}
    (settles : reading.settle whole = ending (.error error) log) :
    reading.close whole = ending (.error error) log := by
  simp [Reading.close, settles]

/-- A sign is taken in at the start of a span. -/
theorem Lead.addOperator_sign {op : Operator} (additive : op.isMultiplicative = false) :
    start.reading.addOperator whole op = ending (.ok (sign op).reading) [] := by
  rw [addOperator_eq_ok whole (fun _ => additive) (settle_start whole)
    (Lead.addOperator_zero additive)]
  simp [reading, pending, operatorIndex, tokens]

/-- An operator behind a factor that has been taken in makes the span a lead. -/
theorem Lead.addOperator_taken (lead : Lead) (factor : Factor) (op : Operator) {reading : Reading}
    {log : List Event} (notStart : reading.pending ≠ .unwrittenZero)
    (settles : reading.settle whole = ending (.ok (lead.taken factor)) log) :
    reading.addOperator whole op = ending (.ok (behind (lead.add factor) op).reading) log := by
  rw [addOperator_eq_ok whole (fun leading => absurd leading notStart) settles
    (Lead.addOperator_openSpan (lead.add factor) op)]
  simp [Lead.reading, Lead.taken, pending, operatorIndex, tokens, Nat.add_assoc]

/-! Groups are entered after all checks on their surroundings but one. -/

theorem enterGroup_empty (reading : Reading) (limit depth : Nat) :
    reading.enterGroup whole limit depth [] =
      ending (.error (.emptyParentheses reading.position (text whole))) [] := by
  simp [Reading.enterGroup]

theorem enterGroup_written {reading : Reading} {inner : List Token} (limit depth : Nat)
    (nonempty : inner ≠ []) (written : reading.pending.isWritten = true) :
    reading.enterGroup whole limit depth inner =
      ending (.error (.missingOperator reading.position (text whole))) [] := by
  simp [Reading.enterGroup, nonempty, written]

theorem enterGroup_tooDeep {reading : Reading} {inner : List Token} {limit depth : Nat}
    (nonempty : inner ≠ []) (notWritten : reading.pending.isWritten = false)
    (tooDeep : limit < depth) :
    reading.enterGroup whole limit depth inner = ending (.error (.nestingTooDeep limit)) [] := by
  simp [Reading.enterGroup, nonempty, notWritten, tooDeep]

theorem enterGroup_ok {reading : Reading} {inner : List Token} {limit depth : Nat}
    (nonempty : inner ≠ []) (notWritten : reading.pending.isWritten = false)
    (within : depth ≤ limit) :
    reading.enterGroup whole limit depth inner = ending (.ok ()) [.group (text inner) depth] := by
  simp [Reading.enterGroup, nonempty, notWritten, Nat.not_lt.mpr within]

/-- The tree of a group is taken in as the factor behind its lead. -/
theorem Lead.leaveGroup_eq (lead : Lead) (inner : Span) :
    lead.reading.leaveGroup whole inner.tokens inner.expr =
      ending (.ok (lead.taken (.group inner))) lead.folding := by
  rw [← Factor.expr_group lead.isStart inner, Reading.leaveGroup,
    lead.addOperand_eq whole (.group inner) _ rfl]
  simp [taken, Factor.tokens, totalWidth_cons, Nat.add_assoc]

/-- A group behind a group lacks an operator, which is noticed only when it has been
read. -/
theorem Checked.leaveGroup_closed (lead : Lead) (before : Span) (inner : List Token)
    (operand : Expr) :
    (closed lead before).reading.leaveGroup whole inner operand =
      ending (.error
        (.missingOperator (totalWidth (closed lead before).tokens) (text whole))) [] := by
  rw [Reading.leaveGroup,
    addOperand_complete whole operand (lead.add (.group before)).last _ rfl]
  simp

end Operations

end Calculator
