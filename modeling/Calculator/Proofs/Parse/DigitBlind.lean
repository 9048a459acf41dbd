import Calculator.Proofs.Logged.Lockstep
import Calculator.Proofs.Parse.Rules
import Calculator.Proofs.Token.Blank

/-!
# Digits have no influence

Which digits stand in a text makes no difference to how it is read: not to whether it is read, not
to the shape of its tree, not to what is wrong with it and where, and not to what is reported on the
way. Two texts that are the same but for digits are read in lockstep. Their readings are the same
with blank digits, where a tree without its numbers is all that is left of it;
`Reading.Alike` says so, and is kept by every operation on readings.
-/

namespace Calculator

open Logged Token

/-! ### Blank digits in what is read -/

namespace Expr

mutual

/-- A tree without its numbers. -/
def blanked : Expr → Expr
  | literal _ => literal 0.0
  | binary op lhs rhs => binary op lhs.blanked rhs.blanked
  | composite elements operators => composite (blankedElements elements) operators

/-- Trees without their numbers. -/
def blankedElements : List Expr → List Expr
  | [] => []
  | element :: elements => element.blanked :: blankedElements elements

end

theorem blankedElements_eq_map (elements : List Expr) :
    blankedElements elements = elements.map blanked := by
  induction elements with
  | nil => rfl
  | cons element elements inductionHypothesis =>
      rw [blankedElements, inductionHypothesis, List.map_cons]

end Expr

/-- An error with blank digits in the texts that it names. -/
def ParseError.blanked : ParseError → ParseError
  | invalidLeadingOperator op expression => .invalidLeadingOperator op (blankText expression)
  | emptyParentheses index expression => .emptyParentheses index (blankText expression)
  | unmatchedParenthesis index expression => .unmatchedParenthesis index (blankText expression)
  | unrecognizedCharacter character index expression =>
      .unrecognizedCharacter character index (blankText expression)
  | unknownOperator cause => .unknownOperator cause
  | invalidNumber literal index expression =>
      .invalidNumber (blankText literal) index (blankText expression)
  | missingOperand index expression => .missingOperand index (blankText expression)
  | missingOperator index expression => .missingOperator index (blankText expression)
  | nestingTooDeep limit => .nestingTooDeep limit

/-- A report with blank digits in its texts and a tree without numbers. -/
def Event.blanked : Event → Event
  | group text depth => .group (blankText text) depth
  | folding op => .folding op
  | parsed source expr => .parsed (blankText source) expr.blanked
  | folded op _ _ _ => .folded op 0.0 0.0 0.0
  | malformed elements operators => .malformed elements operators

namespace Pending

/-- A number with blank digits. -/
def blanked : Pending → Pending
  | run characters index => .run (characters.map blank) index
  | pending => pending

theorem append_blanked (pending : Pending) (characters : List Char) (index : Nat) :
    (pending.append characters index).blanked =
      pending.blanked.append (characters.map blank) index := by
  cases pending with
  | unwrittenZero => rfl
  | absent => rfl
  | run before start => simp [append, blanked]

/-- Where the same is left of two numbers, there is no number to take, or there are two that start
at the same place. -/
theorem taken?_of_blanked_eq {pending pending' : Pending}
    (same : pending.blanked = pending'.blanked) :
    (pending.taken? = none ∧ pending'.taken? = none) ∨
      ∃ characters characters' index, pending.taken? = some (characters, index) ∧
        pending'.taken? = some (characters', index) ∧
        characters.map blank = characters'.map blank := by
  cases pending <;> cases pending' <;> simp_all [blanked, taken?]

theorem isWritten_blanked (pending : Pending) : pending.blanked.isWritten = pending.isWritten := by
  cases pending <;> rfl

theorem blanked_eq_unwrittenZero_iff {pending : Pending} :
    pending.blanked = .unwrittenZero ↔ pending = .unwrittenZero := by
  cases pending <;> simp [blanked]

end Pending

/-- A term under way without its numbers. -/
def OpenTerm.blanked : OpenTerm → OpenTerm
  | vacant => .vacant
  | complete term => .complete term.blanked
  | product lhs op => .product lhs.blanked op

namespace OpenSpan

/-- A span under way without its numbers. -/
def blanked (span : OpenSpan) : OpenSpan where
  terms := span.terms.map fun (term, op) => (term.blanked, op)
  last := span.last.blanked

theorem awaited?_blanked (span : OpenSpan) : span.blanked.awaited? = span.awaited? := by
  obtain ⟨terms, last⟩ := span
  cases last <;> rfl

theorem addOperand_blanked (span : OpenSpan) (operand : Expr) :
    span.blanked.addOperand operand.blanked = (span.addOperand operand).map blanked := by
  obtain ⟨terms, last⟩ := span
  cases last <;> rfl

theorem addOperator_blanked (span : OpenSpan) (op : Operator) :
    span.blanked.addOperator op = (span.addOperator op).map blanked := by
  obtain ⟨terms, last⟩ := span
  cases last <;> cases multiplicative : op.isMultiplicative <;>
    simp [addOperator, multiplicative, blanked, OpenTerm.blanked, Except.map]

theorem close_blanked (span : OpenSpan) :
    span.blanked.close = span.close.map Expr.blanked := by
  obtain ⟨terms, last⟩ := span
  cases last <;>
    simp [close, blanked, OpenTerm.blanked, Except.map, Expr.blanked, Expr.blankedElements_eq_map,
      Function.comp_def]

end OpenSpan

/-! ### Readings that are the same but for digits -/

/-- Two computations whose errors are the same but for digits, and so are their reports. -/
abbrev ReadAlike {value : Type} (ok : value → value → Prop) :
    Logged ParseError value → Logged ParseError value → Prop :=
  Lockstep Event.blanked ok fun error error' => error.blanked = error'.blanked

/-- What comes of related arguments is a value for both or the same error for both. -/
theorem Except.map_eq_map_iff {error value seen : Type} {view : value → seen}
    {left right : Except error value} :
    left.map view = right.map view ↔
      (∃ lhs rhs, left = .ok lhs ∧ right = .ok rhs ∧ view lhs = view rhs) ∨
        ∃ cause, left = .error cause ∧ right = .error cause := by
  cases left <;> cases right <;> simp [Except.map, eq_comm]

namespace Reading

/-- Readings that are the same but for digits and for the numbers taken in. -/
structure Alike (reading reading' : Reading) : Prop where
  span : reading.span.blanked = reading'.span.blanked
  pending : reading.pending.blanked = reading'.pending.blanked
  operatorIndex : reading.operatorIndex = reading'.operatorIndex
  position : reading.position = reading'.position

theorem Alike.refl (reading : Reading) : Alike reading reading :=
  ⟨rfl, rfl, rfl, rfl⟩

variable {whole whole' : List Token} {reading reading' : Reading}

theorem Alike.clear (alike : Alike reading reading') :
    Alike { reading with pending := .absent } { reading' with pending := .absent } :=
  { alike with pending := rfl }

theorem Alike.addDigits (alike : Alike reading reading') {run run' : List Char}
    (sameRun : run.map blank = run'.map blank) :
    Alike (reading.addDigits run) (reading'.addDigits run') where
  span := alike.span
  pending := by
    simp only [Reading.addDigits, Pending.append_blanked, alike.pending, sameRun, alike.position]
  operatorIndex := alike.operatorIndex
  position := by
    have width : (Token.number run).width = (Token.number run').width := by
      rw [← width_blanked, ← width_blanked (.number run'), Token.blanked, sameRun, Token.blanked]
    simp only [Reading.addDigits, alike.position, width]

section Steps

variable (sameText : blankText (text whole) = blankText (text whole'))

include sameText

theorem Alike.addOperand (alike : Alike reading reading') {operand operand' : Expr}
    (sameOperand : operand.blanked = operand'.blanked) {index index' : Nat}
    (sameIndex : index = index') :
    ReadAlike Alike (reading.addOperand whole operand index)
      (reading'.addOperand whole' operand' index') := by
  subst sameIndex
  have awaited : reading.span.awaited? = reading'.span.awaited? := by
    rw [← OpenSpan.awaited?_blanked, alike.span, OpenSpan.awaited?_blanked]
  have same : (reading.span.addOperand operand).map OpenSpan.blanked =
      (reading'.span.addOperand operand').map OpenSpan.blanked := by
    rw [← OpenSpan.addOperand_blanked, alike.span, sameOperand, OpenSpan.addOperand_blanked]
  rw [Reading.addOperand, Reading.addOperand, awaited]
  rcases Except.map_eq_map_iff.mp same with
    ⟨span, span', added, added', sameSpan⟩ | ⟨misfit, refused, refused'⟩
  · have taken : Alike { reading with span } { reading' with span := span' } :=
      { alike with span := sameSpan }
    rw [added, added']
    cases reading'.span.awaited? with
    | none => exact .pure taken
    | some op => exact (Lockstep.emit rfl).bind fun _ _ _ => .pure taken
  · rw [refused, refused']
    cases misfit with
    | operand => exact .throw (by simp [ParseError.blanked, sameText])
    | operator => exact .throw (by simp [ParseError.blanked, sameText, alike.operatorIndex])

theorem Alike.settle (alike : Alike reading reading') :
    ReadAlike Alike (reading.settle whole) (reading'.settle whole') := by
  rw [Reading.settle, Reading.settle]
  rcases Pending.taken?_of_blanked_eq alike.pending with
    ⟨taken, taken'⟩ | ⟨characters, characters', index, taken, taken', sameCharacters⟩
  · rw [taken, taken']
    exact .pure alike
  · have sameValid :
        (Decimal.ofChars? characters).isSome = (Decimal.ofChars? characters').isSome := by
      rw [← isSome_ofChars?_map_blank, sameCharacters, isSome_ofChars?_map_blank]
    rw [taken, taken']
    simp only
    cases valid : Decimal.ofChars? characters with
    | none =>
        have valid' : Decimal.ofChars? characters' = none := by simpa [valid] using sameValid
        rw [valid']
        have sameLiteral : blankText (String.ofList characters) =
            blankText (String.ofList characters') := by
          simp [blankText, sameCharacters]
        exact .throw (by simp [ParseError.blanked, sameText, sameLiteral])
    | some decimal =>
        obtain ⟨decimal', valid'⟩ : ∃ decimal', Decimal.ofChars? characters' = some decimal' :=
          Option.isSome_iff_exists.mp (by simp [← sameValid, valid])
        rw [valid']
        exact alike.clear.addOperand sameText (by rw [Expr.blanked, Expr.blanked]) rfl

theorem Alike.addOperator (alike : Alike reading reading') (op : Operator) :
    ReadAlike Alike (reading.addOperator whole op) (reading'.addOperator whole' op) := by
  have leading : reading.pending = .unwrittenZero ↔ reading'.pending = .unwrittenZero := by
    rw [← Pending.blanked_eq_unwrittenZero_iff, alike.pending, Pending.blanked_eq_unwrittenZero_iff]
  simp only [Reading.addOperator, leading]
  split
  · exact fun _ _ sameLog => .error (by simp [ParseError.blanked, sameText]) sameLog
  · refine .bind (alike.settle sameText) fun reading reading' alike => ?_
    have same : (reading.span.addOperator op).map OpenSpan.blanked =
        (reading'.span.addOperator op).map OpenSpan.blanked := by
      rw [← OpenSpan.addOperator_blanked, alike.span, OpenSpan.addOperator_blanked]
    rcases Except.map_eq_map_iff.mp same with
      ⟨span, span', added, added', sameSpan⟩ | ⟨misfit, refused, refused'⟩
    · rw [added, added']
      exact .pure ⟨sameSpan, alike.pending, alike.position, by simp only [alike.position]⟩
    · rw [refused, refused']
      exact .throw (by simp [ParseError.blanked, sameText, alike.operatorIndex])

theorem Alike.enterGroup (alike : Alike reading reading') {inner inner' : List Token}
    (sameInner : inner.map Token.blanked = inner'.map Token.blanked) (limit depth : Nat) :
    ReadAlike Eq (reading.enterGroup whole limit depth inner)
      (reading'.enterGroup whole' limit depth inner') := by
  have empty : inner.isEmpty = inner'.isEmpty := by
    rw [← List.isEmpty_map, sameInner, List.isEmpty_map]
  have written : reading.pending.isWritten = reading'.pending.isWritten := by
    rw [← Pending.isWritten_blanked, alike.pending, Pending.isWritten_blanked]
  have reported : (Event.group (text inner) depth).blanked =
      (Event.group (text inner') depth).blanked := by
    rw [Event.blanked, Event.blanked, blankText_text_eq sameInner]
  rw [Reading.enterGroup, Reading.enterGroup, empty, written, alike.position]
  cases inner'.isEmpty with
  | true =>
      exact fun _ _ sameLog => .error (by simp [ParseError.blanked, sameText]) sameLog
  | false =>
      cases reading'.pending.isWritten with
      | true => exact fun _ _ sameLog => .error (by simp [ParseError.blanked, sameText]) sameLog
      | false =>
          by_cases tooDeep : limit < depth
          · simp only [tooDeep, if_true]
            exact fun _ _ sameLog => .error rfl sameLog
          · simp only [tooDeep, if_false]
            exact Lockstep.emit reported

theorem Alike.leaveGroup (alike : Alike reading reading') {inner inner' : List Token}
    (sameInner : inner.map Token.blanked = inner'.map Token.blanked) {operand operand' : Expr}
    (sameOperand : operand.blanked = operand'.blanked) :
    ReadAlike Alike (reading.leaveGroup whole inner operand)
      (reading'.leaveGroup whole' inner' operand') := by
  have width : totalWidth (.openParen :: inner) = totalWidth (.openParen :: inner') := by
    rw [totalWidth_cons, totalWidth_cons, ← totalWidth_map_blanked, sameInner,
      totalWidth_map_blanked]
  rw [Reading.leaveGroup, Reading.leaveGroup]
  refine .bind (alike.clear.addOperand sameText sameOperand alike.position)
    fun reading reading' alike => ?_
  exact .pure { alike with position := by simp only [alike.position, width] }

theorem Alike.close (alike : Alike reading reading') :
    ReadAlike (fun expr expr' => expr.blanked = expr'.blanked) (reading.close whole)
      (reading'.close whole') := by
  refine .bind (alike.settle sameText) fun reading reading' alike => ?_
  have same : reading.span.close.map Expr.blanked = reading'.span.close.map Expr.blanked := by
    rw [← OpenSpan.close_blanked, alike.span, OpenSpan.close_blanked]
  rcases Except.map_eq_map_iff.mp same with
    ⟨expr, expr', closed, closed', sameExpr⟩ | ⟨misfit, refused, refused'⟩
  · rw [closed, closed']
    exact .pure sameExpr
  · rw [refused, refused']
    exact .throw (by simp [ParseError.blanked, sameText, alike.operatorIndex])

end Steps

end Reading

/-! ### Texts that are the same but for digits -/

/-- From readings that are alike, tokens that are the same but for digits are read in lockstep. -/
theorem readSpan_alike (limit depth : Nat) {whole whole' tokens tokens' : List Token}
    {reading reading' : Reading} (sameWhole : whole.map Token.blanked = whole'.map Token.blanked)
    (sameTokens : tokens.map Token.blanked = tokens'.map Token.blanked)
    (alike : reading.Alike reading') :
    ReadAlike (fun expr expr' => expr.blanked = expr'.blanked)
      (readSpan limit depth whole reading tokens)
      (readSpan limit depth whole' reading' tokens') := by
  have sameText := blankText_text_eq sameWhole
  fun_induction readSpan limit depth whole reading tokens
    generalizing whole' reading' tokens' with
  | case1 depth whole reading =>
      obtain rfl : tokens' = [] := List.map_eq_nil_iff.mp sameTokens.symm
      rw [readSpan]
      exact alike.close sameText
  | case2 depth whole reading run rest inductionHypothesis =>
      obtain ⟨token', rest', rfl, sameToken, sameRest⟩ := exists_cons_of_map_blanked_eq sameTokens
      obtain ⟨run', rfl, sameRun⟩ := exists_run_of_blanked_eq sameToken
      rw [readSpan]
      exact inductionHypothesis sameWhole sameRest (alike.addDigits sameRun) sameText
  | case3 depth whole reading op rest inductionHypothesis =>
      obtain ⟨token', rest', rfl, sameToken, sameRest⟩ := exists_cons_of_map_blanked_eq sameTokens
      obtain rfl := eq_of_blanked_eq rfl sameToken
      rw [readSpan]
      exact .bind (alike.addOperator sameText op) fun reading reading' alike =>
        inductionHypothesis reading sameWhole sameRest alike sameText
  | case4 depth whole reading rest inner after found readsInner readsAfter =>
      obtain ⟨token', rest', rfl, sameToken, sameRest⟩ := exists_cons_of_map_blanked_eq sameTokens
      obtain rfl := eq_of_blanked_eq rfl sameToken
      obtain ⟨inner', after', found', sameInner, sameAfter⟩ :=
        exists_enclosed?_of_map_blanked_eq sameRest found
      rw [readSpan]
      split
      · next foundHere =>
          cases foundHere.symm.trans found'
          refine .bind (alike.enterGroup sameText sameInner limit (depth + 1)) fun _ _ _ => ?_
          refine .bind (readsInner sameInner sameInner (.refl {}) (blankText_text_eq sameInner))
            fun operand operand' sameOperand => ?_
          exact .bind (alike.leaveGroup sameText sameInner sameOperand) fun reading reading' alike =>
            readsAfter reading sameWhole sameAfter alike sameText
      · next foundHere => cases foundHere.symm.trans found'
  | case5 depth whole reading rest unclosed =>
      obtain ⟨token', rest', rfl, sameToken, sameRest⟩ := exists_cons_of_map_blanked_eq sameTokens
      obtain rfl := eq_of_blanked_eq rfl sameToken
      rw [readSpan]
      split
      · next foundHere =>
          obtain ⟨inner, after, found, -⟩ :=
            exists_enclosed?_of_map_blanked_eq sameRest.symm foundHere
          cases unclosed.symm.trans found
      · exact .throw (by simp [ParseError.blanked, sameText, alike.position])
  | case6 depth whole reading rest =>
      obtain ⟨token', rest', rfl, sameToken, -⟩ := exists_cons_of_map_blanked_eq sameTokens
      obtain rfl := eq_of_blanked_eq rfl sameToken
      rw [readSpan]
      exact .throw (by simp [ParseError.blanked, sameText, alike.position])
  | case7 depth whole reading character rest =>
      obtain ⟨token', rest', rfl, sameToken, -⟩ := exists_cons_of_map_blanked_eq sameTokens
      obtain rfl := eq_of_blanked_eq rfl sameToken
      rw [readSpan]
      exact .throw (by simp [ParseError.blanked, sameText, alike.position])

theorem map_blanked_tokenize {source source' : String} (same : SameButDigits source source') :
    (tokenize source).map Token.blanked = (tokenize source').map Token.blanked := by
  have sameChars : source.toList.map blank = source'.toList.map blank :=
    String.ofList_inj.mp (blankText_eq_iff.mpr same)
  rw [tokenize, tokenize, ← tokenizeChars_map_blank, sameChars, tokenizeChars_map_blank]

/-- Which digits stand in a text has no influence on reading it. Texts that are the same but for
digits are both read, as trees that are the same but for numbers, or are both refused, with errors
that are the same but for digits in the texts they name. What is reported is the same, too, but for
digits and numbers. -/
theorem parse_digit_blind (settings : Settings) {source source' : String}
    (same : SameButDigits source source') :
    ((∃ expr expr', (parse settings source).result = .ok expr ∧
        (parse settings source').result = .ok expr' ∧ expr.blanked = expr'.blanked) ∨
      ∃ error error', (parse settings source).result = .error error ∧
        (parse settings source').result = .error error' ∧ error.blanked = error'.blanked) ∧
      (parse settings source).events.map Event.blanked =
        (parse settings source').events.map Event.blanked := by
  have sameTokens := map_blanked_tokenize same
  have reads := readSpan_alike settings.maxDepth 0 sameTokens sameTokens (.refl {})
  refine Lockstep.run (reads.bind fun expr expr' sameExpr => ?_)
  have reported : (Event.parsed source expr).blanked = (Event.parsed source' expr').blanked := by
    rw [Event.blanked, Event.blanked, blankText_eq_iff.mpr same, sameExpr]
  exact (Lockstep.emit reported).bind fun _ _ _ => .pure sameExpr

/-- What is wrong in a group stays what it is when digits are replaced. -/
theorem parse_digit_blind_in_group :
    SameButDigits "1+(2..3)" "9+(0..7)" ∧
      (parse { maxDepth := 1 } "1+(2..3)").result = .error (.invalidNumber "02..3" 0 "2..3") ∧
      ∃ error, (parse { maxDepth := 1 } "9+(0..7)").result = .error error ∧
        error.blanked = .invalidNumber "00..0" 0 "0..0" := by
  let lead : Lead := .behind (.unsigned (.single (.number ['1']))) .add
  let inner : List Token := [.number ['2', '.', '.', '3']]
  have admissible : (Checked.due lead).Admissible 1 0 := ⟨numberRun_digit true rfl, by decide⟩
  have start : (Checked.due .start).Admissible 1 1 := ⟨trivial, by decide⟩
  have split : (Checked.due lead).tokens ++ .openParen :: (inner ++ [.closeParen]) =
      tokenize "1+(2..3)" := by decide
  have problem : Problem 1 1 (text inner) ⟨.due .start, some ['2', '.', '.', '3']⟩ []
      (.invalidNumber "02..3" 0 (text inner)) [] := .invalidNumber (by decide) .stop
  have failed : (parse { maxDepth := 1 } "1+(2..3)").result =
      .error (.invalidNumber "02..3" 0 "2..3") :=
    parse_eq_error_iff.mpr ⟨_, .nested admissible split (isBalanced_iff_nesting.mpr (by decide))
      (by decide) (by decide) (.rejected start rfl problem)⟩
  have same : SameButDigits "1+(2..3)" "9+(0..7)" := blankText_eq_iff.mp (by decide)
  refine ⟨same, failed, ?_⟩
  obtain ⟨⟨expr, -, reads, -⟩ | ⟨error, error', fails, fails', alike⟩, -⟩ :=
    parse_digit_blind { maxDepth := 1 } same
  · cases failed.symm.trans reads
  · cases failed.symm.trans fails
    exact ⟨error', fails', alike.symm⟩

end Calculator
