import Calculator.Proofs.Decimal.Value
import Calculator.Proofs.Logged.SideBySide
import Calculator.Proofs.Parse.Place
import Calculator.Proofs.Parse.Rules

/-!
# The unwritten zero

A text is read as if a zero stood in front of it. Whether this zero is written makes no difference
to the tree, and none to what is wrong with the text, unless the text starts with what only one of
the two zeros allows: a group follows the unwritten zero only, and a multiplicative operator the
written one only. The two texts are read side by side. Their readings differ in positions, and by
one zero in front of the number that is being read; `Reading.InStep` says so, and is kept by every
operation on readings.
-/

namespace Calculator

open Logged Token

/-! ### Errors about two texts -/

namespace ParseError

/-- The kinds of reading errors. -/
inductive Kind where
  | invalidLeadingOperator
  | emptyParentheses
  | unmatchedParenthesis
  | unrecognizedCharacter
  | unknownOperator
  | invalidNumber
  | missingOperand
  | missingOperator
  | nestingTooDeep
  deriving DecidableEq

/-- What is wrong, apart from where. -/
def kind : ParseError → Kind
  | invalidLeadingOperator _ _ => .invalidLeadingOperator
  | emptyParentheses _ _ => .emptyParentheses
  | unmatchedParenthesis _ _ => .unmatchedParenthesis
  | unrecognizedCharacter _ _ _ => .unrecognizedCharacter
  | unknownOperator _ => .unknownOperator
  | invalidNumber _ _ _ => .invalidNumber
  | missingOperand _ _ => .missingOperand
  | missingOperator _ _ => .missingOperator
  | nestingTooDeep _ => .nestingTooDeep

/-- Two errors of one kind that are the same, unless each of them is about its own text. -/
structure AlikeIn (expression expression' : String) (error error' : ParseError) : Prop where
  kind : error'.kind = error.kind
  same : error' = error ∨
    error.expression? = some expression ∧ error'.expression? = some expression'

theorem AlikeIn.refl (expression expression' : String) (error : ParseError) :
    AlikeIn expression expression' error error :=
  ⟨rfl, .inl rfl⟩

end ParseError

/-! ### Readings in step -/

/-- Numbers that are being read and may differ by a zero in front, whether it is written or
not. -/
inductive Pending.InStep : Pending → Pending → Prop where
  | unwritten (index : Nat) : InStep .unwrittenZero (.run ['0', '0'] index)
  | absent : InStep .absent .absent
  | run (characters : List Char) (index index' : Nat) :
      InStep (.run characters index) (.run characters index')
  | zero (characters : List Char) (index index' : Nat) :
      InStep (.run ('0' :: characters) index) (.run ('0' :: '0' :: characters) index')

theorem Pending.append_ne_unwrittenZero (pending : Pending) (run : List Char) (index : Nat) :
    pending.append run index ≠ .unwrittenZero := by
  cases pending <;> exact Pending.noConfusion

namespace Pending.InStep

variable {pending pending' : Pending}

theorem append (inStep : InStep pending pending') (run : List Char) (index index' : Nat) :
    InStep (pending.append run index) (pending'.append run index') := by
  cases inStep with
  | unwritten => exact .zero run index _
  | absent => exact .run run index index'
  | run characters => exact .run (characters ++ run) _ _
  | zero characters => exact .zero (characters ++ run) _ _

theorem ne_unwrittenZero (inStep : InStep pending pending') : pending' ≠ .unwrittenZero := by
  cases inStep <;> exact Pending.noConfusion

theorem isWritten_eq (inStep : InStep pending pending') (begun : pending ≠ .unwrittenZero) :
    pending'.isWritten = pending.isWritten := by
  cases inStep with
  | unwritten => exact absurd rfl begun
  | _ => rfl

/-- Both numbers are there or none is, and they are read as the same decimal. -/
theorem taken? (inStep : InStep pending pending') :
    pending.taken? = none ∧ pending'.taken? = none ∨
      ∃ characters index characters' index', pending.taken? = some (characters, index) ∧
        pending'.taken? = some (characters', index') ∧
        Decimal.ofChars? characters' = Decimal.ofChars? characters := by
  cases inStep with
  | unwritten => exact .inr ⟨_, _, _, _, rfl, rfl, Decimal.ofChars?_cons_zero_zero []⟩
  | absent => exact .inl ⟨rfl, rfl⟩
  | run => exact .inr ⟨_, _, _, _, rfl, rfl, rfl⟩
  | zero characters => exact .inr ⟨_, _, _, _, rfl, rfl, Decimal.ofChars?_cons_zero_zero characters⟩

end Pending.InStep

namespace Reading

/-- Readings of the same elements and operators, with numbers that may differ by a zero in
front. -/
structure InStep (reading reading' : Reading) : Prop where
  span : reading'.span = reading.span
  pending : reading.pending.InStep reading'.pending

/-- Readings of the same elements and operators, without a number. -/
structure Settled (reading reading' : Reading) : Prop where
  span : reading'.span = reading.span
  absent : reading.pending = .absent
  absent' : reading'.pending = .absent

theorem Settled.inStep {reading reading' : Reading} (settled : Settled reading reading') :
    InStep reading reading' where
  span := settled.span
  pending := by
    rw [settled.absent, settled.absent']
    exact .absent

theorem Settled.ne_unwrittenZero {reading reading' : Reading} (settled : Settled reading reading') :
    reading.pending ≠ .unwrittenZero := by
  rw [settled.absent]
  exact Pending.noConfusion

variable {whole whole' : List Token} {reading reading' : Reading}

/-- An operand is taken in by both readings or by none. -/
theorem Settled.addOperand (settled : Settled reading reading') (operand : Expr)
    (index index' : Nat) :
    SideBySide Settled (ParseError.AlikeIn (text whole) (text whole'))
      (reading.addOperand whole operand index) (reading'.addOperand whole' operand index') := by
  rw [Reading.addOperand, Reading.addOperand, settled.span]
  cases reading.span.addOperand operand with
  | error misfit => cases misfit <;> exact .throw ⟨rfl, .inr ⟨rfl, rfl⟩⟩
  | ok span =>
      have taken : Settled { reading with span } { reading' with span } :=
        ⟨rfl, settled.absent, settled.absent'⟩
      cases reading.span.awaited? with
      | none => exact .pure taken
      | some op =>
          have reported : SideBySide Eq (ParseError.AlikeIn (text whole) (text whole'))
              (emit (.folding op)) (emit (.folding op)) :=
            .refl (fun _ => rfl) (.refl _ _) _
          exact reported.bind fun _ _ _ => .pure taken

/-- Numbers are settled as the same literal. -/
theorem InStep.settle (inStep : InStep reading reading') :
    SideBySide Settled (ParseError.AlikeIn (text whole) (text whole'))
      (reading.settle whole) (reading'.settle whole') := by
  rcases inStep.pending.taken? with ⟨taken, taken'⟩ |
    ⟨characters, index, characters', index', taken, taken', sameDecimal⟩
  · have absent : ∀ pending : Pending, pending.taken? = none → pending = .absent := by
      intro pending none
      cases pending <;> first | rfl | cases none
    rw [Reading.settle, Reading.settle, taken, taken']
    exact .pure ⟨inStep.span, absent _ taken, absent _ taken'⟩
  · rw [Reading.settle, Reading.settle, taken, taken']
    simp only [sameDecimal]
    cases Decimal.ofChars? characters with
    | none => exact .throw ⟨rfl, .inr ⟨rfl, rfl⟩⟩
    | some decimal =>
        have settled : Settled { reading with pending := .absent }
            { reading' with pending := .absent } := ⟨inStep.span, rfl, rfl⟩
        exact settled.addOperand (.literal decimal.toFloat) index index'

/-- Operators are taken in by both readings or by none, if they may follow a zero. -/
theorem InStep.addOperator (inStep : InStep reading reading') {op : Operator}
    (additive : reading.pending = .unwrittenZero → op.isMultiplicative = false) :
    SideBySide Settled (ParseError.AlikeIn (text whole) (text whole'))
      (reading.addOperator whole op) (reading'.addOperator whole' op) := by
  have allowed : ¬ (reading.pending = .unwrittenZero ∧ op.isMultiplicative = true) :=
    fun ⟨leading, multiplicative⟩ => by simp [additive leading] at multiplicative
  have allowed' := inStep.pending.ne_unwrittenZero
  simp only [Reading.addOperator, allowed, allowed', Bool.and_eq_true, decide_eq_true_eq,
    false_and, if_false]
  refine .bind inStep.settle fun settled settled' both => ?_
  rw [both.span]
  cases settled.span.addOperator op with
  | error misfit => exact .throw ⟨rfl, .inr ⟨rfl, rfl⟩⟩
  | ok span => exact .pure ⟨rfl, both.absent, both.absent'⟩

/-- A group may be entered by both readings or by none, if it does not follow an unwritten
zero. -/
theorem InStep.enterGroup (inStep : InStep reading reading')
    (begun : reading.pending ≠ .unwrittenZero) (limit depth : Nat) (inner : List Token) :
    SideBySide Eq (ParseError.AlikeIn (text whole) (text whole'))
      (reading.enterGroup whole limit depth inner)
      (reading'.enterGroup whole' limit depth inner) := by
  rw [Reading.enterGroup, Reading.enterGroup, inStep.pending.isWritten_eq begun]
  by_cases empty : inner.isEmpty
  · simp only [empty, if_true]
    exact .throw ⟨rfl, .inr ⟨rfl, rfl⟩⟩
  by_cases written : reading.pending.isWritten
  · simp only [empty, written, if_true]
    exact .throw ⟨rfl, .inr ⟨rfl, rfl⟩⟩
  · simp only [empty, written]
    exact .refl (fun _ => rfl) (.refl _ _) _

/-- The tree of a group is taken in by both readings or by none. -/
theorem InStep.leaveGroup (inStep : InStep reading reading') (inner : List Token)
    (operand : Expr) :
    SideBySide Settled (ParseError.AlikeIn (text whole) (text whole'))
      (reading.leaveGroup whole inner operand) (reading'.leaveGroup whole' inner operand) := by
  have settled : Settled { reading with pending := .absent } { reading' with pending := .absent } :=
    ⟨inStep.span, rfl, rfl⟩
  exact (settled.addOperand operand _ _).bind fun _ _ taken =>
    .pure ⟨taken.span, taken.absent, taken.absent'⟩

/-- Spans end with the same tree, or neither may end. -/
theorem InStep.close (inStep : InStep reading reading') :
    SideBySide Eq (ParseError.AlikeIn (text whole) (text whole'))
      (reading.close whole) (reading'.close whole') := by
  refine .bind inStep.settle fun settled settled' both => ?_
  rw [both.span]
  cases settled.span.close with
  | error misfit => exact .throw ⟨rfl, .inr ⟨rfl, rfl⟩⟩
  | ok expr => exact .pure rfl

end Reading

/-! ### Spans in step -/

/-- Tokens that start with what tells a written zero from an unwritten one. A group may follow only
the unwritten zero, a multiplicative operator only the written one. -/
def TellsZero (tokens : List Token) : Prop :=
  ∃ rest, tokens = .openParen :: rest ∨
    ∃ op : Operator, op.isMultiplicative = true ∧ tokens = .operator op :: rest

/-- From readings in step, the same tokens lead to the same tree, or are refused for the same
reason. What is wrong in a group is the same in both, since the group is read by itself. -/
theorem readSpan_inStep (limit depth : Nat) {whole whole' tokens : List Token}
    {reading reading' : Reading} (inStep : reading.InStep reading')
    (starts : reading.pending = .unwrittenZero → ¬ TellsZero tokens) :
    SideBySide Eq (ParseError.AlikeIn (text whole) (text whole'))
      (readSpan limit depth whole reading tokens)
      (readSpan limit depth whole' reading' tokens) := by
  fun_induction readSpan limit depth whole reading tokens generalizing reading' with
  | case1 depth whole reading =>
      rw [readSpan]
      exact inStep.close
  | case2 depth whole reading run rest inductionHypothesis =>
      rw [readSpan]
      refine inductionHypothesis ⟨inStep.span, inStep.pending.append run _ _⟩ fun atStart => ?_
      exact absurd atStart (reading.pending.append_ne_unwrittenZero run _)
  | case3 depth whole reading op rest inductionHypothesis =>
      rw [readSpan]
      have additive : reading.pending = .unwrittenZero → op.isMultiplicative = false := by
        intro atStart
        by_contra multiplicative
        exact starts atStart ⟨rest, .inr ⟨op, by simpa using multiplicative, rfl⟩⟩
      exact (inStep.addOperator additive).bind fun settled settled' both =>
        inductionHypothesis settled both.inStep fun atStart => absurd atStart both.ne_unwrittenZero
  | case4 depth whole reading rest inner after found _ readsAfter =>
      have begun : reading.pending ≠ .unwrittenZero := fun atStart =>
        starts atStart ⟨rest, .inl rfl⟩
      rw [readSpan]
      split
      · next found' =>
          cases found'.symm.trans found
          -- The group itself does not see in which text it stands.
          refine (inStep.enterGroup begun limit (depth + 1) inner).bind fun _ _ _ => ?_
          refine (SideBySide.refl Eq.refl (.refl _ _) _).bind fun operand _ same => ?_
          subst same
          exact (inStep.leaveGroup inner operand).bind fun settled settled' both =>
            readsAfter settled both.inStep fun atStart => absurd atStart both.ne_unwrittenZero
      · next found' => cases found'.symm.trans found
  | case5 depth whole reading rest found =>
      rw [readSpan]
      split
      · next found' => cases found'.symm.trans found
      · exact .throw ⟨rfl, .inr ⟨rfl, rfl⟩⟩
  | case6 depth whole reading rest =>
      rw [readSpan]
      exact .throw ⟨rfl, .inr ⟨rfl, rfl⟩⟩
  | case7 depth whole reading character rest =>
      rw [readSpan]
      exact .throw ⟨rfl, .inr ⟨rfl, rfl⟩⟩

/-! ### Texts with a zero in front -/

/-- Digits may be taken in at once or part by part. -/
theorem Reading.addDigits_addDigits (reading : Reading) (first second : List Char) :
    (reading.addDigits first).addDigits second = reading.addDigits (first ++ second) := by
  have width : (Token.number (first ++ second)).width =
      (Token.number first).width + (Token.number second).width := by
    simp only [width_eq_utf8ByteSize, chars, String.ofList_append, String.utf8ByteSize_append]
  cases pending : reading.pending <;>
    simp [addDigits, Pending.append, pending, width, Nat.add_assoc]

/-- Reading tokens with a zero in front is reading them behind a zero. -/
theorem readSpan_push_zero (limit depth : Nat) (whole tokens : List Token) (reading : Reading) :
    readSpan limit depth whole reading (push '0' tokens) =
      readSpan limit depth whole (reading.addDigits ['0']) tokens := by
  have numeric : isNumeric '0' = true := rfl
  by_cases meets : ∀ next ∈ tokens.head?, next.isNumber = false
  · rw [push_of_isNumeric numeric meets, readSpan]
  · obtain ⟨run, rest, rfl⟩ : ∃ run rest, tokens = .number run :: rest := by
      cases tokens with
      | nil => simp at meets
      | cons token rest =>
          cases token with
          | number run => exact ⟨run, rest, rfl⟩
          | _ => simp [isNumber] at meets
    rw [push_number numeric, readSpan, readSpan, Reading.addDigits_addDigits, List.singleton_append]

theorem tokenize_zero_append (source : String) :
    tokenize ("0" ++ source) = push '0' (tokenize source) := by
  simp [tokenize, tokenizeChars]

/-- What comes out of a text is what comes out of its tokens. -/
theorem result_parse (settings : Settings) (source : String) :
    (parse settings source).result =
      (readSpan settings.maxDepth 0 (tokenize source) {} (tokenize source)).result := by
  obtain ⟨outcome, log, reads, -⟩ :=
    exists_outcome settings.maxDepth 0 (canonical_tokenize source) (Nat.zero_le _)
  rw [parse_eq_ending reads, reads, result_ending, result_ending]

/-- Tokens start with a parenthesis or a multiplicative operator only where their text does. -/
theorem not_tellsZero_tokenize {source : String}
    (starts : ∀ character ∈ source.toList.head?, character ∉ ['(', '*', '/']) :
    ¬ TellsZero (tokenize source) := by
  rintro ⟨rest, opens | ⟨op, multiplicative, leads⟩⟩
  · rw [← text_tokenize source, opens, toList_text] at starts
    exact starts '(' rfl (by decide)
  · rw [← text_tokenize source, leads, toList_text] at starts
    refine starts op.symbol rfl ?_
    cases op with
    | add | subtract => cases multiplicative
    | multiply | divide => decide

/-- A zero that is written in front of a text takes the place of the unwritten one, unless the text
starts with a parenthesis or a multiplicative operator. The tree is the same. If there is none,
the error is of the same kind, and it is the same error unless each of the two is about the
whole of its text: what is wrong in a group, and that groups nest too deep, is reported in the
same words. -/
theorem parse_zero_append (settings : Settings) {source : String}
    (starts : ∀ character ∈ source.toList.head?, character ∉ ['(', '*', '/']) :
    (∃ expr, (parse settings source).result = .ok expr ∧
      (parse settings ("0" ++ source)).result = .ok expr) ∨
    ∃ error error', (parse settings source).result = .error error ∧
      (parse settings ("0" ++ source)).result = .error error' ∧
      error'.kind = error.kind ∧
      (error.expression? ≠ some source ∨ error'.expression? ≠ some ("0" ++ source) →
        error' = error) := by
  have inStep : Reading.InStep {} (Reading.addDigits {} ['0']) := ⟨rfl, .unwritten 0⟩
  have run := @readSpan_inStep settings.maxDepth 0 (tokenize source) (tokenize ("0" ++ source))
    (tokenize source) _ _ inStep fun _ => not_tellsZero_tokenize starts
  rw [← readSpan_push_zero, ← tokenize_zero_append, text_tokenize, text_tokenize] at run
  rw [result_parse, result_parse]
  rcases run.result with ⟨expr, expr', reads, reads', rfl⟩ | ⟨error, error', fails, fails', alike⟩
  · exact .inl ⟨expr, reads, reads'⟩
  · refine .inr ⟨error, error', fails, fails', alike.kind, fun elsewhere => ?_⟩
    rcases alike.same with same | ⟨own, own'⟩
    · exact same
    · rcases elsewhere with notOwn | notOwn'
      · exact absurd own notOwn
      · exact absurd own' notOwn'

/-- What is wrong in a group behind a sign stays the same behind a zero and a sign. -/
theorem parse_zero_append_group :
    (parse { maxDepth := 1 } "+(1..2)").result = .error (.invalidNumber "01..2" 0 "1..2") ∧
      (parse { maxDepth := 1 } "0+(1..2)").result = .error (.invalidNumber "01..2" 0 "1..2") := by
  let inner : List Token := [.number ['1', '.', '.', '2']]
  have admissible : (Checked.due (.sign .add)).Admissible 1 0 := ⟨rfl, by decide⟩
  have start : (Checked.due .start).Admissible 1 1 := ⟨trivial, by decide⟩
  have split : (Checked.due (.sign .add)).tokens ++ .openParen :: (inner ++ [.closeParen]) =
      tokenize "+(1..2)" := by decide
  have problem : Problem 1 1 (text inner) ⟨.due .start, some ['1', '.', '.', '2']⟩ []
      (.invalidNumber "01..2" 0 (text inner)) [] := .invalidNumber (by decide) .stop
  have failed : (parse { maxDepth := 1 } "+(1..2)").result =
      .error (.invalidNumber "01..2" 0 "1..2") :=
    parse_eq_error_iff.mpr ⟨_, .nested admissible split (isBalanced_iff_nesting.mpr (by decide))
      (by decide) (by decide) (.rejected start rfl problem)⟩
  refine ⟨failed, ?_⟩
  rcases @parse_zero_append { maxDepth := 1 } "+(1..2)" (by simp) with
    ⟨expr, reads, -⟩ | ⟨error, error', fails, fails', -, same⟩
  · cases failed.symm.trans reads
  · cases failed.symm.trans fails
    rw [same (.inl (by decide))] at fails'
    exact fails'

end Calculator
