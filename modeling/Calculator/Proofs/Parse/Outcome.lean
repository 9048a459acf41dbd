import Calculator.Proofs.Parse.Progress

/-!
# Outcomes of reading

`Outcome` lists every way in which the reading of a span can end: what was taken in, what
stopped it, the error with its position, and the events reported until then. It speaks of
tokens and written expressions only. `exists_outcome` says that each reading ends in one
of these ways, so a property of all results is proved by going through the rules, with an
induction only for problems inside groups.
-/

namespace Calculator

open Logged Token

/-- Digits before these tokens are settled, and an operand that is due is missed: an
operator follows, or the end of the span. -/
inductive EndsOperand : List Token → Prop where
  | stop : EndsOperand []
  | operator (op : Operator) (rest : List Token) : EndsOperand (.operator op :: rest)

/-- Well-formed spans may be read this far, `depth` groups deep. -/
structure Checked.Admissible (limit depth : Nat) (checked : Checked) : Prop where
  wellFormed : checked.WellFormed
  within : depth + checked.depth ≤ limit

/-- The problems that stop a reading in its own span: its progress, the tokens that
follow, the error and the events reported since. `expression` is the text of the span. -/
inductive Problem (limit depth : Nat) (expression : String) :
    Progress → List Token → ParseError → List Event → Prop where
  | leadingOperator {op : Operator} {rest : List Token}
      (multiplicative : op.isMultiplicative = true) :
      Problem limit depth expression ⟨.due .start, none⟩ (.operator op :: rest)
        (.invalidLeadingOperator op expression) []
  | missingOperand {lead : Lead} {rest : List Token} (begun : lead ≠ .start)
      (follows : EndsOperand rest) :
      Problem limit depth expression ⟨.due lead, none⟩ rest
        (.missingOperand lead.operatorIndex expression) []
  | invalidNumber {checked : Checked} {run : List Char} {rest : List Token}
      (invalid : Decimal.ofChars? (literalChars checked.isStart run) = none)
      (follows : EndsOperand rest) :
      Problem limit depth expression ⟨checked, some run⟩ rest
        (.invalidNumber (String.ofList (literalChars checked.isStart run))
          (totalWidth checked.tokens) expression) []
  | numberBehindGroup {lead : Lead} {before : Span} {run : List Char} {rest : List Token}
      (valid : (Decimal.ofChars? run).isSome) (follows : EndsOperand rest) :
      Problem limit depth expression ⟨.closed lead before, some run⟩ rest
        (.missingOperator (totalWidth (Checked.closed lead before).tokens) expression) []
  | groupBehindNumber {checked : Checked} {run : List Char} {inner after : List Token}
      (balanced : IsBalanced inner) (nonempty : inner ≠ []) :
      Problem limit depth expression ⟨checked, some run⟩
        (.openParen :: (inner ++ .closeParen :: after))
        (.missingOperator (totalWidth (Progress.mk checked (some run)).tokens) expression) []
  /-- The group is read before the missing operator is noticed. -/
  | groupBehindGroup {lead : Lead} {before inner : Span} {after : List Token}
      (wellFormed : inner.WellFormed) (within : depth + 1 + inner.depth ≤ limit) :
      Problem limit depth expression ⟨.closed lead before, none⟩
        (.openParen :: (inner.tokens ++ .closeParen :: after))
        (.missingOperator (totalWidth (Checked.closed lead before).tokens) expression)
        (.group (text inner.tokens) (depth + 1) :: inner.events (depth + 1))
  | emptyGroup {progress : Progress} {after : List Token} :
      Problem limit depth expression progress (.openParen :: .closeParen :: after)
        (.emptyParentheses (totalWidth progress.tokens) expression) []
  | tooDeep {checked : Checked} {inner after : List Token} (balanced : IsBalanced inner)
      (nonempty : inner ≠ []) (beyond : limit < depth + 1) :
      Problem limit depth expression ⟨checked, none⟩
        (.openParen :: (inner ++ .closeParen :: after)) (.nestingTooDeep limit) []
  | unclosed {progress : Progress} {rest : List Token} (unpaired : enclosed? rest = none) :
      Problem limit depth expression progress (.openParen :: rest)
        (.unmatchedParenthesis (totalWidth progress.tokens) expression) []
  | unopened {progress : Progress} {rest : List Token} :
      Problem limit depth expression progress (.closeParen :: rest)
        (.unmatchedParenthesis (totalWidth progress.tokens) expression) []
  | unrecognized {progress : Progress} {character : Char} {rest : List Token} :
      Problem limit depth expression progress (.unknown character :: rest)
        (.unrecognizedCharacter character (totalWidth progress.tokens) expression) []

/-- The ways in which the reading of a span ends, `depth` groups deep, with the events it
reports. -/
inductive Outcome (limit : Nat) :
    Nat → List Token → Except ParseError Expr → List Event → Prop where
  | empty {depth : Nat} : Outcome limit depth [] (.ok Source.empty.expr) []
  | accepted {depth : Nat} (span : Span) (wellFormed : span.WellFormed)
      (within : depth + span.depth ≤ limit) :
      Outcome limit depth span.tokens (.ok span.expr) (span.events depth)
  | rejected {depth : Nat} {whole rest : List Token} {progress : Progress} {error : ParseError}
      {log : List Event} (admissible : progress.checked.Admissible limit depth)
      (split : progress.tokens ++ rest = whole)
      (problem : Problem limit depth (text whole) progress rest error log) :
      Outcome limit depth whole (.error error) (progress.checked.events depth ++ log)
  /-- A problem inside a group stops the reading around it, too. -/
  | nested {depth : Nat} {whole inner after : List Token} {checked : Checked} {error : ParseError}
      {log : List Event} (admissible : checked.Admissible limit depth)
      (split : checked.tokens ++ .openParen :: (inner ++ .closeParen :: after) = whole)
      (balanced : IsBalanced inner) (nonempty : inner ≠ []) (within : depth + 1 ≤ limit)
      (failed : Outcome limit (depth + 1) inner (.error error) log) :
      Outcome limit depth whole (.error error)
        (checked.events depth ++ .group (text inner) (depth + 1) :: log)

/-- What is read from nonempty tokens is a span. -/
theorem Outcome.exists_span {limit depth : Nat} {tokens : List Token} {expr : Expr}
    {log : List Event} (outcome : Outcome limit depth tokens (.ok expr) log)
    (nonempty : tokens ≠ []) :
    ∃ span : Span, span.WellFormed ∧ depth + span.depth ≤ limit ∧ span.tokens = tokens ∧
      span.expr = expr ∧ span.events depth = log := by
  cases outcome with
  | empty => exact absurd rfl nonempty
  | accepted span wellFormed within => exact ⟨span, wellFormed, within, rfl, rfl, rfl⟩

/-- What is read of a whole text is a source. -/
theorem Outcome.exists_source {limit : Nat} {tokens : List Token} {expr : Expr} {log : List Event}
    (outcome : Outcome limit 0 tokens (.ok expr) log) :
    ∃ source : Source, source.WellFormed ∧ source.depth ≤ limit ∧ source.tokens = tokens ∧
      source.expr = expr ∧ source.events = log := by
  cases outcome with
  | empty => exact ⟨.empty, trivial, Nat.zero_le _, rfl, rfl, rfl⟩
  | accepted span wellFormed within =>
      exact ⟨.written span, wellFormed, by rwa [Nat.zero_add] at within, rfl, rfl, rfl⟩

/-! ### Every reading ends in one of these ways -/

/-- A computation that goes on from some progress ends in an outcome of the whole span. -/
def Explained (limit depth : Nat) (whole : List Token) (progress : Progress)
    (computation : Logged ParseError Expr) : Prop :=
  ∃ outcome log, computation = ending outcome log ∧
    Outcome limit depth whole outcome (progress.checked.events depth ++ log)

section Explained

variable {limit depth : Nat} {whole rest : List Token} {progress : Progress}

theorem explained_of_problem {error : ParseError} {log : List Event}
    {computation : Logged ParseError Expr} (admissible : progress.checked.Admissible limit depth)
    (split : progress.tokens ++ rest = whole)
    (problem : Problem limit depth (text whole) progress rest error log)
    (stops : computation = ending (.error error) log) :
    Explained limit depth whole progress computation :=
  ⟨_, _, stops, .rejected admissible split problem⟩

/-- Events reported on the way to further progress belong to that progress. -/
theorem Explained.after {next : Progress} {log : List Event}
    {computation : Logged ParseError Expr}
    (explained : Explained limit depth whole next computation)
    (reported : next.checked.events depth = progress.checked.events depth ++ log) :
    Explained limit depth whole progress (Logged.after log computation) := by
  obtain ⟨outcome, rest, rfl, holds⟩ := explained
  refine ⟨outcome, log ++ rest, by simp, ?_⟩
  rw [← List.append_assoc, ← reported]
  exact holds

/-- A number that has been settled makes the span longer by a factor. -/
theorem Lead.admissible_number {lead : Lead} {run : List Char}
    (admissible : (Checked.due lead).Admissible limit depth) (genuine : (Token.number run).Genuine)
    (valid : (Decimal.ofChars? (literalChars lead.isStart run)).isSome) :
    (lead.add (.number run)).WellFormed ∧ depth + (lead.add (.number run)).depth ≤ limit := by
  constructor
  · exact Lead.wellFormed_add.mpr ⟨admissible.wellFormed, numberRun_iff.mpr ⟨genuine, valid⟩⟩
  · rw [Lead.depth_add, Factor.depth, Nat.max_zero]
    exact admissible.within

theorem Lead.events_add_number (lead : Lead) (run : List Char) :
    (lead.add (.number run)).events depth = lead.events depth ++ lead.folding := by
  rw [Lead.events_add, Factor.events, List.append_nil]

/-- At its end a span is complete, or an operand is missing or wrong. -/
theorem explained_close (admissible : progress.checked.Admissible limit depth)
    (genuine : ∀ run ∈ progress.digits, (Token.number run).Genuine)
    (split : progress.tokens = whole) :
    Explained limit depth whole progress (progress.reading.close whole) := by
  have splitNil : progress.tokens ++ [] = whole := by rw [List.append_nil, split]
  obtain ⟨checked, digits⟩ := progress
  cases digits with
  | none =>
      cases checked with
      | closed lead inner =>
          obtain ⟨wellFormed, within⟩ := admissible
          refine ⟨_, [], close_eq_ok whole (settle_absent whole rfl) (Span.close_openSpan _), ?_⟩
          rw [List.append_nil, ← split]
          exact .accepted (lead.add (.group inner)) wellFormed within
      | due lead =>
          by_cases begun : lead = .start
          · subst begun
            subst split
            exact ⟨.ok Source.empty.expr, [], close_eq_ok _ (settle_start _) rfl, .empty⟩
          · exact explained_of_problem admissible splitNil (.missingOperand begun .stop)
              (close_eq_missingOperand whole
                (settle_absent whole (Lead.pending_of_ne_start begun)) lead.close_openSpan)
  | some run =>
      cases valid : Decimal.ofChars? (literalChars checked.isStart run) with
      | none =>
          exact explained_of_problem admissible splitNil (.invalidNumber valid .stop)
            (close_eq_error whole (checked.settle_invalid whole valid))
      | some decimal =>
          have isSome := Option.isSome_of_eq_some valid
          cases checked with
          | closed lead before =>
              exact explained_of_problem admissible splitNil (.numberBehindGroup isSome .stop)
                (close_eq_error whole (Checked.settle_stray whole lead before isSome))
          | due lead =>
              obtain ⟨wellFormed, within⟩ :=
                Lead.admissible_number admissible (genuine run rfl) isSome
              refine ⟨_, _, close_eq_ok whole (lead.settle_number whole isSome)
                (Span.close_openSpan _), ?_⟩
              have spells : whole = (lead.add (.number run)).tokens := by
                rw [← split, Lead.tokens_add]; rfl
              rw [spells]
              exact (lead.events_add_number run) ▸ .accepted _ wellFormed within

/-- An operator leads to the next operand, or shows that the one before is missing or
wrong. -/
theorem explained_operator {op : Operator}
    (admissible : progress.checked.Admissible limit depth)
    (genuine : ∀ run ∈ progress.digits, (Token.number run).Genuine)
    (split : progress.tokens ++ .operator op :: rest = whole)
    (next : ∀ lead : Lead, (Checked.due lead).Admissible limit depth →
      lead.tokens ++ rest = whole →
      Explained limit depth whole ⟨.due lead, none⟩
        (readSpan limit depth whole lead.reading rest)) :
    Explained limit depth whole progress (do
      let reading ← progress.reading.addOperator whole op
      readSpan limit depth whole reading rest) := by
  obtain ⟨checked, digits⟩ := progress
  -- Behind a factor that has been taken in, the operator makes the span a lead.
  have goOn : ∀ (lead : Lead) (factor : Factor) (log : List Event),
      (lead.add factor).WellFormed → depth + (lead.add factor).depth ≤ limit →
      (lead.add factor).tokens ++ .operator op :: rest = whole →
      (lead.add factor).events depth = checked.events depth ++ log →
      Explained limit depth whole ⟨checked, digits⟩ (Logged.after log
        (readSpan limit depth whole (Lead.behind (lead.add factor) op).reading rest)) := by
    intro lead factor log wellFormed within splitHere reported
    refine (next (.behind (lead.add factor) op) ⟨wellFormed, within⟩ ?_).after reported
    rw [Lead.tokens, List.append_assoc]
    exact splitHere
  cases digits with
  | none =>
      cases checked with
      | closed lead inner =>
          obtain ⟨wellFormed, within⟩ := admissible
          simp only [Progress.reading, Checked.reading]
          rw [lead.addOperator_taken whole (.group inner) op (by simp) (settle_absent whole rfl),
            ending_ok_bind]
          exact goOn lead (.group inner) [] wellFormed within split (by simp [Checked.events])
      | due lead =>
          by_cases begun : lead = .start
          · subst begun
            cases multiplicative : op.isMultiplicative with
            | true =>
                refine explained_of_problem admissible split (.leadingOperator multiplicative) ?_
                simp only [Progress.reading, Checked.reading]
                rw [addOperator_start whole multiplicative, ending_error_bind]
            | false =>
                simp only [Progress.reading, Checked.reading]
                rw [Lead.addOperator_sign whole multiplicative, ending_ok_bind]
                exact (next (.sign op) ⟨multiplicative, admissible.within⟩ split).after (by
                  simp [Checked.events, Lead.events])
          · have absent := Lead.pending_of_ne_start begun
            refine explained_of_problem admissible split
              (.missingOperand begun (.operator op rest)) ?_
            simp only [Progress.reading, Checked.reading]
            rw [addOperator_eq_missingOperand whole (fun leading => by simp [absent] at leading)
              (settle_absent whole absent) (lead.addOperator_openSpan_eq_error op),
              ending_error_bind]
            rfl
  | some run =>
      have notStart := checked.pending_addDigits run
      cases valid : Decimal.ofChars? (literalChars checked.isStart run) with
      | none =>
          refine explained_of_problem admissible split (.invalidNumber valid (.operator op rest)) ?_
          simp only [Progress.reading]
          rw [addOperator_eq_error whole (fun leading => absurd leading notStart)
            (checked.settle_invalid whole valid), ending_error_bind]
      | some decimal =>
          have isSome := Option.isSome_of_eq_some valid
          cases checked with
          | closed lead before =>
              refine explained_of_problem admissible split
                (.numberBehindGroup isSome (.operator op rest)) ?_
              simp only [Progress.reading]
              rw [addOperator_eq_error whole (fun leading => absurd leading notStart)
                (Checked.settle_stray whole lead before isSome), ending_error_bind]
          | due lead =>
              obtain ⟨wellFormed, within⟩ :=
                Lead.admissible_number admissible (genuine run rfl) isSome
              simp only [Progress.reading, Checked.reading] at notStart ⊢
              rw [lead.addOperator_taken whole (.number run) op notStart
                (lead.settle_number whole isSome), ending_ok_bind]
              exact goOn lead (.number run) lead.folding wellFormed within
                (by simpa [Factor.tokens, Progress.tokens, Checked.tokens] using split)
                (lead.events_add_number run)

/-- A group is read as a span of its own, and its tree is the next operand. -/
theorem explained_group {inner after : List Token}
    (admissible : progress.checked.Admissible limit depth)
    (balanced : IsBalanced inner)
    (split : progress.tokens ++ .openParen :: (inner ++ .closeParen :: after) = whole)
    (inside : depth + 1 ≤ limit →
      Explained limit (depth + 1) inner ⟨.due .start, none⟩
        (readSpan limit (depth + 1) inner {} inner))
    (next : ∀ (lead : Lead) (span : Span), (Checked.closed lead span).Admissible limit depth →
      (Checked.closed lead span).tokens ++ after = whole →
      Explained limit depth whole ⟨.closed lead span, none⟩
        (readSpan limit depth whole (lead.taken (.group span)) after)) :
    Explained limit depth whole progress (do
      progress.reading.enterGroup whole limit (depth + 1) inner
      let operand ← readSpan limit (depth + 1) inner {} inner
      let reading ← progress.reading.leaveGroup whole inner operand
      readSpan limit depth whole reading after) := by
  by_cases empty : inner = []
  · subst empty
    refine explained_of_problem admissible split .emptyGroup ?_
    rw [enterGroup_empty, ending_error_bind, progress.position_reading]
  obtain ⟨checked, _ | run⟩ := progress
  case neg.some =>
    have written := Progress.isWritten_reading ⟨checked, some run⟩
    refine explained_of_problem admissible split (.groupBehindNumber balanced empty) ?_
    rw [enterGroup_written whole limit (depth + 1) empty written, ending_error_bind,
      Progress.position_reading]
  case neg.none =>
    have notWritten := Progress.isWritten_reading ⟨checked, none⟩
    by_cases within : depth + 1 ≤ limit
    case neg =>
      have beyond : limit < depth + 1 := Nat.lt_of_not_le within
      refine explained_of_problem admissible split (.tooDeep balanced empty beyond) ?_
      rw [enterGroup_tooDeep whole empty notWritten beyond, ending_error_bind]
    case pos =>
      obtain ⟨outcome, log, reads, holds⟩ := inside within
      have holds : Outcome limit (depth + 1) inner outcome log := holds
      rw [enterGroup_ok whole empty notWritten within, ending_ok_bind, reads]
      cases outcome with
      | error error =>
          refine ⟨.error error, .group (text inner) (depth + 1) :: log, by simp, ?_⟩
          exact .nested admissible split balanced empty within holds
      | ok operand =>
          obtain ⟨span, wellFormed, spanWithin, rfl, rfl, rfl⟩ := holds.exists_span empty
          cases checked with
          | closed lead before =>
              refine explained_of_problem admissible split
                (.groupBehindGroup wellFormed spanWithin) ?_
              have refused := Checked.leaveGroup_closed whole lead before span.tokens span.expr
              simp only [Progress.reading, ending_ok_bind, refused]
              simp
          | due lead =>
              have leaves := lead.leaveGroup_eq whole span
              simp only [Progress.reading, Checked.reading, ending_ok_bind, leaves]
              rw [after_after, after_after]
              refine (next lead span ⟨?_, ?_⟩ ?_).after ?_
              · exact Lead.wellFormed_add.mpr ⟨admissible.wellFormed, wellFormed⟩
              · have leadWithin : depth + lead.depth ≤ limit := admissible.within
                rw [Checked.depth, Lead.depth_add, Factor.depth]
                omega
              · simpa [Checked.tokens, Factor.tokens, Progress.tokens] using split
              · simp [Checked.events, Lead.events_add, Factor.events]

end Explained

/-- Reading on from any progress ends in one of the outcomes of the span. -/
theorem explained_readSpan {limit depth : Nat} {whole rest : List Token} (progress : Progress)
    (canonical : Canonical whole) (admissible : progress.checked.Admissible limit depth)
    (split : progress.tokens ++ rest = whole) :
    Explained limit depth whole progress (readSpan limit depth whole progress.reading rest) := by
  induction size : rest.length using Nat.strong_induction_on
    generalizing depth whole rest progress with
  | h size inductionHypothesis =>
      subst size
      have genuine : ∀ run ∈ progress.digits, (Token.number run).Genuine := by
        obtain ⟨checked, _ | pendingRun⟩ := progress
        · simp
        · rintro run ⟨⟩
          exact canonical.genuine _ (by simp [← split, Progress.tokens])
      cases rest with
      | nil =>
          rw [readSpan]
          exact explained_close admissible genuine (by simpa using split)
      | cons token rest =>
          cases token with
          | number run =>
              obtain ⟨checked, _ | pendingRun⟩ := progress
              · rw [readSpan]
                exact inductionHypothesis rest.length (by simp) ⟨checked, some run⟩
                  canonical admissible (by simpa [Progress.tokens] using split) rfl
              · -- A canonical list has no run behind a run.
                have meets : Canonical ([.number pendingRun] ++ .number run :: rest) :=
                  canonical.infix ⟨checked.tokens, [], by simpa [Progress.tokens] using split⟩
                exact absurd ⟨rfl, rfl⟩ ((canonical_append.mp meets).2.2 _ rfl _ rfl)
          | operator op =>
              rw [readSpan]
              exact explained_operator admissible genuine split fun lead admissible split =>
                inductionHypothesis rest.length (by simp) ⟨.due lead, none⟩
                  canonical admissible split rfl
          | openParen =>
              rw [readSpan]
              split
              · next inner after found =>
                  have shorter := length_lt_of_enclosed?_eq_some found
                  obtain ⟨balanced, rfl⟩ := enclosed?_eq_some_iff.mp found
                  refine explained_group admissible balanced split (fun within => ?_)
                    fun lead span admissible split => ?_
                  · have part : Canonical inner := canonical.infix
                      ⟨progress.tokens ++ [.openParen], .closeParen :: after, by simpa using split⟩
                    exact inductionHypothesis inner.length (Nat.lt_succ_of_lt shorter.1)
                      ⟨.due .start, none⟩ part ⟨trivial, within⟩ rfl rfl
                  · exact inductionHypothesis after.length (Nat.lt_succ_of_lt shorter.2)
                      ⟨.closed lead span, none⟩ canonical admissible split rfl
              · next unpaired =>
                  exact explained_of_problem admissible split (.unclosed unpaired) (by simp)
          | closeParen =>
              rw [readSpan]
              exact explained_of_problem admissible split .unopened (by simp)
          | unknown character =>
              rw [readSpan]
              exact explained_of_problem admissible split .unrecognized (by simp)

/-- The reading of a span from its start ends in one of its outcomes. -/
theorem exists_outcome (limit depth : Nat) {tokens : List Token} (canonical : Canonical tokens)
    (within : depth ≤ limit) :
    ∃ outcome log, readSpan limit depth tokens {} tokens = ending outcome log ∧
      Outcome limit depth tokens outcome log :=
  explained_readSpan ⟨.due .start, none⟩ canonical ⟨trivial, within⟩ rfl

end Calculator
