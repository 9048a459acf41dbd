import Calculator.Proofs.Parse.Acceptance

/-!
# Outcomes are what is read

The rules of `Outcome` describe reading exactly: not only does each reading end in one of
them, each of them is also what reading ends in. A reading gets to the place of a problem
because everything before it may be read whatever follows, and is stopped there. So results of
reading may be found by putting rules together.
-/

namespace Calculator

open Logged Token

variable {limit depth : Nat}

/-- A span is read up to any place that the rules speak of, whatever follows. -/
theorem reads_progress {progress : Progress}
    (admissible : progress.checked.Admissible limit depth) :
    Reads limit depth progress := by
  have ofChecked : Reads limit depth ⟨progress.checked, none⟩ := by
    obtain ⟨checked, digits⟩ := progress
    cases checked with
    | due lead => exact reads_lead admissible.wellFormed admissible.within
    | closed lead inner =>
        have reads := reads_span admissible.wellFormed admissible.within
        rwa [Lead.progress_add] at reads
  obtain ⟨checked, _ | run⟩ := progress
  · exact ofChecked
  · exact ofChecked.number run

section Stops

variable {whole rest : List Token} {progress : Progress} {error : ParseError} {log : List Event}

/-- Where an operand ends, what cannot be settled stops the reading. -/
theorem EndsOperand.stops {reading : Reading} (follows : EndsOperand rest)
    (notStart : reading.pending ≠ .unwrittenZero)
    (settles : reading.settle whole = ending (.error error) []) :
    readSpan limit depth whole reading rest = ending (.error error) [] := by
  cases follows with
  | stop => rw [readSpan, close_eq_error whole settles]
  | operator op rest =>
      rw [readSpan, addOperator_eq_error whole (fun leading => absurd leading notStart) settles,
        ending_error_bind]

/-- A problem stops the reading. -/
theorem Problem.stops (problem : Problem limit depth (text whole) progress rest error log) :
    readSpan limit depth whole progress.reading rest = ending (.error error) log := by
  cases problem with
  | leadingOperator multiplicative =>
      rw [readSpan, Progress.reading_checked, Checked.reading_due,
        addOperator_start whole multiplicative, ending_error_bind]
  | @missingOperand lead rest begun follows =>
      have absent := Lead.pending_of_ne_start begun
      have settles : lead.reading.settle whole = ending (.ok lead.reading) [] :=
        settle_absent whole absent
      cases follows with
      | stop =>
          rw [readSpan]
          exact close_eq_missingOperand whole settles lead.close_openSpan
      | operator op rest =>
          rw [readSpan, Progress.reading_checked, Checked.reading_due,
            addOperator_eq_missingOperand whole (fun leading => by simp [absent] at leading)
              settles (lead.addOperator_openSpan_eq_error op), ending_error_bind]
          rfl
  | @invalidNumber checked run rest invalid follows =>
      exact follows.stops (checked.pending_addDigits run) (checked.settle_invalid whole invalid)
  | @numberBehindGroup lead before run rest valid follows =>
      exact follows.stops (Checked.pending_addDigits _ run)
        (Checked.settle_stray whole lead before valid)
  | @groupBehindNumber checked run inner after balanced nonempty =>
      have written := Progress.isWritten_reading ⟨checked, some run⟩
      rw [readSpan_group _ balanced, enterGroup_written whole limit (depth + 1) nonempty written,
        ending_error_bind, Progress.position_reading]
  | @groupBehindGroup lead before inner after wellFormed within =>
      have notWritten := Progress.isWritten_reading ⟨.closed lead before, none⟩
      rw [readSpan_group _ inner.isBalanced_tokens,
        enterGroup_ok whole inner.tokens_ne_nil notWritten (by omega), ending_ok_bind,
        readSpan_eq_ok wellFormed within, ending_ok_bind, Progress.reading_checked,
        Checked.leaveGroup_closed, ending_error_bind, after_ending, after_ending]
      simp
  | emptyGroup =>
      rw [← List.nil_append (closeParen :: _), readSpan_group _ (isBalanced_iff_nesting.mpr rfl),
        enterGroup_empty, ending_error_bind, Progress.position_reading]
  | @tooDeep checked inner after balanced nonempty beyond =>
      have notWritten := Progress.isWritten_reading ⟨checked, none⟩
      rw [readSpan_group _ balanced, enterGroup_tooDeep whole nonempty notWritten beyond,
        ending_error_bind]
  | unclosed unpaired =>
      rw [readSpan]
      split
      · next found => cases found.symm.trans unpaired
      · rw [Progress.position_reading, throw_eq_ending]
  | unopened => rw [readSpan, Progress.position_reading, throw_eq_ending]
  | unrecognized => rw [readSpan, Progress.position_reading, throw_eq_ending]

end Stops

/-- What the rules say comes out. -/
theorem Outcome.reads {tokens : List Token} {outcome : Except ParseError Expr} {log : List Event}
    (holds : Outcome limit depth tokens outcome log) :
    readSpan limit depth tokens {} tokens = ending outcome log := by
  induction holds with
  | empty =>
      rw [readSpan]
      exact close_eq_ok [] (settle_start []) rfl
  | accepted span wellFormed within => exact readSpan_eq_ok wellFormed within span.tokens
  | @rejected depth whole rest progress error log admissible split problem =>
      have reads := reads_progress admissible whole rest
      rw [split, problem.stops, after_ending] at reads
      exact reads
  | @nested depth whole inner after checked error log admissible split balanced nonempty within _
      inductionHypothesis =>
      have notWritten := Progress.isWritten_reading ⟨checked, none⟩
      have readsChecked : Reads limit depth ⟨checked, none⟩ := reads_progress admissible
      have reads := readsChecked whole (.openParen :: (inner ++ .closeParen :: after))
      rw [readSpan_group _ balanced, enterGroup_ok whole nonempty notWritten within,
        ending_ok_bind, inductionHypothesis, ending_error_bind, after_ending, after_ending,
        Progress.tokens_checked, split] at reads
      exact reads

/-- The reading of a span ends in a way exactly if the rules say so. -/
theorem readSpan_eq_ending_iff {tokens : List Token} {outcome : Except ParseError Expr}
    {log : List Event} (canonical : Canonical tokens) (within : depth ≤ limit) :
    readSpan limit depth tokens {} tokens = ending outcome log ↔
      Outcome limit depth tokens outcome log := by
  constructor
  · intro reads
    obtain ⟨outcome', log', reads', holds⟩ := exists_outcome limit depth canonical within
    obtain ⟨rfl, rfl⟩ := ending_inj.mp (reads.symm.trans reads')
    exact holds
  · exact Outcome.reads

/-- A text is refused with an error exactly if the rules say so. -/
theorem parse_eq_error_iff {settings : Settings} {text : String} {error : ParseError} :
    (parse settings text).result = .error error ↔
      ∃ log, Outcome settings.maxDepth 0 (tokenize text) (.error error) log := by
  constructor
  · exact outcome_of_parse_eq_error
  · rintro ⟨log, holds⟩
    rw [parse_eq_ending holds.reads, result_ending]

end Calculator
