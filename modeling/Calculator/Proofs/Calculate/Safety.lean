import Calculator.Proofs.Calculate
import Calculator.Proofs.Evaluate.Malformed
import Calculator.Proofs.Grammar.Shape
import Calculator.Proofs.Parse.Trace

/-!
# Trees of texts are never malformed

Every span of a tree that was read has one element more than operators, so evaluating it ends
in a value or, where these are refused, in a division by zero. `CalculationOutcome` lists how a
calculation ends, and `exists_calculation` says that there is no other way and that no way
reports a warning.
-/

namespace Calculator

open Logged

variable {settings : Settings} {text : String}

/-! ### Reading reports no warning -/

theorem Event.IsOfSpan.level_ne_warn {low high : Nat} {event : Event}
    (isOfSpan : event.IsOfSpan low high) : event.level ≠ .warn := by
  cases event with
  | malformed => cases isOfSpan
  | _ => exact Level.noConfusion

/-- Reading a text reports no warning. -/
theorem exists_parse_noWarning (settings : Settings) (text : String) :
    ∃ outcome log, parse settings text = ending outcome log ∧ NoWarning log := by
  obtain ⟨outcome, log, reads, holds⟩ := exists_parse_outcome settings text
  have quiet : NoWarning log := fun event member =>
    (holds.isOfSpan_events event member).level_ne_warn
  refine ⟨outcome, _, reads, NoWarning.append_iff.mpr ⟨quiet, ?_⟩⟩
  cases outcome with
  | ok expr => exact NoWarning.cons_iff.mpr ⟨nofun, .nil⟩
  | error cause => exact .nil

/-! ### Evaluating a tree that was read -/

/-- The course of a tree that was read has a value. -/
theorem exists_outcome_of_parse {expr : Expr} (parsed : (parse settings text).result = .ok expr) :
    ∃ value, expr.course.outcome = .ok value := by
  obtain ⟨source, wellFormed, -, -, rfl⟩ := exists_source_of_parse parsed
  refine source.expr.exists_outcome_iff.mpr fun node member => ?_
  have shaped := Source.shaped_expr wellFormed node member
  cases node with
  | composite elements operators => exact Expr.Closed.counts shaped
  | _ => trivial

/-- A course with a value is carried out without a warning, to its value or to a division by zero
that is refused. -/
theorem Course.exists_perform {course : Course} {value : Float}
    (ends : course.outcome = .ok value) (policy : DivisionPolicy) :
    ∃ outcome log, course.perform policy = ending outcome log ∧ NoWarning log ∧
      (outcome = .ok value ∨ policy = .reject ∧ outcome = .error .divisionByZero) := by
  have reported := Operation.noWarning_events
  have hasValue : course.result = .ok value := result_eq_ok ends
  have quiet : course.warnings = [] := by rw [warnings, ends]
  rw [perform, hasValue, quiet, carryOut_eq]
  split
  · next divides => exact ⟨_, _, rfl, reported _, .inr ⟨divides.1, rfl⟩⟩
  · exact ⟨_, _, rfl, by simpa using reported _, .inl rfl⟩

/-! ### Calculations -/

/-- The ways in which the calculation of a text ends. -/
inductive CalculationOutcome (settings : Settings) (text : String) :
    Except CalculationError Float → Prop where
  | refused {cause : ParseError} (ofText : (parse settings text).result = .error cause) :
      CalculationOutcome settings text (.error (.parse cause))
  | value {expr : Expr} {value : Float} (ofText : (parse settings text).result = .ok expr)
      (ofTree : expr.course.outcome = .ok value) : CalculationOutcome settings text (.ok value)
  | division {expr : Expr} (ofText : (parse settings text).result = .ok expr)
      (rejects : settings.division = .reject) :
      CalculationOutcome settings text (.error (.evaluation .divisionByZero))

/-- Every calculation ends in one of these ways, without a warning. -/
theorem exists_calculation (settings : Settings) (text : String) :
    ∃ outcome log, calculate settings text = ending outcome log ∧ NoWarning log ∧
      CalculationOutcome settings text outcome := by
  obtain ⟨outcome, log, reads, quiet⟩ := exists_parse_noWarning settings text
  have ofText : (parse settings text).result = outcome := by rw [reads, result_ending]
  rw [calculate, reads, adaptExcept_ending]
  cases outcome with
  | error cause => exact ⟨_, log, ending_error_bind _ _ _, quiet, .refused ofText⟩
  | ok expr =>
      obtain ⟨value, ends⟩ := exists_outcome_of_parse ofText
      obtain ⟨outcome, log', performs, quiet', cases⟩ :=
        Course.exists_perform ends settings.division
      refine ⟨outcome.mapError .evaluation, log ++ log', ?_,
        NoWarning.append_iff.mpr ⟨quiet, quiet'⟩, ?_⟩
      · simp only [Except.mapError, ending_ok_bind]
        rw [Expr.evaluate_eq_perform, performs, adaptExcept_ending, after_ending]
        rfl
      · rcases cases with rfl | ⟨rejects, rfl⟩
        · exact .value ofText ends
        · exact .division ofText rejects

/-- The tree of a text is never refused as malformed, whatever limits it was read under and
whatever becomes of divisions by zero, and it has a value where these are carried out. So a
text that can be read can be calculated there, and any other text is refused for the reason it
cannot be read. The evaluation fails for nothing but a division by zero, and nothing is reported
as a warning. -/
theorem evaluate_of_parse_ne_malformed (text : String) :
    (∀ (reading evaluating : Settings) (expr : Expr), (parse reading text).result = .ok expr →
      (∀ elements operators, (expr.evaluate evaluating.division).result ≠
        .error (.malformedComposite elements operators)) ∧
      (evaluating.division = .ieee →
        ∃ value, (expr.evaluate evaluating.division).result = .ok value)) ∧
    ∀ settings : Settings,
      (settings.division = .ieee →
        ((∃ value, (calculate settings text).result = .ok value) ↔
          ∃ expr, (parse settings text).result = .ok expr) ∧
        ∀ cause, (parse settings text).result = .error cause →
          (calculate settings text).result = .error (.parse cause)) ∧
      (∀ cause, (calculate settings text).result = .error (.evaluation cause) →
        cause = .divisionByZero) ∧
      NoWarning (calculate settings text).events.toList := by
  constructor
  · intro reading evaluating expr parsed
    obtain ⟨value, ends⟩ := exists_outcome_of_parse parsed
    obtain ⟨outcome, log, performs, -, isValue | ⟨rejects, isDivision⟩⟩ :=
      Course.exists_perform ends evaluating.division
    · subst isValue
      rw [Expr.evaluate_eq_perform, performs, result_ending]
      exact ⟨fun _ _ => nofun, fun _ => ⟨value, rfl⟩⟩
    · subst isDivision
      rw [Expr.evaluate_eq_perform, performs, result_ending]
      exact ⟨fun _ _ => nofun, fun carriesOut => nomatch rejects.symm.trans carriesOut⟩
  · intro settings
    obtain ⟨outcome, log, calculates, quiet, ends⟩ := exists_calculation settings text
    rw [calculates, result_ending, events_ending]
    refine ⟨fun carriesOut => ?_, fun cause => ?_, quiet⟩
    · cases ends with
      | refused ofText => simp [ofText]
      | value ofText => simp [ofText]
      | division _ rejects => cases rejects.symm.trans carriesOut
    · cases ends with
      | refused => exact nofun
      | value => exact nofun
      | division => rintro ⟨⟩; rfl

/-- A quotient that was read where groups are allowed has a value, and where divisions by zero are
refused it fails for nothing else. -/
theorem evaluate_of_parse_ne_malformed_quotient :
    ∃ expr, (parse {} "(1)/0").result = .ok expr ∧
      (∀ elements operators,
        (expr.evaluate .reject).result ≠ .error (.malformedComposite elements operators)) ∧
      (∃ value, (calculate {} "(1)/0").result = .ok value) ∧
      ∀ cause, (calculate { division := .reject } "(1)/0").result = .error (.evaluation cause) →
        cause = .divisionByZero := by
  have wellFormed : (Source.written (.unsigned (.product
      (.single (.group (.unsigned (.single (.number ['1']))))) .divide
        (.number ['0'])))).WellFormed :=
    ⟨numberRun_digit true rfl, rfl, numberRun_digit false rfl⟩
  have isRead : ∃ expr, (parse {} "(1)/0").result = .ok expr :=
    ⟨_, congrArg Logged.result (parse_text wellFormed (by decide))⟩
  obtain ⟨ofTree, ofText⟩ := evaluate_of_parse_ne_malformed "(1)/0"
  obtain ⟨expr, parsed⟩ := isRead
  obtain ⟨succeeds, -⟩ := (ofText {}).1 rfl
  exact ⟨expr, parsed, (ofTree {} { division := .reject } expr parsed).1,
    succeeds.mpr ⟨expr, parsed⟩, (ofText { division := .reject }).2.1⟩

end Calculator
