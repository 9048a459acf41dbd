import Calculator.Calculate
import Calculator.Proofs.Evaluate.Precedence
import Calculator.Proofs.Parse.Acceptance

/-!
# Values of texts

From a text to its value: the text is read as the tree of a written expression, and the
tree is evaluated as that expression is by the rules of precedence.
-/

namespace Calculator

open Logged

variable {settings : Settings}

/-- The text of a well-formed source within the limit is read and then evaluated by the
operations of that source. -/
theorem calculate_text {source : Source} (wellFormed : source.WellFormed)
    (within : source.depth ≤ settings.maxDepth) :
    calculate settings source.text =
      after (source.events ++ [.parsed source.text source.expr])
        (EStateM.adaptExcept .evaluation
          (carryOut settings.division source.operations (pure source.value))) := by
  rw [calculate, parse_text wellFormed within, adaptExcept_ending_ok, ending_ok_bind,
    source.computes settings.division]

theorem result_calculate_text {source : Source} (wellFormed : source.WellFormed)
    (within : source.depth ≤ settings.maxDepth) :
    (calculate settings source.text).result =
      if settings.division = .reject ∧
          ∃ operation ∈ source.operations, operation.isDivisionByZero then
        .error (.evaluation .divisionByZero)
      else .ok source.value := by
  rw [calculate_text wellFormed within, pure_eq_ending, carryOut_eq]
  split
  · rw [adaptExcept_ending, after_ending, result_ending]
    rfl
  · rw [adaptExcept_ending, after_ending, result_ending]
    rfl

/-- A text that is read is the text of an expression, and its value is the value of any
such expression by the rules of precedence. Where divisions by zero are refused, there is
no value exactly if one of the operations that lead to it is such a division. -/
theorem calculate_eq_precedence (settings : Settings) (text : String)
    (isRead : ∃ expr, (parse settings text).result = .ok expr) :
    (∃ source : Source, source.WellFormed ∧ source.text = text) ∧
      ∀ source : Source, source.WellFormed → source.text = text →
        (calculate settings text).result =
          if settings.division = .reject ∧
              ∃ operation ∈ source.operations, operation.isDivisionByZero then
            .error (.evaluation .divisionByZero)
          else .ok source.value := by
  obtain ⟨expr, parsed⟩ := isRead
  constructor
  · obtain ⟨source, wellFormed, -, spells, -⟩ := exists_source_of_parse parsed
    exact ⟨source, wellFormed, spells⟩
  · rintro source wellFormed rfl
    refine result_calculate_text wellFormed (Nat.le_of_not_lt fun beyond => ?_)
    rw [parse_text_eq_nestingTooDeep wellFormed beyond] at parsed
    cases parsed

/-- A sign applies to the whole term behind it. -/
theorem calculate_eq_precedence_signed_product :
    (calculate {} "-2*3").result = .ok (0.0 - numberValue ['2'] * numberValue ['3'] + 0.0) := by
  have wellFormed : (Source.written (.signed .subtract
      (.product (.single (.number ['2'])) .multiply (.number ['3'])))).WellFormed :=
    ⟨rfl, numberRun_digit false rfl, rfl, numberRun_digit false rfl⟩
  have isRead : ∃ expr, (parse {} "-2*3").result = .ok expr :=
    ⟨_, congrArg Logged.result (parse_text wellFormed (by decide))⟩
  exact (calculate_eq_precedence {} "-2*3" isRead).2 _ wellFormed rfl

end Calculator
