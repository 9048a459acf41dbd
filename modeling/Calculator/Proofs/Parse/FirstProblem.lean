import Calculator.Proofs.Parse.Place
import Mathlib.Data.List.DropRight

/-!
# The first problem is reported

Reading never passes over a problem to report a later one, except within a number, which
is checked only where it ends. What stands before the position of an error, less a number
at its end, may be read as it is or with one more operand.
-/

namespace Calculator

open Token

/-- Characters that may be read as a text, if need be with one more operand. -/
def Completable (settings : Settings) (characters : List Char) : Prop :=
  (∃ expr, (parse settings (String.ofList characters)).result = .ok expr) ∨
    ∃ expr, (parse settings (String.ofList (characters ++ ['1']))).result = .ok expr

variable {settings : Settings}

theorem Span.exists_parse {span : Span} (wellFormed : span.WellFormed)
    (within : span.depth ≤ settings.maxDepth) :
    ∃ expr, (parse settings (String.ofList (span.tokens.flatMap chars))).result = .ok expr := by
  have wellFormed : (Source.written span).WellFormed := wellFormed
  exact ⟨span.expr, congrArg Logged.result (parse_text wellFormed within)⟩

/-- What has been taken in may be read where an operand is added that is due. -/
theorem Checked.completable {checked : Checked} {depth : Nat}
    (admissible : checked.Admissible settings.maxDepth depth) :
    Completable settings (checked.tokens.flatMap chars) := by
  obtain ⟨wellFormed, within⟩ := admissible
  cases checked with
  | closed lead inner => exact .inl (Span.exists_parse wellFormed (Nat.le_of_add_left_le within))
  | due lead =>
      have completed : (lead.add (.number ['1'])).WellFormed :=
        Lead.wellFormed_add.mpr ⟨wellFormed, numberRun_digit lead.isStart rfl⟩
      have deep : (lead.add (.number ['1'])).depth ≤ settings.maxDepth := by
        rw [Lead.depth_add, Factor.depth, Nat.max_zero]
        exact Nat.le_of_add_left_le within
      obtain ⟨expr, parsed⟩ := Span.exists_parse completed deep
      refine .inr ⟨expr, ?_⟩
      simpa [Factor.tokens, chars] using parsed

/-- Without the number at its end, what has been passed is what has been taken in. -/
theorem Checked.rdropWhile_chars (checked : Checked) {run : List Char}
    (numeric : ∀ character ∈ run, isNumeric character) :
    (checked.tokens.flatMap chars ++ run).rdropWhile isNumeric = checked.tokens.flatMap chars := by
  have passed : ∀ character ∈ run.reverse, isNumeric character := by simpa using numeric
  rw [List.rdropWhile, List.reverse_append, List.dropWhile_append_of_pos passed]
  refine List.rdropWhile_eq_self_iff.mpr fun nonempty isDigitOrPoint => ?_
  rw [checked.isNumeric_getLast _ (List.getLast?_eq_some_getLast nonempty)] at isDigitOrPoint
  cases isDigitOrPoint

theorem Progress.rdropWhile_chars (progress : Progress)
    (numeric : ∀ run ∈ progress.digits, ∀ character ∈ run, isNumeric character) :
    (progress.tokens.flatMap chars).rdropWhile isNumeric =
      progress.checked.tokens.flatMap chars := by
  obtain ⟨checked, _ | run⟩ := progress
  · have noDigits : ∀ character ∈ ([] : List Char), isNumeric character := by simp
    simpa using checked.rdropWhile_chars noDigits
  · simpa [chars] using checked.rdropWhile_chars (numeric run rfl)

/-- Before the position of an error, less a number at its end, there was no problem yet. -/
theorem completable_before_error (settings : Settings) (source : String) {error : ParseError}
    {expression : String} {index : Nat} (failed : (parse settings source).result = .error error)
    (hasExpression : error.expression? = some expression) (hasIndex : error.index? = some index) :
    ∃ before after, expression.toList = before ++ after ∧
      (String.ofList before).utf8ByteSize = index ∧
      Completable settings (before.rdropWhile isNumeric) := by
  obtain ⟨place⟩ := exists_place failed
  refine ⟨place.before, place.after, place.toList_expression hasExpression,
    place.utf8ByteSize_before hasIndex, ?_⟩
  rw [Place.before, place.spot.prior.rdropWhile_chars place.isNumeric_digits]
  exact Checked.completable place.spot.admissible

/-- Behind a group, a number lacks an operator; the group itself may be read. -/
theorem completable_before_error_number_behind_group :
    ∃ before after, "(1)+(2)3".toList = before ++ after ∧
      (String.ofList before).utf8ByteSize = 7 ∧
      Completable {} (before.rdropWhile isNumeric) := by
  have failed : (parse {} "(1)+(2)3").result = .error (.missingOperator 7 "(1)+(2)3") := by
    with_unfolding_all rfl
  exact completable_before_error {} "(1)+(2)3" failed rfl rfl

end Calculator
