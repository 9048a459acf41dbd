import Calculator.Proofs.Binary64.Alike
import Calculator.Proofs.Calculate.Safety
import Calculator.Proofs.Decimal.Value

/-!
# Zeros that change nothing

Every span is closed by adding zero, which changes negative zero and nothing else. A number that is
written has no sign, so a text that is nothing but a number has the value of that number. A span
that has been closed is no negative zero, so closing it again, as parentheses around it do, leaves
its value as it is.
-/

namespace Calculator

open Logged Token

variable {settings : Settings}

theorem Binary64.IsUnsigned.add_zero {value : Float} (isUnsigned : IsUnsigned value) :
    value + 0.0 = value :=
  add_zero_of_ne isUnsigned.ne_negativeZero

/-- A text that is refused has no value for the same reason. -/
theorem result_calculate_of_parse_eq_error {text : String} {cause : ParseError}
    (refused : (parse settings text).result = .error cause) :
    (calculate settings text).result = .error (.parse cause) := by
  obtain ⟨outcome, log, calculates, -, ends⟩ := exists_calculation settings text
  rw [calculates, result_ending]
  cases ends with
  | refused ofText =>
      cases refused.symm.trans ofText
      rfl
  | value ofText => cases refused.symm.trans ofText
  | division ofText => cases refused.symm.trans ofText

/-! ### Numbers by themselves -/

/-- A run that may be written for a number by itself has the value that it is read as behind an
unwritten zero. -/
theorem result_calculate_run {run : List Char} (isRun : NumberRun true run) :
    (calculate settings (String.ofList run)).result = .ok (numberValue ('0' :: run)) := by
  let source : Source := .written (.unsigned (.single (.number run)))
  have spells : source.text = String.ofList run := by
    simp [source, Source.text, Source.tokens, Span.tokens, Term.tokens, Factor.tokens, Token.text,
      chars]
  have noDivision : ¬ ∃ operation ∈ source.operations, operation.isDivisionByZero := by
    simp [source, Source.operations, Span.operations, Span.folds, Term.operations,
      Factor.operations, Operation.isDivisionByZero]
  have value : source.value = numberValue ('0' :: run) := (isUnsigned_numberValue _).add_zero
  have calculates := @result_calculate_text settings source isRun (Nat.zero_le _)
  rwa [spells, if_neg fun divides => noDivision divides.2, value] at calculates

/-- Digits and points are one token. -/
theorem tokenize_run {run : List Char} (written : run ≠ [])
    (numeric : ∀ character ∈ run, isNumeric character) :
    tokenize (String.ofList run) = [.number run] := by
  rw [tokenize, String.toList_ofList, tokenizeChars]
  exact foldr_push_run written numeric (by simp)

/-- Digits with two points are refused where they stand. -/
theorem result_parse_run_of_points {run : List Char}
    (numeric : ∀ character ∈ run, isNumeric character) (points : 2 ≤ run.count '.') :
    (parse settings (String.ofList run)).result =
      .error (.invalidNumber (String.ofList ('0' :: run)) 0 (String.ofList run)) := by
  have written : run ≠ [] := by
    rintro rfl
    simp at points
  have tokens := tokenize_run written numeric
  have spells : Token.text [.number run] = String.ofList run := by rw [← tokens, text_tokenize]
  have invalid : Decimal.ofChars? ('0' :: run) = none :=
    Decimal.ofChars?_eq_none_of_points (by simpa using ⟨rfl, numeric⟩) (by simpa using points)
  have admissible : (Checked.due .start).Admissible settings.maxDepth 0 :=
    ⟨trivial, Nat.zero_le _⟩
  have problem : Problem settings.maxDepth 0 (Token.text [.number run]) ⟨.due .start, some run⟩ []
      (.invalidNumber (String.ofList ('0' :: run)) 0 (Token.text [.number run])) [] :=
    .invalidNumber invalid .stop
  rw [parse_eq_error_iff, tokens, ← spells]
  exact ⟨_, .rejected admissible rfl problem⟩

/-- A text of digits and points is calculated as the number that it is read as. A point by itself
is zero, and with more than one point the text is refused as a whole, with the unwritten zero
in front of it. -/
theorem calculate_number (settings : Settings) {text : String} (nonempty : text ≠ "")
    (numeric : ∀ character ∈ text.toList, isNumeric character) :
    ((∃ character ∈ text.toList, character.isDigit) → text.toList.count '.' ≤ 1 →
      ∃ decimal, Decimal.ofChars? text.toList = some decimal ∧
        (calculate settings text).result = .ok decimal.toFloat) ∧
    (text = "." → (calculate settings text).result = .ok 0.0) ∧
    (2 ≤ text.toList.count '.' → (calculate settings text).result =
      .error (.parse (.invalidNumber ("0" ++ text) 0 text))) := by
  obtain ⟨run, rfl⟩ : ∃ run, text = String.ofList run := ⟨text.toList, String.ofList_toList.symm⟩
  rw [String.toList_ofList] at numeric ⊢
  have written : run ≠ [] := by
    rintro rfl
    exact nonempty rfl
  refine ⟨fun hasDigit onePoint => ?_, fun isPoint => ?_, fun points => ?_⟩
  · have isRun : NumberRun false run := ⟨written, numeric, onePoint, fun _ => hasDigit⟩
    have isFirstRun : NumberRun true run := ⟨written, numeric, onePoint, by simp⟩
    obtain ⟨decimal, read⟩ := Option.isSome_iff_exists.mp (numberRun_iff.mp isRun).2
    have read : Decimal.ofChars? run = some decimal := read
    refine ⟨decimal, read, ?_⟩
    rw [result_calculate_run isFirstRun, numberValue_cons_zero isRun, numberValue_of_ofChars? read]
  · have isRun : NumberRun true ['.'] := ⟨by simp, by simp [isNumeric], by simp, by simp⟩
    obtain rfl : run = ['.'] := by simpa using congrArg String.toList isPoint
    exact result_calculate_run isRun
  · have zero : "0" ++ String.ofList run = String.ofList ('0' :: run) := by
      rw [ofList_cons]
    rw [zero]
    exact result_calculate_of_parse_eq_error (result_parse_run_of_points numeric points)

/-- A fraction without a digit before its point is calculated, and a date is refused. -/
theorem calculate_number_fraction_and_date :
    (calculate {} ".25").result = .ok (Decimal.mk 25 (-2)).toFloat ∧
      (calculate {} "24.12.1").result =
        .error (.parse (.invalidNumber "024.12.1" 0 "24.12.1")) := by
  have ofFraction := @calculate_number {} ".25" (by decide) (by simp [isNumeric])
  have ofDate := @calculate_number {} "24.12.1" (by decide) (by simp [isNumeric])
  obtain ⟨decimal, read, calculates⟩ := ofFraction.1 ⟨'2', by simp, by decide⟩ (by decide)
  have isDecimal : Decimal.ofChars? ".25".toList = some ⟨25, -2⟩ := by decide
  obtain rfl : Decimal.mk 25 (-2) = decimal := Option.some.inj (isDecimal.symm.trans read)
  exact ⟨calculates, ofDate.2.2 (by decide)⟩

/-! ### Parentheses around a text -/

/-- A text in pairs of parentheses. -/
def parenthesized (count : Nat) (text : String) : String :=
  String.ofList (List.replicate count '(') ++ text ++ String.ofList (List.replicate count ')')

namespace Span

/-- A span whose only factor is a group. -/
def enclose (span : Span) : Span :=
  .unsigned (.single (.group span))

/-- A span in pairs of parentheses. -/
def enclosed (span : Span) : Nat → Span
  | 0 => span
  | count + 1 => (span.enclosed count).enclose

theorem wellFormed_enclosed {span : Span} (wellFormed : span.WellFormed) (count : Nat) :
    (span.enclosed count).WellFormed := by
  induction count with
  | zero => exact wellFormed
  | succ count inductionHypothesis => exact inductionHypothesis

theorem depth_enclosed (span : Span) (count : Nat) :
    (span.enclosed count).depth = span.depth + count := by
  induction count with
  | zero => rfl
  | succ count inductionHypothesis =>
      rw [enclosed, enclose, depth, Term.depth, Factor.depth, inductionHypothesis, Nat.add_assoc]

theorem text_enclosed (span : Span) (count : Nat) :
    Token.text (span.enclosed count).tokens = parenthesized count (Token.text span.tokens) := by
  induction count with
  | zero => simp [enclosed, parenthesized]
  | succ count inductionHypothesis =>
      have ofGroup : Token.text (span.enclosed (count + 1)).tokens =
          "(" ++ Token.text (span.enclosed count).tokens ++ ")" := by
        rw [enclosed, enclose, tokens, Term.tokens, Factor.tokens, text_append,
          ← List.singleton_append, text_append]
        rfl
      have opens : String.ofList (List.replicate (count + 1) '(') =
          "(" ++ String.ofList (List.replicate count '(') := by
        rw [List.replicate_succ, ofList_cons]
      have closes : String.ofList (List.replicate (count + 1) ')') =
          String.ofList (List.replicate count ')') ++ ")" := by
        rw [List.replicate_succ', String.ofList_append]
      rw [ofGroup, inductionHypothesis, parenthesized, parenthesized, opens, closes]
      simp only [String.append_assoc]

/-- A span that is closed again keeps its value. -/
theorem value_enclosed (span : Span) (count : Nat) : (span.enclosed count).value = span.value := by
  induction count with
  | zero => rfl
  | succ count inductionHypothesis =>
      have closed : (span.enclosed count).value ≠ -0.0 := Binary64.add_zero_ne_negativeZero _
      have again : (span.enclosed (count + 1)).value = (span.enclosed count).value + 0.0 := by
        rw [enclosed, enclose, value, total, Term.value, Factor.value_group]
        rfl
      rw [again, Binary64.add_zero_of_ne closed, inductionHypothesis]

/-- Closing a span again divides by nothing. -/
theorem divides_enclosed_iff (span : Span) (count : Nat) :
    (∃ operation ∈ (span.enclosed count).operations, operation.isDivisionByZero) ↔
      ∃ operation ∈ span.operations, operation.isDivisionByZero := by
  induction count with
  | zero => rfl
  | succ count inductionHypothesis =>
      rw [← inductionHypothesis, enclosed, enclose, operations, folds, Term.operations,
        Factor.operations_group]
      simp [or_and_right, exists_or, Operation.isDivisionByZero]

end Span

/-- Pairs of parentheses around a text that can be read make no difference to what it is calculated
as, if the limit allows for them: to its value, or to a division by zero that is refused. -/
theorem calculate_parenthesized (settings : Settings) {text : String} (nonempty : text ≠ "")
    (isRead : ∃ expr, (parse settings text).result = .ok expr) (count : Nat) :
    (∃ value, (calculate settings text).result = .ok value ∧
      (calculate { settings with maxDepth := settings.maxDepth + count }
        (parenthesized count text)).result = .ok value) ∨
    (calculate settings text).result = .error (.evaluation .divisionByZero) ∧
      (calculate { settings with maxDepth := settings.maxDepth + count }
        (parenthesized count text)).result = .error (.evaluation .divisionByZero) := by
  obtain ⟨expr, parsed⟩ := isRead
  obtain ⟨source, wellFormed, within, rfl, -⟩ := exists_source_of_parse parsed
  cases source with
  | empty => exact absurd rfl nonempty
  | written span =>
      let outer : Source := .written (span.enclosed count)
      have ofOuter : outer.WellFormed := Span.wellFormed_enclosed wellFormed count
      have fits : outer.depth ≤ settings.maxDepth + count := by
        have within : span.depth ≤ settings.maxDepth := within
        change (span.enclosed count).depth ≤ _
        rw [span.depth_enclosed]
        omega
      have spells : outer.text = parenthesized count (Source.written span).text :=
        span.text_enclosed count
      have calculates := result_calculate_text wellFormed within
      have calculates' := @result_calculate_text
        { settings with maxDepth := settings.maxDepth + count } outer ofOuter fits
      have value : outer.value = (Source.written span).value := span.value_enclosed count
      simp only [spells, value, outer, Source.operations, span.divides_enclosed_iff] at calculates'
      rw [calculates, calculates', Source.operations]
      by_cases refused : settings.division = .reject ∧
          ∃ operation ∈ span.operations, operation.isDivisionByZero
      · rw [if_pos refused]
        exact .inr ⟨rfl, rfl⟩
      · rw [if_neg refused]
        exact .inl ⟨_, rfl, rfl⟩

/-- A negative zero becomes positive where it is closed, and stays so in parentheses. -/
theorem calculate_parenthesized_product :
    ∃ value, (calculate { maxDepth := 1 } "(0-1)*0").result = .ok value ∧
      (calculate { maxDepth := 3 } "(((0-1)*0))").result = .ok value := by
  have wellFormed : (Source.written (.unsigned (.product
      (.single (.group (.sum (.unsigned (.single (.number ['0']))) .subtract
        (.single (.number ['1']))))) .multiply (.number ['0'])))).WellFormed :=
    ⟨⟨numberRun_digit true rfl, rfl, numberRun_digit false rfl⟩, rfl, numberRun_digit false rfl⟩
  have isRead : ∃ expr, (parse { maxDepth := 1 } "(0-1)*0").result = .ok expr :=
    ⟨_, congrArg Logged.result (parse_text wellFormed (by decide))⟩
  have succeeds : (calculate { maxDepth := 1 } "(0-1)*0").result = .ok _ :=
    (result_calculate_text wellFormed (by decide)).trans (if_neg fun refused => nomatch refused.1)
  rcases calculate_parenthesized { maxDepth := 1 } (by decide) isRead 2 with values | ⟨refused, -⟩
  · exact values
  · cases refused.symm.trans succeeds

end Calculator
