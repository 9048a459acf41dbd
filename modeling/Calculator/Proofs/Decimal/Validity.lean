import Calculator.Decimal.Basic
import Calculator.Proofs.Grammar.Syntax
import Mathlib.Data.List.TakeWhile

/-!
# Valid number texts

Among digits and points, exactly those with at most one point and at least one digit are
read as a number. Behind a zero the second condition is always met.
-/

namespace Calculator

namespace Decimal

private theorem passes_of_noPoint {whole : List Char} (noPoint : '.' ∉ whole) :
    ∀ character ∈ whole, (character != '.') = true := by
  intro character member
  simpa using fun isPoint : character = '.' => noPoint (isPoint ▸ member)

/-- Without a point, characters are read as they stand, if they are digits. -/
theorem ofChars?_whole {whole : List Char} (noPoint : '.' ∉ whole) :
    ofChars? whole =
      if whole.isEmpty || whole.any (! ·.isDigit) then none else some ⟨ofDigits whole, 0⟩ := by
  have passes := passes_of_noPoint noPoint
  have taken : whole.takeWhile (· != '.') = whole := List.takeWhile_eq_self_iff.mpr passes
  have dropped : whole.dropWhile (· != '.') = [] := List.dropWhile_eq_nil_iff.mpr passes
  simp [ofChars?, taken, dropped]

/-- The first point says how many of the characters are behind it. -/
theorem ofChars?_point {whole fraction : List Char} (noPoint : '.' ∉ whole) :
    ofChars? (whole ++ '.' :: fraction) =
      if (whole ++ fraction).isEmpty || (whole ++ fraction).any (! ·.isDigit) then none
      else some ⟨ofDigits (whole ++ fraction), -(fraction.length : Int)⟩ := by
  have passes := passes_of_noPoint noPoint
  have taken : (whole ++ '.' :: fraction).takeWhile (· != '.') = whole := by
    simp [List.takeWhile_append_of_pos passes]
  have dropped : (whole ++ '.' :: fraction).dropWhile (· != '.') = '.' :: fraction := by
    simp [List.dropWhile_append_of_pos passes]
  simp only [ofChars?, taken, dropped, List.drop_one, List.tail_cons]

/-- Without a point, a row of digits is read as a number. -/
theorem isSome_ofChars?_whole {whole : List Char} (noPoint : '.' ∉ whole) :
    (ofChars? whole).isSome ↔ whole ≠ [] ∧ ∀ character ∈ whole, character.isDigit := by
  simp [ofChars?_whole noPoint]

/-- Around its first point, a row of digits is read as a number. -/
theorem isSome_ofChars?_point {whole fraction : List Char} (noPoint : '.' ∉ whole) :
    (ofChars? (whole ++ '.' :: fraction)).isSome ↔
      whole ++ fraction ≠ [] ∧ ∀ character ∈ whole ++ fraction, character.isDigit := by
  simp [ofChars?_point noPoint, or_imp, forall_and]

/-- Among digits and points, a row of digits has no point and at least one digit. -/
theorem row_iff {row : List Char}
    (digitOrPoint : ∀ character ∈ row, character.isDigit = true ∨ character = '.') :
    (row ≠ [] ∧ ∀ character ∈ row, character.isDigit) ↔
      row.count '.' = 0 ∧ ∃ character ∈ row, character.isDigit := by
  rw [List.count_eq_zero]
  constructor
  · rintro ⟨written, digits⟩
    obtain ⟨first, member⟩ := List.exists_mem_of_ne_nil row written
    exact ⟨fun point => absurd (digits '.' point) (by decide), first, member, digits first member⟩
  · rintro ⟨noPoint, digit, member, _⟩
    refine ⟨List.ne_nil_of_mem member, fun character isIn => ?_⟩
    cases digitOrPoint character isIn with
    | inl isDigit => exact isDigit
    | inr isPoint => exact absurd (isPoint ▸ isIn) noPoint

/-- Digits and points are read as a number exactly if there is at most one point and at
least one digit. -/
theorem isSome_ofChars?_iff {run : List Char}
    (numeric : ∀ character ∈ run, Token.isNumeric character) :
    (ofChars? run).isSome ↔ run.count '.' ≤ 1 ∧ ∃ character ∈ run, character.isDigit := by
  have digitOrPoint : ∀ character ∈ run, character.isDigit = true ∨ character = '.' := by
    intro character member
    simpa [Token.isNumeric] using numeric character member
  by_cases point : '.' ∈ run
  · obtain ⟨whole, fraction, rfl, noPoint⟩ := List.eq_append_cons_of_mem point
    have wholeCount : whole.count '.' = 0 := List.count_eq_zero.mpr noPoint
    have pointIsNoDigit : ('.' : Char).isDigit = false := rfl
    rw [isSome_ofChars?_point noPoint, row_iff fun character member =>
      digitOrPoint character (by simp only [List.mem_append, List.mem_cons] at member ⊢; tauto)]
    have sameDigits : (∃ character ∈ whole ++ '.' :: fraction, character.isDigit) ↔
        ∃ character ∈ whole ++ fraction, character.isDigit := by
      simp [or_and_right, exists_or, pointIsNoDigit]
    rw [sameDigits, List.count_append, List.count_append, List.count_cons_self, wholeCount]
    exact and_congr_left fun _ => by omega
  · have noCount : run.count '.' = 0 := List.count_eq_zero.mpr point
    rw [isSome_ofChars?_whole point, row_iff digitOrPoint]
    simp [noCount]

end Decimal

/-- The characters that are read for a run: at the start of a span an unwritten zero
precedes it. -/
def literalChars (first : Bool) (run : List Char) : List Char :=
  if first then '0' :: run else run

/-- The number that characters are read as, if they are read as one. -/
def numberValue (characters : List Char) : Float :=
  match Decimal.ofChars? characters with
  | some decimal => decimal.toFloat
  | none => 0.0

theorem numberValue_of_ofChars? {characters : List Char} {decimal : Decimal}
    (read : Decimal.ofChars? characters = some decimal) :
    numberValue characters = decimal.toFloat := by
  simp [numberValue, read]

/-- The runs that may be written for a number are those that are read as one. -/
theorem numberRun_iff {first : Bool} {run : List Char} :
    NumberRun first run ↔
      (Token.number run).Genuine ∧ (Decimal.ofChars? (literalChars first run)).isSome := by
  constructor
  · rintro ⟨written, numeric, onePoint, hasDigit⟩
    refine ⟨⟨written, numeric⟩, ?_⟩
    cases first with
    | false =>
        exact (Decimal.isSome_ofChars?_iff numeric).mpr ⟨onePoint, hasDigit rfl⟩
    | true =>
        have zeroNumeric : ∀ character ∈ '0' :: run, Token.isNumeric character := by
          simpa using ⟨rfl, numeric⟩
        exact (Decimal.isSome_ofChars?_iff zeroNumeric).mpr
          ⟨by simpa using onePoint, '0', by simp, rfl⟩
  · rintro ⟨⟨written, numeric⟩, read⟩
    cases first with
    | false =>
        obtain ⟨onePoint, hasDigit⟩ := (Decimal.isSome_ofChars?_iff numeric).mp read
        exact ⟨written, numeric, onePoint, fun _ => hasDigit⟩
    | true =>
        have zeroNumeric : ∀ character ∈ '0' :: run, Token.isNumeric character := by
          simpa using ⟨rfl, numeric⟩
        obtain ⟨onePoint, _⟩ := (Decimal.isSome_ofChars?_iff zeroNumeric).mp read
        exact ⟨written, numeric, by simpa using onePoint, by simp⟩

/-- A run that is not read as a number has two points or lacks a digit that it needs. -/
theorem points_or_noDigit_of_ofChars?_eq_none {first : Bool} {run : List Char}
    (genuine : (Token.number run).Genuine)
    (invalid : Decimal.ofChars? (literalChars first run) = none) :
    2 ≤ run.count '.' ∨ first = false ∧ ∀ character ∈ run, character.isDigit = false := by
  by_contra! valid
  obtain ⟨onePoint, hasDigit⟩ := valid
  have isRun : NumberRun first run :=
    ⟨genuine.1, genuine.2, by omega, fun notFirst => by simpa using hasDigit notFirst⟩
  have read := (numberRun_iff.mp isRun).2
  simp [invalid] at read

end Calculator
