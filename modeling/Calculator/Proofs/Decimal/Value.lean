import Calculator.Proofs.Binary64
import Calculator.Proofs.Decimal.Validity

/-!
# Values of number texts

What a text of digits and points is read as has no sign, and a zero in front of it makes no
difference to it.
-/

namespace Calculator

/-- What characters are read as has no sign. -/
theorem isUnsigned_numberValue (characters : List Char) :
    Binary64.IsUnsigned (numberValue characters) := by
  rw [numberValue]
  split
  · exact Binary64.isUnsigned_toFloat (Binary64.nearest_le_infinity _ _)
  · exact .inl rfl

namespace Decimal

/-- A zero in front of digits is not seen in their number. -/
theorem ofDigits_cons_zero (row : List Char) : ofDigits ('0' :: row) = ofDigits row := by
  rfl

/-- A zero in front of a text that is read as a decimal is not seen in the decimal. -/
theorem ofChars?_cons_zero {run : List Char} (valid : (ofChars? run).isSome) :
    ofChars? ('0' :: run) = ofChars? run := by
  have notPoint : ('0' != '.') = true := rfl
  have isDigit : ('0' : Char).isDigit = true := rfl
  simp only [ofChars?, List.takeWhile_cons, List.dropWhile_cons, notPoint, if_true,
    List.cons_append] at valid ⊢
  -- Only the row of digits is longer; its length behind the point is the same.
  generalize run.takeWhile (· != '.') ++ (run.dropWhile (· != '.')).drop 1 = row at valid ⊢
  cases refused : row.isEmpty || row.any (! ·.isDigit) with
  | true => simp [refused] at valid
  | false =>
      rw [Bool.or_eq_false_iff] at refused
      simp only [List.isEmpty_cons, List.any_cons, isDigit, refused, Bool.not_true, Bool.or_false,
        Bool.false_eq_true, if_false, ofDigits_cons_zero]

/-- Of two zeros in front of a text, one makes no difference, whether or not the text is read. -/
theorem ofChars?_cons_zero_zero (run : List Char) :
    ofChars? ('0' :: '0' :: run) = ofChars? ('0' :: run) := by
  have notPoint : ('0' != '.') = true := rfl
  have isDigit : ('0' : Char).isDigit = true := rfl
  simp [ofChars?, ofDigits_cons_zero, notPoint, isDigit]

/-- Two points are not part of one number. -/
theorem ofChars?_eq_none_of_points {run : List Char}
    (numeric : ∀ character ∈ run, Token.isNumeric character) (points : 2 ≤ run.count '.') :
    ofChars? run = none := by
  rw [← Option.not_isSome_iff_eq_none, isSome_ofChars?_iff numeric]
  rintro ⟨onePoint, -⟩
  omega

end Decimal

/-- A zero in front of a run that may be written for a number is not seen in its value. -/
theorem numberValue_cons_zero {run : List Char} (isRun : NumberRun false run) :
    numberValue ('0' :: run) = numberValue run := by
  have valid : (Decimal.ofChars? run).isSome := (numberRun_iff.mp isRun).2
  rw [numberValue, numberValue, Decimal.ofChars?_cons_zero valid]

end Calculator
