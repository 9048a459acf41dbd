import Calculator.Proofs.Token.Canonical

/-!
# The alphabet of expressions

The characters that expressions consist of are those that make known tokens. Each takes
one byte, so in front of an unknown character positions in bytes count characters, too.
-/

namespace Calculator

namespace Token

/-- Whether expressions may contain a character. -/
def isExpressionChar (character : Char) : Bool :=
  isNumeric character || character ∈ ['+', '-', '*', '/', '(', ')']

theorem isExpressionChar_of_isNumeric {character : Char} (numeric : isNumeric character) :
    isExpressionChar character := by
  simp [isExpressionChar, numeric]

theorem isNumeric_symbol (op : Operator) : isNumeric op.symbol = false := by
  cases op <;> rfl

/-- Characters of expressions take one byte each. -/
theorem utf8Size_of_isExpressionChar {character : Char}
    (isExpression : isExpressionChar character) : character.utf8Size = 1 := by
  simp only [isExpressionChar, isNumeric, Bool.or_eq_true, decide_eq_true_eq, List.mem_cons,
    List.not_mem_nil, or_false, beq_iff_eq] at isExpression
  rcases isExpression with (isDigit | rfl) | rfl | rfl | rfl | rfl | rfl | rfl
  · simp only [Char.isDigit, Bool.and_eq_true, decide_eq_true_eq] at isDigit
    exact Char.utf8Size_eq_one_iff.mpr (UInt32.le_trans isDigit.2 (by decide))
  all_goals rfl

theorem utf8ByteSize_of_isExpressionChar {characters : List Char}
    (isExpression : ∀ character ∈ characters, isExpressionChar character) :
    (String.ofList characters).utf8ByteSize = characters.length := by
  induction characters with
  | nil => rfl
  | cons character characters inductionHypothesis =>
      have single := utf8Size_of_isExpressionChar (isExpression character (by simp))
      have others := inductionHypothesis fun other member => isExpression other (by simp [member])
      rw [ofList_cons, String.utf8ByteSize_append, others]
      simp [single]
      omega

/-- A character that makes an unknown token belongs to no expression. -/
theorem isExpressionChar_of_ofChar {character : Char}
    (isUnknown : ofChar character = .unknown character) : isExpressionChar character = false := by
  by_contra isExpression
  simp only [isExpressionChar, Bool.not_eq_false, Bool.or_eq_true, decide_eq_true_eq, List.mem_cons,
    List.not_mem_nil, or_false] at isExpression
  rcases isExpression with numeric | rfl | rfl | rfl | rfl | rfl | rfl
  · rw [ofChar_of_isNumeric numeric] at isUnknown
    cases isUnknown
  all_goals cases isUnknown

/-- Genuine tokens that are not unknown cover characters of expressions. -/
theorem isExpressionChar_of_genuine {tokens : List Token}
    (genuine : ∀ token ∈ tokens, token.Genuine) (known : ∀ character, .unknown character ∉ tokens) :
    ∀ character ∈ tokens.flatMap chars, isExpressionChar character := by
  intro character member
  obtain ⟨token, isToken, covered⟩ := List.mem_flatMap.mp member
  cases token with
  | number run => exact isExpressionChar_of_isNumeric ((genuine _ isToken).2 character covered)
  | operator op =>
      obtain rfl : character = op.symbol := by simpa [chars] using covered
      cases op <;> rfl
  | openParen =>
      obtain rfl : character = '(' := by simpa [chars] using covered
      rfl
  | closeParen =>
      obtain rfl : character = ')' := by simpa [chars] using covered
      rfl
  | unknown other => exact absurd isToken (known other)

end Token

end Calculator
