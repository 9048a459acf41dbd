import Calculator.Proofs.Binary64
import Calculator.Proofs.Decimal.Text

/-!
# Texts of numbers

Different binary64 numbers have different texts. The magnitude of a finite number is known by
the decimal that its text stands for; infinity, NaN and the sign are known by the first
character. No text is empty, and none has a parenthesis, a bracket or a space in it.
-/

namespace Calculator

namespace Binary64

/-- The number that the text of a finite pattern stands for. -/
def textValue (pattern : Nat) : ℚ :=
  if pattern = 0 then 0 else (Decimal.shortest pattern).value

theorem standsFor_toChars {pattern : Nat} (finite : pattern < infinity) :
    Decimal.StandsFor (toChars pattern) (textValue pattern) := by
  rw [toChars, textValue]
  split
  · have read : Decimal.ofChars? ['0', '.', '0'] = some ⟨0, -1⟩ := rfl
    convert Decimal.StandsFor.plain read using 1
    simp [Decimal.value]
  · rw [if_neg finite.ne]
    exact Decimal.standsFor_toChars _

/-- A finite pattern is known by the number that its text stands for. -/
theorem textValue_inj {left right : Nat} (ofLeft : left < infinity) (ofRight : right < infinity)
    (same : textValue left = textValue right) : left = right := by
  have isPositive {pattern : Nat} (positive : 0 < pattern) (finite : pattern < infinity) :
      0 < (Decimal.shortest pattern).value := by
    have digits := (Decimal.trimmed_shortest positive finite).digits_pos
    unfold Decimal.value
    positivity
  rw [textValue, textValue] at same
  rcases Nat.eq_zero_or_pos left with rfl | positive <;>
    rcases Nat.eq_zero_or_pos right with rfl | positive'
  · rfl
  · rw [if_pos rfl, if_neg positive'.ne'] at same
    exact absurd same (isPositive positive' ofRight).ne
  · rw [if_pos rfl, if_neg positive.ne'] at same
    exact absurd same (isPositive positive ofLeft).ne'
  · rw [if_neg positive.ne', if_neg positive'.ne'] at same
    have shortest := (Decimal.trimmed_shortest positive ofLeft).eq_of_value
      (Decimal.trimmed_shortest positive' ofRight) same
    rw [← Decimal.nearest_shortest positive ofLeft, shortest,
      Decimal.nearest_shortest positive' ofRight]

/-- The text of a magnitude starts with a digit, a point, or the first letter of infinity. -/
theorem exists_head_toChars {pattern : Nat} (bound : pattern ≤ infinity) :
    ∃ first rest, toChars pattern = first :: rest ∧
      (pattern < infinity ∧ Token.isNumeric first ∨ pattern = infinity ∧ first = 'i') := by
  rcases Nat.lt_or_eq_of_le bound with finite | rfl
  · obtain ⟨first, rest, starts, numeric⟩ := (standsFor_toChars finite).exists_head
    exact ⟨first, rest, starts, .inl ⟨finite, numeric⟩⟩
  · exact ⟨'i', ['n', 'f'], rfl, .inr ⟨rfl, rfl⟩⟩

/-- A magnitude is known by its text. -/
theorem toChars_inj {left right : Nat} (ofLeft : left ≤ infinity) (ofRight : right ≤ infinity)
    (same : toChars left = toChars right) : left = right := by
  obtain ⟨first, rest, starts, kind⟩ := exists_head_toChars ofLeft
  obtain ⟨first', rest', starts', kind'⟩ := exists_head_toChars ofRight
  obtain ⟨rfl, -⟩ : first = first' ∧ rest = rest' := by
    rwa [starts, starts', List.cons_eq_cons] at same
  rcases kind with ⟨finite, numeric⟩ | ⟨rfl, rfl⟩
  · rcases kind' with ⟨finite', -⟩ | ⟨-, rfl⟩
    · exact textValue_inj finite finite'
        ((same ▸ standsFor_toChars finite).unique (standsFor_toChars finite'))
    · cases numeric
  · rcases kind' with ⟨-, numeric⟩ | ⟨isInfinity, -⟩
    · cases numeric
    · exact isInfinity.symm

end Binary64

/-! ### Numbers with their signs -/

/-- The text of a magnitude does not start with a sign or like that of NaN. -/
theorem Binary64.toChars_ne_cons {pattern : Nat} (bound : pattern ≤ infinity) {first : Char}
    (rest : List Char) (other : first = '-' ∨ first = 'N') : toChars pattern ≠ first :: rest := by
  intro same
  obtain ⟨first', rest', starts, kind⟩ := exists_head_toChars bound
  obtain ⟨rfl, -⟩ : first' = first ∧ rest' = rest := by
    rwa [starts, List.cons_eq_cons] at same
  rcases other with rfl | rfl <;> rcases kind with ⟨-, numeric⟩ | ⟨-, isLetter⟩
  · cases numeric
  · cases isLetter
  · cases numeric
  · cases isLetter

/-- The characters of a number are those of its magnitude, behind its sign. -/
theorem numberChars_cases (value : Float) :
    value = Float.nan ∧ numberChars value = ['N', 'a', 'N'] ∨
      ∃ magnitude ≤ Binary64.infinity,
        value.toBits.toNat = magnitude ∧ numberChars value = Binary64.toChars magnitude ∨
          value.toBits.toNat = magnitude + Binary64.signBit ∧
            numberChars value = '-' :: Binary64.toChars magnitude := by
  by_cases isNaN : value = Float.nan
  · exact .inl ⟨isNaN, by simp [numberChars, isNaN]⟩
  · refine .inr ⟨_, Binary64.magnitude_le_infinity isNaN, ?_⟩
    by_cases positive : value.toBits.toNat < Binary64.signBit
    · left
      rw [Nat.mod_eq_of_lt positive]
      simp [numberChars, isNaN, positive]
    · right
      have small := value.toBits.toNat_lt
      have magnitude : value.toBits.toNat % Binary64.signBit =
          value.toBits.toNat - Binary64.signBit := by
        rw [Binary64.signBit] at positive ⊢
        omega
      rw [magnitude]
      simp [numberChars, isNaN, positive, Nat.sub_add_cancel (Nat.le_of_not_lt positive)]

/-- The characters of NaN are those of NaN alone. -/
theorem eq_nan_of_numberChars {value : Float} (same : numberChars value = numberChars Float.nan) :
    value = Float.nan := by
  have isText : numberChars Float.nan = ['N', 'a', 'N'] := rfl
  rw [isText] at same
  rcases numberChars_cases value with ⟨isNaN, -⟩ | ⟨magnitude, bound, ⟨-, text⟩ | ⟨-, text⟩⟩
  · exact isNaN
  · exact absurd (text.symm.trans same) (Binary64.toChars_ne_cons bound _ (.inr rfl))
  · cases text.symm.trans same

/-- A number is known by its text. -/
theorem numberText_injective : Function.Injective numberText := by
  intro left right same
  have sameChars : numberChars left = numberChars right := String.ofList_injective same
  have ofBits (sameBits : left.toBits.toNat = right.toBits.toNat) : left = right :=
    Float.toBits_inj.mp (UInt64.toNat_inj.mp sameBits)
  rcases numberChars_cases left with ⟨rfl, -⟩ | ⟨magnitude, bound, parts⟩
  · exact (eq_nan_of_numberChars sameChars.symm).symm
  rcases numberChars_cases right with ⟨rfl, -⟩ | ⟨magnitude', bound', parts'⟩
  · exact eq_nan_of_numberChars sameChars
  -- Both are numbers: they agree in the sign, and then in the magnitude behind it.
  rcases parts with ⟨bits, text⟩ | ⟨bits, text⟩ <;>
    rcases parts' with ⟨bits', text'⟩ | ⟨bits', text'⟩ <;> rw [text, text'] at sameChars
  · exact ofBits (by rw [bits, bits', Binary64.toChars_inj bound bound' sameChars])
  · exact absurd sameChars (Binary64.toChars_ne_cons bound _ (.inl rfl))
  · exact absurd sameChars.symm (Binary64.toChars_ne_cons bound' _ (.inl rfl))
  · have magnitudes := Binary64.toChars_inj bound bound' (List.cons_eq_cons.mp sameChars).2
    exact ofBits (by rw [bits, bits', magnitudes])

/-! ### Texts without brackets -/

/-- The characters that stand around numbers where trees are shown. -/
def isBracket (character : Char) : Bool :=
  character ∈ ['(', ')', '[', ']', ' ']

/-- A text that can be told from the brackets around it. -/
structure PlainText where
  chars : List Char
  written : chars ≠ []
  plain : ∀ character ∈ chars, isBracket character = false

/-- Plain texts are equal if their characters are. -/
@[ext] theorem PlainText.ext {left right : PlainText} (chars : left.chars = right.chars) :
    left = right := by
  cases left
  cases right
  cases chars
  rfl

theorem isBracket_of_isNumeric {character : Char} (numeric : Token.isNumeric character) :
    isBracket character = false := by
  by_contra bracket
  simp only [isBracket, List.mem_cons, List.not_mem_nil, or_false, Bool.not_eq_false,
    decide_eq_true_eq] at bracket
  rcases bracket with rfl | rfl | rfl | rfl | rfl <;> cases numeric

theorem Binary64.isBracket_toChars {pattern : Nat} (bound : pattern ≤ infinity) :
    ∀ character ∈ toChars pattern, isBracket character = false := by
  rcases Nat.lt_or_eq_of_le bound with finite | rfl
  · intro character member
    rcases (standsFor_toChars finite).mem character member with numeric | rfl | rfl
    · exact isBracket_of_isNumeric numeric
    · rfl
    · rfl
  · have text : toChars infinity = ['i', 'n', 'f'] := rfl
    simp [text, isBracket]

/-- The text of a number is plain. -/
def plainNumber (value : Float) : PlainText where
  chars := numberChars value
  written := by
    rcases numberChars_cases value with ⟨-, text⟩ | ⟨magnitude, bound, ⟨-, text⟩ | ⟨-, text⟩⟩
    · simp [text]
    · obtain ⟨first, rest, starts, -⟩ := Binary64.exists_head_toChars bound
      simp [text, starts]
    · simp [text]
  plain := by
    rcases numberChars_cases value with ⟨-, text⟩ | ⟨magnitude, bound, ⟨-, text⟩ | ⟨-, text⟩⟩
    · simp [text, isBracket]
    · rw [text]
      exact Binary64.isBracket_toChars bound
    · rw [text, List.forall_mem_cons]
      exact ⟨rfl, Binary64.isBracket_toChars bound⟩

end Calculator
