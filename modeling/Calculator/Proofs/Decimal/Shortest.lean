import Calculator.Decimal.Shortest
import Calculator.Proofs.Binary64.Nearest

/-!
# Shortest decimals read back

The shortest decimal of a positive finite pattern is read back as this pattern, and it has no
zeros at its end. Where the search on the grids gives it, it has been read back there; all
digits of the number are read back because they need no rounding. So different patterns have
different shortest decimals.
-/

namespace Calculator

namespace Decimal

/-- The number that a decimal stands for. -/
def value (decimal : Decimal) : ℚ :=
  decimal.digits * 10 ^ decimal.exponent

/-- A decimal without zeros at its end. -/
def Trimmed (decimal : Decimal) : Prop :=
  decimal.digits % 10 ≠ 0

theorem Trimmed.digits_pos {decimal : Decimal} (trimmed : decimal.Trimmed) :
    0 < decimal.digits := by
  unfold Trimmed at trimmed
  omega

private theorem Trimmed.eq_of_value_of_le {left right : Decimal} (ofLeft : left.Trimmed)
    (ordered : left.exponent ≤ right.exponent) (same : left.value = right.value) :
    left = right := by
  obtain ⟨zeros, higher⟩ := Int.le.dest ordered
  have digits : left.digits = right.digits * 10 ^ zeros := by
    have scaled : (left.digits : ℚ) * 10 ^ left.exponent =
        right.digits * 10 ^ zeros * 10 ^ left.exponent := by
      rw [value, value, ← higher, zpow_add₀ (by norm_num), zpow_natCast] at same
      rw [same]
      ring
    exact_mod_cast mul_right_cancel₀ (by positivity) scaled
  cases zeros with
  | zero =>
      obtain ⟨leftDigits, leftExponent⟩ := left
      obtain ⟨rightDigits, rightExponent⟩ := right
      simp_all
  | succ zeros =>
      -- A further zero would stand at the end of the digits on the left.
      rw [Trimmed, digits, pow_succ, ← mul_assoc, Nat.mul_mod_left] at ofLeft
      exact absurd rfl ofLeft

/-- A number has one decimal without zeros at its end. -/
theorem Trimmed.eq_of_value {left right : Decimal} (ofLeft : left.Trimmed)
    (ofRight : right.Trimmed) (same : left.value = right.value) : left = right := by
  rcases le_total left.exponent right.exponent with ordered | ordered
  · exact eq_of_value_of_le ofLeft ordered same
  · exact (eq_of_value_of_le ofRight ordered same.symm).symm

/-! ### Reading decimals -/

theorem denominator_pos (decimal : Decimal) : 0 < decimal.denominator :=
  Nat.pow_pos (by decide)

theorem value_eq_ratio (decimal : Decimal) :
    decimal.value = decimal.numerator / decimal.denominator := by
  rw [value, numerator, denominator, tenTo, tenTo]
  obtain ⟨magnitude, isExponent | isExponent⟩ := decimal.exponent.eq_nat_or_neg
  · simp [isExponent]
  · simp [isExponent, div_eq_mul_inv]

/-- A decimal that stands for a finite number is read as this number. -/
theorem nearest_eq_of_value {decimal : Decimal} {pattern : Nat} (positive : 0 < pattern)
    (finite : pattern < Binary64.infinity) (isValue : decimal.value = Binary64.value pattern) :
    decimal.nearest = pattern :=
  Binary64.nearest_eq_of_value decimal.denominator_pos positive finite
    ((value_eq_ratio decimal).symm.trans isValue)

/-- Only a decimal with digits is read as a positive number. -/
theorem digits_pos_of_nearest {decimal : Decimal} (positive : 0 < decimal.nearest) :
    0 < decimal.digits := by
  by_contra none
  have isZero : decimal.digits = 0 := by omega
  simp [nearest, numerator, isZero, Binary64.nearest] at positive

/-! ### Zeros at the end -/

theorem value_trim (decimal : Decimal) : decimal.trim.value = decimal.value := by
  fun_induction trim decimal with
  | case1 decimal ends inductionHypothesis =>
      have digits : decimal.digits = 10 * (decimal.digits / 10) := by omega
      rw [inductionHypothesis, value, value, zpow_add_one₀ (by norm_num)]
      conv_rhs => rw [digits]
      push_cast
      ring
  | case2 decimal ends => rfl

theorem trimmed_trim {decimal : Decimal} (positive : 0 < decimal.trim.digits) :
    decimal.trim.Trimmed := by
  fun_induction trim decimal with
  | case1 decimal ends inductionHypothesis => exact inductionHypothesis positive
  | case2 decimal ends =>
      intro isZero
      exact ends ⟨positive.ne', isZero⟩

/-! ### The search -/

theorem value_exact (significand : Nat) (exponent : Int) :
    (exact significand exponent).value = significand * 2 ^ exponent := by
  rw [exact, value]
  obtain ⟨magnitude, rfl | rfl⟩ := exponent.eq_nat_or_neg
  · simp [Nat.shiftLeft_eq]
  · have ten : (10 : ℚ) = 2 * 5 := by norm_num
    simp [Nat.shiftLeft_eq, ten, mul_pow]
    field_simp

theorem eq_trim_of_onGrid?_eq_some {pattern numerator denominator : Nat} {exponent : Int}
    {decimal : Decimal} (found : onGrid? pattern numerator denominator exponent = some decimal) :
    ∃ point : Decimal, decimal = point.trim := by
  unfold onGrid? at found
  grind

/-- Either a grid gives the shortest decimal, or all digits are needed. -/
theorem shortest_cases (pattern : Nat) :
    (∃ numerator denominator exponent,
      onGrid? pattern numerator denominator exponent = some (shortest pattern)) ∨
    shortest pattern =
      (exact (Binary64.significand pattern) (Binary64.exponent pattern)).trim := by
  rw [shortest]
  cases found : List.findSome? _ (List.range 17) with
  | some decimal =>
      obtain ⟨count, -, onGrid⟩ := List.exists_of_findSome?_eq_some found
      exact .inl ⟨_, _, _, onGrid⟩
  | none => exact .inr rfl

/-- The shortest decimal of a number is read back as this number. -/
theorem nearest_shortest {pattern : Nat} (positive : 0 < pattern)
    (finite : pattern < Binary64.infinity) : (shortest pattern).nearest = pattern := by
  rcases shortest_cases pattern with ⟨_, _, _, onGrid⟩ | isExact
  · exact nearest_of_onGrid?_eq_some onGrid
  · rw [isExact]
    apply nearest_eq_of_value positive finite
    rw [value_trim, value_exact, Binary64.value]

/-- The shortest decimal of a number has no zeros at its end. -/
theorem trimmed_shortest {pattern : Nat} (positive : 0 < pattern)
    (finite : pattern < Binary64.infinity) : (shortest pattern).Trimmed := by
  have digits : 0 < (shortest pattern).digits :=
    digits_pos_of_nearest ((nearest_shortest positive finite).symm ▸ positive)
  obtain ⟨point, isTrim⟩ : ∃ point : Decimal, shortest pattern = point.trim := by
    rcases shortest_cases pattern with ⟨_, _, _, onGrid⟩ | isExact
    · exact eq_trim_of_onGrid?_eq_some onGrid
    · exact ⟨_, isExact⟩
  rw [isTrim] at digits ⊢
  exact trimmed_trim digits

end Decimal

end Calculator
