import Calculator.Binary64
import Mathlib

/-!
# Nearest numbers

A finite pattern stands for its significand times a power of two. A ratio that has this value
is rounded to the pattern: the exponent is found from the logarithms of two, the significand
comes out without a remainder, and the two make up the pattern again.
-/

namespace Calculator

namespace Binary64

/-- The number that a finite pattern stands for. -/
def value (pattern : Nat) : ℚ :=
  significand pattern * 2 ^ exponent pattern

/-! ### Ratios and powers of two -/

theorem two_zpow_eq_div (exponent : Int) :
    (2 : ℚ) ^ exponent = 2 ^ exponent.toNat / 2 ^ (-exponent).toNat := by
  obtain ⟨magnitude, rfl | rfl⟩ := exponent.eq_nat_or_neg
  · simp
  · simp

/-- Shifting numerator and denominator divides a ratio by a power of two. -/
theorem shifted_ratio (numerator denominator : Nat) (exponent : Int) :
    ((numerator <<< (-exponent).toNat : Nat) : ℚ) / (denominator <<< exponent.toNat : Nat) =
      numerator / denominator / 2 ^ exponent := by
  rw [two_zpow_eq_div, Nat.shiftLeft_eq, Nat.shiftLeft_eq]
  push_cast
  field_simp

theorem shifted_lt_iff {denominator : Nat} (divides : 0 < denominator) (numerator bound : Nat)
    (exponent : Int) :
    (numerator <<< (-exponent).toNat) / (denominator <<< exponent.toNat) < bound ↔
      (numerator / denominator : ℚ) < bound * 2 ^ exponent := by
  have divides' : 0 < denominator <<< exponent.toNat := by
    rw [Nat.shiftLeft_eq]
    positivity
  have positive : (0 : ℚ) < (denominator <<< exponent.toNat : Nat) := mod_cast divides'
  rw [Nat.div_lt_iff_lt_mul divides', ← div_lt_iff₀ (by positivity : (0 : ℚ) < 2 ^ exponent),
    ← shifted_ratio, div_lt_iff₀ positive]
  norm_cast

/-- The logarithms of two tell a ratio to within a factor of four. -/
theorem ratio_bounds {numerator denominator : Nat} (positive : 0 < numerator)
    (divides : 0 < denominator) :
    (2 : ℚ) ^ ((numerator.log2 : Int) - denominator.log2 - 1) ≤ numerator / denominator ∧
      (numerator / denominator : ℚ) < 2 ^ ((numerator.log2 : Int) - denominator.log2 + 1) := by
  have below : (2 : ℚ) ^ numerator.log2 ≤ numerator :=
    mod_cast Nat.log2_self_le positive.ne'
  have above : (numerator : ℚ) < 2 ^ (numerator.log2 + 1) := mod_cast Nat.lt_log2_self
  have below' : (2 : ℚ) ^ denominator.log2 ≤ denominator :=
    mod_cast Nat.log2_self_le divides.ne'
  have above' : (denominator : ℚ) < 2 ^ (denominator.log2 + 1) := mod_cast Nat.lt_log2_self
  constructor
  · rw [sub_sub, zpow_sub₀ two_ne_zero, zpow_natCast]
    have : (2 : ℚ) ^ ((denominator.log2 : Int) + 1) = 2 ^ (denominator.log2 + 1) := mod_cast rfl
    rw [this]
    gcongr
  · rw [sub_add_eq_add_sub, zpow_sub₀ two_ne_zero, zpow_natCast]
    have : (2 : ℚ) ^ ((numerator.log2 : Int) + 1) = 2 ^ (numerator.log2 + 1) := mod_cast rfl
    rw [this]
    gcongr

/-- The exponent at which a ratio has a significand of 53 bits. -/
theorem exists_exponentOf {numerator denominator : Nat} (positive : 0 < numerator)
    (divides : 0 < denominator) :
    ∃ exponent : Int, exponentOf numerator denominator = max leastExponent exponent ∧
      (2 : ℚ) ^ (exponent + 52) ≤ numerator / denominator ∧
        (numerator / denominator : ℚ) < 2 ^ (exponent + 53) := by
  obtain ⟨below, above⟩ := ratio_bounds positive divides
  set estimate : Int := (numerator.log2 : Int) - denominator.log2 - 53 with isEstimate
  have small : (numerator <<< (-estimate).toNat) / (denominator <<< estimate.toNat) <
      2 * leadingBit ↔ (numerator / denominator : ℚ) < 2 ^ (estimate + 53) := by
    rw [shifted_lt_iff divides, zpow_add₀ two_ne_zero, mul_comm (2 ^ estimate)]
    norm_num [leadingBit]
  rw [exponentOf]
  by_cases fits : (numerator / denominator : ℚ) < 2 ^ (estimate + 53)
  · refine ⟨estimate, ?_, ?_, fits⟩
    · simp only [← isEstimate, small, if_pos fits]
    · convert below using 2
      omega
  · refine ⟨estimate + 1, ?_, ?_, ?_⟩
    · simp only [← isEstimate, small, if_neg fits]
    · rw [show estimate + 1 + 52 = estimate + 53 by ring]
      exact not_lt.mp fits
    · convert above using 2
      omega

/-! ### The parts of a pattern -/

section Parts

variable {pattern : Nat}

theorem significand_pos (positive : 0 < pattern) : 0 < significand pattern := by
  unfold significand leadingBit
  split <;> omega

theorem significand_lt (pattern : Nat) : significand pattern < 2 ^ 53 := by
  unfold significand leadingBit
  split <;> omega

theorem value_pos (positive : 0 < pattern) : 0 < value pattern := by
  have := significand_pos positive
  unfold value
  positivity

/-- Significand and exponent make up the pattern. -/
theorem patternOf_parts (finite : pattern < infinity) :
    patternOf (significand pattern) (exponent pattern) = pattern := by
  unfold patternOf significand exponent leastExponent
  unfold leadingBit infinity at *
  split <;> omega

theorem leastExponent_le_exponent (pattern : Nat) : leastExponent ≤ exponent pattern := by
  unfold exponent leastExponent leadingBit
  split <;> omega

/-- Where a pattern does not have the least exponent, its significand has 53 bits. -/
theorem exponent_eq_or_le_significand (pattern : Nat) :
    exponent pattern = leastExponent ∨ 2 ^ 52 ≤ significand pattern := by
  unfold exponent significand leadingBit
  split
  · exact .inl rfl
  · exact .inr (by omega)

/-- The exponent of a pattern is the one at which its number has a significand of 53 bits,
raised to the least exponent. -/
theorem exponent_eq_max {magnitude : Int} (below : (2 : ℚ) ^ (magnitude + 52) ≤ value pattern)
    (above : value pattern < 2 ^ (magnitude + 53)) :
    exponent pattern = max leastExponent magnitude := by
  have scale : (0 : ℚ) < 2 ^ exponent pattern := by positivity
  have least := leastExponent_le_exponent pattern
  have atMost : magnitude ≤ exponent pattern := by
    have bounded : value pattern < 2 ^ (exponent pattern + 53) := by
      rw [zpow_add₀ two_ne_zero, mul_comm]
      exact mul_lt_mul_of_pos_right (mod_cast significand_lt pattern) scale
    have powers := (zpow_lt_zpow_iff_right₀ one_lt_two).mp (below.trans_lt bounded)
    omega
  rcases exponent_eq_or_le_significand pattern with isLeast | full
  · omega
  · have bounded : (2 : ℚ) ^ (exponent pattern + 52) ≤ value pattern := by
      rw [zpow_add₀ two_ne_zero, mul_comm]
      exact mul_le_mul_of_nonneg_right (mod_cast full) scale.le
    have powers := (zpow_lt_zpow_iff_right₀ one_lt_two).mp (bounded.trans_lt above)
    omega

end Parts

/-! ### Numbers that need no rounding -/

/-- A multiple is not rounded. -/
theorem roundHalfEven_mul {denominator : Nat} (divides : 0 < denominator) (quotient : Nat) :
    roundHalfEven (quotient * denominator) denominator = quotient := by
  simp [roundHalfEven, divides]

/-- A ratio that is a finite number is rounded to this number. -/
theorem nearest_eq_of_value {numerator denominator pattern : Nat} (divides : 0 < denominator)
    (positive : 0 < pattern) (finite : pattern < infinity)
    (isValue : (numerator / denominator : ℚ) = value pattern) :
    nearest numerator denominator = pattern := by
  have positive' : 0 < numerator := by
    have ratio : (0 : ℚ) < numerator / denominator := isValue ▸ value_pos positive
    rcases Nat.eq_zero_or_pos numerator with rfl | isPositive
    · simp at ratio
    · exact isPositive
  obtain ⟨magnitude, isExponent, below, above⟩ := exists_exponentOf positive' divides
  rw [isValue] at below above
  have sameExponent : exponentOf numerator denominator = exponent pattern :=
    isExponent.trans (exponent_eq_max below above).symm
  have divides' : 0 < denominator <<< (exponent pattern).toNat := by
    rw [Nat.shiftLeft_eq]
    positivity
  have exact : numerator <<< (-exponent pattern).toNat =
      significand pattern * denominator <<< (exponent pattern).toNat := by
    have ratio := shifted_ratio numerator denominator (exponent pattern)
    rw [isValue, value, mul_div_cancel_right₀ _ (by positivity),
      div_eq_iff (by positivity)] at ratio
    exact_mod_cast ratio
  rw [nearest, if_neg positive'.ne']
  simp only [sameExponent, exact, roundHalfEven_mul divides', patternOf_parts finite]

end Binary64

end Calculator
