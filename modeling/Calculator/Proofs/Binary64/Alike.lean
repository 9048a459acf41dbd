import Calculator.Operator
import Calculator.Proofs.Binary64

/-!
# Numbers that are alike

Two numbers are alike if they compare equal or are both no numbers, which is to say that they
are the same or zeros of any two signs. All operations keep numbers alike, apart from a
division by zeros of different signs. Adding positive zero changes negative zero to positive
zero and nothing else, and dividing by it leaves the sign of a number as it is.
-/

namespace Calculator

open Float.Model

namespace Binary64

/-- Two numbers that compare equal, or two that are no numbers. -/
def Alike (left right : Float) : Prop :=
  (left == right) = true ∨ left.isNaN = true ∧ right.isNaN = true

/-- A zero of either sign. -/
def IsZero (value : Float) : Prop :=
  value = 0.0 ∨ value = -0.0

instance (value : Float) : Decidable (IsZero value) :=
  inferInstanceAs (Decidable (_ ∨ _))

/-- Numbers are alike if they are the same or both zero. -/
theorem alike_iff {left right : Float} :
    Alike left right ↔ left = right ∨ IsZero left ∧ IsZero right := by
  have isZero : (0 : Float) = 0.0 := rfl
  constructor
  · rintro (equal | ⟨ofLeft, ofRight⟩)
    · rw [Float.beq_iff_ne_nan_and_eq, isZero] at equal
      obtain ⟨-, -, same | ⟨rfl, rfl⟩ | ⟨rfl, rfl⟩⟩ := equal
      · exact .inl same
      · exact .inr ⟨.inl rfl, .inr rfl⟩
      · exact .inr ⟨.inr rfl, .inl rfl⟩
    · rw [Float.isNaN_eq_decide_eq_nan, decide_eq_true_eq] at ofLeft ofRight
      exact .inl (ofLeft.trans ofRight.symm)
  · rintro (rfl | ⟨rfl | rfl, rfl | rfl⟩)
    · by_cases isNaN : left = Float.nan
      · exact .inr (by simp [isNaN])
      · exact .inl (Float.beq_self_iff.mpr isNaN)
    all_goals exact .inl (by decide)

theorem Alike.refl (value : Float) : Alike value value :=
  alike_iff.mpr (.inl rfl)

theorem Alike.trans {first second third : Float} (ofFirst : Alike first second)
    (ofSecond : Alike second third) : Alike first third := by
  rw [alike_iff] at ofFirst ofSecond ⊢
  rcases ofFirst with rfl | ⟨isZero, isZero'⟩
  · exact ofSecond
  · rcases ofSecond with rfl | ⟨-, isZero''⟩
    · exact .inr ⟨isZero, isZero'⟩
    · exact .inr ⟨isZero, isZero''⟩

/-- Numbers compare equal to zero if they are zero. -/
theorem beq_zero_iff {value : Float} : (value == 0.0) = true ↔ IsZero value := by
  constructor
  · intro equal
    rcases alike_iff.mp (.inl equal) with rfl | ⟨isZero, -⟩
    · exact .inl rfl
    · exact isZero
  · rintro (rfl | rfl) <;> decide

/-- Of numbers that are alike, both or none are zero. -/
theorem Alike.isZero_iff {left right : Float} (alike : Alike left right) :
    IsZero left ↔ IsZero right := by
  rcases alike_iff.mp alike with rfl | ⟨ofLeft, ofRight⟩
  · rfl
  · exact ⟨fun _ => ofRight, fun _ => ofLeft⟩

/-- Apart from negative zero, numbers that are alike are the same. -/
theorem Alike.eq {left right : Float} (alike : Alike left right) (ofLeft : left ≠ -0.0)
    (ofRight : right ≠ -0.0) : left = right := by
  rcases alike_iff.mp alike with same | ⟨isZero, isZero'⟩
  · exact same
  · rw [isZero.resolve_right ofLeft, isZero'.resolve_right ofRight]

/-! ### Operations -/

/-- The number that an unpacked one stands for. -/
def ofUnpacked (unpacked : UnpackedFloat) : Float :=
  .ofModel (.pack unpacked)

theorem ofUnpacked_unpack (value : Float) : ofUnpacked value.toModel.unpack = value :=
  Float.ofBits_toBits value

/-- Unpacked numbers that are the same, or zeros of any two signs. -/
inductive AlikeUnpacked : UnpackedFloat → UnpackedFloat → Prop where
  | refl (value : UnpackedFloat) : AlikeUnpacked value value
  | zero (sign sign' : UnpackedFloat.Sign) : AlikeUnpacked (.zero sign) (.zero sign')

theorem isZero_ofUnpacked (sign : UnpackedFloat.Sign) : IsZero (ofUnpacked (.zero sign)) := by
  cases sign with
  | positive => exact .inl rfl
  | negative => exact .inr rfl

theorem AlikeUnpacked.alike {left right : UnpackedFloat} (alike : AlikeUnpacked left right) :
    Alike (ofUnpacked left) (ofUnpacked right) := by
  cases alike with
  | refl => exact .refl _
  | zero sign sign' => exact alike_iff.mpr (.inr ⟨isZero_ofUnpacked sign, isZero_ofUnpacked sign'⟩)

theorem Alike.unpack {left right : Float} (alike : Alike left right) :
    AlikeUnpacked left.toModel.unpack right.toModel.unpack := by
  rcases alike_iff.mp alike with rfl | ⟨rfl | rfl, rfl | rfl⟩
  · exact .refl _
  · exact .refl _
  · exact .zero .positive .negative
  · exact .zero .negative .positive
  · exact .refl _

/-- An operation on unpacked numbers. -/
def applyUnpacked : Operator → UnpackedFloat → UnpackedFloat → UnpackedFloat
  | .add => .add .binary64
  | .subtract => .sub .binary64
  | .multiply => .mul .binary64
  | .divide => .div .binary64

theorem apply_eq (op : Operator) (lhs rhs : Float) :
    op.apply lhs rhs = ofUnpacked (applyUnpacked op lhs.toModel.unpack rhs.toModel.unpack) := by
  cases op <;> rfl

/-- Numbers that are alike may be replaced by each other on the left of an operation. -/
theorem AlikeUnpacked.apply_left {left right : UnpackedFloat} (alike : AlikeUnpacked left right)
    (op : Operator) (other : UnpackedFloat) :
    AlikeUnpacked (applyUnpacked op left other) (applyUnpacked op right other) := by
  cases alike with
  | refl => exact .refl _
  | zero sign sign' =>
      cases other with
      | notANumber => cases op <;> exact .refl _
      | infinity => cases op <;> first | exact .refl _ | exact .zero _ _
      | finite => cases op <;> first | exact .refl _ | exact .zero _ _
      | zero sign'' => cases op <;> cases sign <;> cases sign' <;> cases sign'' <;> constructor

/-- Numbers that are alike may be replaced by each other on the right of an operation other
than a division. -/
theorem AlikeUnpacked.apply_right {left right : UnpackedFloat} (alike : AlikeUnpacked left right)
    {op : Operator} (notDivision : op ≠ .divide) (other : UnpackedFloat) :
    AlikeUnpacked (applyUnpacked op other left) (applyUnpacked op other right) := by
  cases alike with
  | refl => exact .refl _
  | zero sign sign' =>
      cases op with
      | divide => exact absurd rfl notDivision
      | add =>
          cases other with
          | zero sign'' => cases sign <;> cases sign' <;> cases sign'' <;> constructor
          | _ => exact .refl _
      | subtract =>
          cases other with
          | zero sign'' => cases sign <;> cases sign' <;> cases sign'' <;> constructor
          | _ => exact .refl _
      | multiply =>
          cases other with
          | zero | finite => exact .zero _ _
          | _ => exact .refl _

theorem Alike.apply_left {left right : Float} (alike : Alike left right) (op : Operator)
    (other : Float) : Alike (op.apply left other) (op.apply right other) := by
  rw [apply_eq, apply_eq]
  exact (alike.unpack.apply_left op _).alike

theorem Alike.apply_right {left right : Float} (alike : Alike left right) {op : Operator}
    (notDivision : op ≠ .divide) (other : Float) :
    Alike (op.apply other left) (op.apply other right) := by
  rw [apply_eq, apply_eq]
  exact (alike.unpack.apply_right notDivision _).alike

/-- Operations keep numbers alike, unless they divide by a negative zero on one side. -/
theorem Alike.apply {op : Operator} {lhs lhs' rhs rhs' : Float} (ofLhs : Alike lhs lhs')
    (ofRhs : Alike rhs rhs') (ofDivisor : op = .divide → rhs ≠ -0.0 ∧ rhs' ≠ -0.0) :
    Alike (op.apply lhs rhs) (op.apply lhs' rhs') := by
  by_cases isDivision : op = .divide
  · obtain ⟨ofLeft, ofRight⟩ := ofDivisor isDivision
    rw [ofRhs.eq ofLeft ofRight]
    exact ofLhs.apply_left op rhs'
  · exact (ofLhs.apply_left op rhs).trans (ofRhs.apply_right isDivision lhs')

/-! ### Adding positive zero -/

/-- Positive zero is neutral on the right, apart from negative zero. -/
theorem add_zero_of_ne {value : Float} (notNegativeZero : value ≠ -0.0) : value + 0.0 = value := by
  have isValue := ofUnpacked_unpack value
  change ofUnpacked (.add .binary64 value.toModel.unpack (.zero .positive)) = value
  generalize value.toModel.unpack = unpacked at isValue ⊢
  subst isValue
  cases unpacked with
  | zero sign =>
      cases sign with
      | positive => rfl
      | negative => exact absurd rfl notNegativeZero
  | _ => rfl

/-- A number with positive zero added to it is never negative zero. -/
theorem add_zero_ne_negativeZero (value : Float) : value + 0.0 ≠ -0.0 := by
  by_cases isNegativeZero : value = -0.0
  · subst isNegativeZero
    decide
  · rwa [add_zero_of_ne isNegativeZero]

/-- Adding positive zero leaves a number alike. -/
theorem alike_add_zero (value : Float) : Alike (value + 0.0) value := by
  by_cases isNegativeZero : value = -0.0
  · subst isNegativeZero
    exact .inl (by decide)
  · rw [add_zero_of_ne isNegativeZero]
    exact .refl value

/-! ### Dividing by positive zero -/

/-- Over positive zero, a positive number gives infinity and a negative one negative infinity.
What has no sign to keep, a zero or NaN, gives NaN. -/
theorem div_zero_cases (dividend : Float) :
    0.0 < dividend ∧ dividend / 0.0 = 1.0 / 0.0 ∨
      dividend < 0.0 ∧ dividend / 0.0 = -1.0 / 0.0 ∨
        (IsZero dividend ∨ dividend.isNaN = true) ∧ dividend / 0.0 = Float.nan := by
  have isDividend := ofUnpacked_unpack dividend
  have quotient : dividend / 0.0 =
      ofUnpacked (.div .binary64 dividend.toModel.unpack (.zero .positive)) := rfl
  rw [lt_iff_unpack, lt_iff_unpack, quotient]
  generalize dividend.toModel.unpack = unpacked at isDividend ⊢
  subst isDividend
  cases unpacked with
  | notANumber => exact .inr (.inr ⟨.inr rfl, rfl⟩)
  | zero sign => exact .inr (.inr ⟨.inl (isZero_ofUnpacked sign), rfl⟩)
  | infinity sign =>
      cases sign with
      | positive => exact .inl ⟨rfl, rfl⟩
      | negative => exact .inr (.inl ⟨rfl, rfl⟩)
  | finite sign =>
      cases sign with
      | positive => exact .inl ⟨rfl, rfl⟩
      | negative => exact .inr (.inl ⟨rfl, rfl⟩)

end Binary64

end Calculator
