import Calculator.Decimal.Text
import Calculator.Proofs.Decimal.Shortest
import Calculator.Proofs.Decimal.Validity

/-!
# Reading number texts back

The text of a decimal is itself a decimal, possibly with a power of ten behind it, and the
number that it stands for is that of the decimal. A text stands for one number only, so
decimals without zeros at their end have different texts.
-/

namespace Calculator

/-- A list can be cut in only one way where the first item at which to stop stands. -/
theorem append_inj_of_stops {α : Type} {stops : α → Prop} {first second rest rest' : List α}
    (passes : ∀ item ∈ first, ¬ stops item) (passes' : ∀ item ∈ second, ¬ stops item)
    (stop : ∀ item ∈ rest.head?, stops item) (stop' : ∀ item ∈ rest'.head?, stops item)
    (same : first ++ rest = second ++ rest') : first = second ∧ rest = rest' := by
  induction first generalizing second with
  | nil =>
      cases second with
      | nil => exact ⟨rfl, same⟩
      | cons item second =>
          rw [List.nil_append] at same
          exact absurd (stop item (by simp [same])) (passes' item List.mem_cons_self)
  | cons item first inductionHypothesis =>
      cases second with
      | nil =>
          rw [List.nil_append] at same
          exact absurd (stop' item (by simp [← same])) (passes item List.mem_cons_self)
      | cons item' second =>
          rw [List.cons_append, List.cons_append, List.cons_eq_cons] at same
          obtain ⟨rfl, same⟩ := same
          obtain ⟨rfl, sameRest⟩ := inductionHypothesis
            (fun other member => passes other (List.mem_cons_of_mem _ member))
            (fun other member => passes' other (List.mem_cons_of_mem _ member)) same
          exact ⟨rfl, sameRest⟩

namespace Decimal

/-! ### Rows of digits -/

private theorem foldl_digits (value : Nat) (row : List Char) :
    row.foldl (fun value digit => 10 * value + (digit.toNat - '0'.toNat)) value =
      value * 10 ^ row.length + ofDigits row := by
  induction row generalizing value with
  | nil => simp [ofDigits]
  | cons digit row inductionHypothesis =>
      rw [ofDigits, List.foldl_cons, List.foldl_cons, inductionHypothesis,
        inductionHypothesis (10 * 0 + _), List.length_cons]
      ring

theorem ofDigits_append (first second : List Char) :
    ofDigits (first ++ second) = ofDigits first * 10 ^ second.length + ofDigits second := by
  rw [ofDigits, List.foldl_append, foldl_digits]
  rfl

theorem ofDigits_replicate_zero (count : Nat) : ofDigits (List.replicate count '0') = 0 := by
  induction count with
  | zero => rfl
  | succ count inductionHypothesis => exact inductionHypothesis

theorem ofDigits_toDigits (value : Nat) : ofDigits (Nat.toDigits 10 value) = value :=
  Nat.ofDigitChars_ten_toDigits

theorem isDigit_toDigits {value : Nat} :
    ∀ character ∈ Nat.toDigits 10 value, character.isDigit :=
  fun _ member => Nat.isDigit_of_mem_toDigits (by decide) (by decide) member

/-! ### Decimals in a text -/

theorem noPoint_of_isDigit {row : List Char} (digits : ∀ character ∈ row, character.isDigit) :
    '.' ∉ row :=
  fun point => absurd (digits '.' point) (by decide)

theorem ofChars?_digits {whole : List Char} (digits : ∀ character ∈ whole, character.isDigit)
    (written : whole ≠ []) : ofChars? whole = some ⟨ofDigits whole, 0⟩ := by
  rw [ofChars?_whole (noPoint_of_isDigit digits), if_neg]
  simpa [written] using digits

theorem ofChars?_digits_point {whole fraction : List Char}
    (digits : ∀ character ∈ whole ++ fraction, character.isDigit)
    (written : whole ++ fraction ≠ []) :
    ofChars? (whole ++ '.' :: fraction) =
      some ⟨ofDigits (whole ++ fraction), -(fraction.length : Int)⟩ := by
  have ofWhole : ∀ character ∈ whole, character.isDigit :=
    fun character member => digits character (List.mem_append_left _ member)
  rw [ofChars?_point (noPoint_of_isDigit ofWhole), if_neg]
  simpa [written, or_imp, forall_and] using digits

/-- Only digits and points are read as a decimal. -/
theorem isNumeric_of_ofChars?_eq_some {characters : List Char} {decimal : Decimal}
    (read : ofChars? characters = some decimal) :
    ∀ character ∈ characters, Token.isNumeric character := by
  have valid : (ofChars? characters).isSome := by simp [read]
  intro character member
  rw [Token.isNumeric, Bool.or_eq_true, beq_iff_eq]
  by_cases point : '.' ∈ characters
  · obtain ⟨whole, fraction, rfl, noPoint⟩ := List.eq_append_cons_of_mem point
    have digits := ((isSome_ofChars?_point noPoint).mp valid).2 character
    rw [List.mem_append, List.mem_cons] at member
    rw [List.mem_append] at digits
    tauto
  · exact .inl (((isSome_ofChars?_whole point).mp valid).2 character member)

/-- The characters of a decimal, with a power of ten behind them or without. -/
inductive StandsFor : List Char → ℚ → Prop where
  | plain {characters : List Char} {decimal : Decimal}
      (read : ofChars? characters = some decimal) : StandsFor characters decimal.value
  | scaled {characters : List Char} {decimal : Decimal} (power : Int)
      (read : ofChars? characters = some decimal) :
      StandsFor (characters ++ 'e' :: signed power) (decimal.value * 10 ^ power)

theorem toDigits_injective : Function.Injective (Nat.toDigits 10) := by
  intro left right same
  rw [← ofDigits_toDigits left, same, ofDigits_toDigits]

/-- An integer is known by its text. -/
theorem signed_injective : Function.Injective signed := by
  have noSign (value : Nat) (others : List Char) : '-' :: others ≠ Nat.toDigits 10 value := by
    intro same
    exact absurd (isDigit_toDigits '-' (same ▸ List.mem_cons_self)) (by decide)
  intro left right same
  simp only [signed] at same
  split at same <;> split at same
  · have magnitudes := toDigits_injective (List.cons_inj_right '-' |>.mp same)
    omega
  · exact absurd same (noSign _ _)
  · exact absurd same.symm (noSign _ _)
  · have magnitudes := toDigits_injective same
    omega

theorem mem_signed {value : Int} {character : Char} (member : character ∈ signed value) :
    character = '-' ∨ character.isDigit := by
  simp only [signed] at member
  split at member
  · rcases List.mem_cons.mp member with isSign | isDigit
    · exact .inl isSign
    · exact .inr (isDigit_toDigits character isDigit)
  · exact .inr (isDigit_toDigits character member)

/-- Characters stand for one number at most. -/
theorem StandsFor.unique {characters : List Char} {left right : ℚ}
    (forLeft : StandsFor characters left) (forRight : StandsFor characters right) :
    left = right := by
  have passes {front : List Char} {decimal : Decimal} (read : ofChars? front = some decimal) :
      ∀ character ∈ front, ¬ character = 'e' := by
    rintro character member rfl
    exact absurd (isNumeric_of_ofChars?_eq_some read _ member) (by decide)
  generalize isText : characters = text at forRight
  cases forLeft with
  | plain read =>
      cases forRight with
      | plain read' =>
          subst isText
          cases read.symm.trans read'
          rfl
      | scaled power read' =>
          subst isText
          exact absurd rfl (passes read 'e' (by simp))
  | scaled power read =>
      cases forRight with
      | plain read' =>
          subst isText
          exact absurd rfl (passes read' 'e' (by simp))
      | scaled power' read' =>
          obtain ⟨rfl, suffixes⟩ :=
            append_inj_of_stops (passes read) (passes read') (by simp) (by simp) isText
          cases read.symm.trans read'
          rw [signed_injective (List.cons_eq_cons.mp suffixes).2]

/-- What stands for a number starts with a digit or point. -/
theorem StandsFor.exists_head {characters : List Char} {number : ℚ}
    (standsFor : StandsFor characters number) :
    ∃ first rest, characters = first :: rest ∧ Token.isNumeric first := by
  have ofRead {front : List Char} {decimal : Decimal} (read : ofChars? front = some decimal) :
      ∃ first rest, front = first :: rest ∧ Token.isNumeric first := by
    cases front with
    | nil => cases read
    | cons first rest =>
        exact ⟨first, rest, rfl, isNumeric_of_ofChars?_eq_some read first (by simp)⟩
  cases standsFor with
  | plain read => exact ofRead read
  | scaled power read =>
      obtain ⟨first, rest, rfl, numeric⟩ := ofRead read
      exact ⟨first, _, rfl, numeric⟩

/-- What stands for a number has digits and points in it, the mark of a power and a sign. -/
theorem StandsFor.mem {characters : List Char} {number : ℚ}
    (standsFor : StandsFor characters number) :
    ∀ character ∈ characters, Token.isNumeric character ∨ character = 'e' ∨ character = '-' := by
  intro character member
  cases standsFor with
  | plain read => exact .inl (isNumeric_of_ofChars?_eq_some read character member)
  | scaled power read =>
      rcases List.mem_append.mp member with front | mark
      · exact .inl (isNumeric_of_ofChars?_eq_some read character front)
      rcases List.mem_cons.mp mark with isMark | inPower
      · exact .inr (.inl isMark)
      rcases mem_signed inPower with isSign | isDigit
      · exact .inr (.inr isSign)
      · exact .inl (by simp [Token.isNumeric, isDigit])

/-! ### The texts of decimals -/

section Layouts

variable {row : List Char}

theorem standsFor_point {whole fraction : List Char} {number : ℚ}
    (digits : ∀ character ∈ whole ++ fraction, character.isDigit) (written : whole ++ fraction ≠ [])
    (isNumber : number = ofDigits (whole ++ fraction) * 10 ^ (-(fraction.length : Int))) :
    StandsFor (whole ++ '.' :: fraction) number :=
  isNumber ▸ .plain (ofChars?_digits_point digits written)

theorem standsFor_positional (digits : ∀ character ∈ row, character.isDigit) (written : row ≠ [])
    (point : Int) :
    StandsFor (positional row point) (ofDigits row * 10 ^ (point - row.length)) := by
  have zero : ('0' : Char).isDigit := rfl
  have worthless : ofDigits ['0'] = 0 := rfl
  rw [positional]
  split
  · next before =>
      refine @standsFor_point ['0'] (List.replicate (-point).toNat '0' ++ row) _ ?_ (by simp) ?_
      · simpa [or_imp, forall_and, zero] using digits
      · have power : point - row.length = -(((-point).toNat + row.length : Nat) : Int) := by omega
        rw [ofDigits_append, ofDigits_append, ofDigits_replicate_zero, worthless, power]
        simp
  · split
    · next before behind =>
        refine @standsFor_point (row ++ List.replicate (point.toNat - row.length) '0') ['0'] _ ?_
          (by simp) ?_
        · simpa [or_imp, forall_and, zero] using digits
        · have power : point - row.length = ((point.toNat - row.length : Nat) : Int) := by omega
          rw [ofDigits_append, ofDigits_append, ofDigits_replicate_zero, worthless, power]
          simp
    · next before behind =>
        refine standsFor_point ?_ (by simpa using written) ?_
        · simpa using digits
        · rw [List.take_append_drop, List.length_drop]
          congr 2
          omega

theorem standsFor_scientific (digits : ∀ character ∈ row, character.isDigit) (written : row ≠ [])
    (power : Int) :
    StandsFor (scientific row power) (ofDigits row * 10 ^ (power + 1 - row.length)) := by
  cases row with
  | nil => exact absurd rfl written
  | cons first others =>
      cases others with
      | nil =>
          convert StandsFor.scaled power (ofChars?_digits digits written) using 1
          · rfl
          · simp [value]
      | cons second others =>
          convert StandsFor.scaled power (@ofChars?_digits_point [first] (second :: others) digits written)
            using 1
          · rfl
          · rw [value, mul_assoc, ← zpow_add₀ (by norm_num), List.length_cons,
              List.singleton_append]
            congr 2
            push_cast
            ring

end Layouts

/-- The text of a decimal stands for the number that the decimal stands for. -/
theorem standsFor_toChars (decimal : Decimal) : StandsFor decimal.toChars decimal.value := by
  have digits := @isDigit_toDigits decimal.digits
  have written : Nat.toDigits 10 decimal.digits ≠ [] := Nat.toDigits_ne_nil
  simp only [toChars]
  split
  · convert standsFor_positional digits written _ using 1
    rw [ofDigits_toDigits, value]
    congr 2
    omega
  · convert standsFor_scientific digits written _ using 1
    rw [ofDigits_toDigits, value]
    congr 2
    omega

end Decimal

end Calculator
