import Calculator.Proofs.Token.Nesting

/-!
# Finding the closing item by two counts

The partner of an opening item can be found without a stack: count what opens and what closes
behind it, the opening item itself included, and stop where the two counts agree. That is the
first place behind balanced items. `closingIndex?_eq_some_iff` says so for lists of any items, and
`closingIndex?_eq_map_enclosed?` that a group of tokens is cut off there.
-/

namespace Calculator

/-- A closing item is the first item of a list or stands behind it. -/
theorem exists_closing_cons_iff {α : Type} {closing item : α} {items : List α}
    {holds : List α → Prop} :
    (∃ inner after, item :: items = inner ++ closing :: after ∧ holds inner) ↔
      (item = closing ∧ holds []) ∨
        ∃ inner after, items = inner ++ closing :: after ∧ holds (item :: inner) := by
  constructor
  · rintro ⟨_ | ⟨first, inner⟩, after, split, ofInner⟩
    · exact .inl ⟨(List.cons_eq_cons.mp split).1, ofInner⟩
    · obtain ⟨rfl, rfl⟩ := List.cons_eq_cons.mp split
      exact .inr ⟨inner, after, rfl, ofInner⟩
  · rintro (⟨rfl, ofInner⟩ | ⟨inner, after, rfl, ofInner⟩)
    · exact ⟨[], items, rfl, ofInner⟩
    · exact ⟨item :: inner, after, rfl, ofInner⟩

section Counts

variable {α : Type} [DecidableEq α]

/-- Count what opens and what closes from `index` on, up to the item where the counts agree. -/
def closingFrom (opening closing : α) (opened closed index : Nat) : List α → Option Nat
  | [] => none
  | item :: items =>
      let opened := if item = opening then opened + 1 else opened
      let closed := if item = closing then closed + 1 else closed
      if opened = closed then some index
      else closingFrom opening closing opened closed (index + 1) items

/-- Where the item at an index, which is taken to be an opening one, is closed. -/
def closingIndex? (opening closing : α) (items : List α) (index : Nat) : Option Nat :=
  closingFrom opening closing 1 0 (index + 1) (items.drop (index + 1))

variable {opening closing : α}

theorem le_of_closingFrom_eq_some {opened closed index found : Nat} {items : List α}
    (isClosed : closingFrom opening closing opened closed index items = some found) :
    index ≤ found := by
  fun_induction closingFrom opening closing opened closed index items with
  | case1 => cases isClosed
  | case2 => exact Nat.le_of_eq (Option.some.inj isClosed)
  | case3 _ _ _ _ _ _ _ _ inductionHypothesis =>
      exact Nat.le_of_succ_le (inductionHypothesis isClosed)

/-- The closing item stands behind the opening one. -/
theorem lt_of_closingIndex?_eq_some {items : List α} {index found : Nat}
    (isClosed : closingIndex? opening closing items index = some found) : index < found :=
  le_of_closingFrom_eq_some isClosed

/-- With `depth` items open above the one that is looked for, the counts first agree behind items
that close all of these. -/
theorem closingFrom_eq_some_iff (distinct : opening ≠ closing)
    {opened closed index found : Nat} (depth : Nat) {items : List α}
    (counts : opened = closed + depth + 1) :
    closingFrom opening closing opened closed index items = some found ↔
      ∃ inner after, items = inner ++ closing :: after ∧
        nesting opening closing depth inner = some 0 ∧ found = index + inner.length := by
  induction items generalizing opened closed depth index with
  | nil => simp [closingFrom]
  | cons item items inductionHypothesis =>
      rw [exists_closing_cons_iff, closingFrom]
      simp only [List.length_cons, nesting]
      by_cases opens : item = opening
      · subst opens
        have apart : opened + 1 ≠ closed := by omega
        have inside : opened + 1 = closed + (depth + 1) + 1 := by omega
        simp only [distinct, apart, ↓reduceIte, false_and, false_or, inductionHypothesis _ inside,
          Nat.add_assoc, Nat.add_comm 1]
      by_cases closes : item = closing
      · subst closes
        cases depth with
        | zero => simp [opens, counts, eq_comm]
        | succ depth =>
            have apart : opened ≠ closed + 1 := by omega
            have inside : opened = closed + 1 + depth + 1 := by omega
            have stillOpen : some (depth + 1) ≠ some 0 := by simp
            simp only [opens, apart, stillOpen, ↓reduceIte, inductionHypothesis depth inside,
              false_and, and_false, false_or, Nat.add_assoc, Nat.add_comm 1]
      · have apart : opened ≠ closed := by omega
        simp only [opens, closes, apart, ↓reduceIte, false_and, false_or,
          inductionHypothesis depth counts, Nat.add_assoc, Nat.add_comm 1]

/-- The counts agree at the closing item behind balanced contents. -/
theorem closingIndex?_eq_some_iff (distinct : opening ≠ closing) {before rest : List α} {item : α}
    {found : Nat} :
    closingIndex? opening closing (before ++ item :: rest) before.length = some found ↔
      ∃ inner after, rest = inner ++ closing :: after ∧ Balanced opening closing inner ∧
        found = before.length + 1 + inner.length := by
  have behind : (before ++ item :: rest).drop (before.length + 1) = rest := by
    simp [List.drop_append]
  rw [closingIndex?, behind, closingFrom_eq_some_iff distinct 0 rfl]
  simp only [balanced_iff_nesting distinct]

theorem closingFrom_add (offset : Nat) {opened closed index : Nat} {items : List α} :
    closingFrom opening closing opened closed (offset + index) items =
      (closingFrom opening closing opened closed index items).map (offset + ·) := by
  fun_induction closingFrom opening closing opened closed index items with
  | case1 => rfl
  | case2 _ _ _ _ _ _ _ agree =>
      rw [closingFrom, if_pos agree]
      rfl
  | case3 _ _ _ _ _ _ _ differ inductionHypothesis =>
      rw [closingFrom, if_neg differ, Nat.add_assoc]
      exact inductionHypothesis

theorem closingFrom_append {opened closed index found : Nat} {items : List α}
    (isClosed : closingFrom opening closing opened closed index items = some found)
    (after : List α) :
    closingFrom opening closing opened closed index (items ++ after) = some found := by
  fun_induction closingFrom opening closing opened closed index items with
  | case1 => cases isClosed
  | case2 _ _ _ _ _ _ _ agree =>
      rw [List.cons_append, closingFrom, if_pos agree]
      exact isClosed
  | case3 _ _ _ _ _ _ _ differ inductionHypothesis =>
      rw [List.cons_append, closingFrom, if_neg differ]
      exact inductionHypothesis isClosed

/-- Counting starts at the opening item, whatever stands before it. -/
theorem closingIndex?_append_right (before items : List α) (index : Nat) :
    closingIndex? opening closing (before ++ items) (before.length + index) =
      (closingIndex? opening closing items index).map (before.length + ·) := by
  rw [closingIndex?, closingIndex?, Nat.add_assoc, List.drop_length_add_append, closingFrom_add]

/-- Counting stops where the counts agree, whatever stands behind. -/
theorem closingIndex?_append_left {items : List α} {index found : Nat}
    (isClosed : closingIndex? opening closing items index = some found) (after : List α) :
    closingIndex? opening closing (items ++ after) index = some found := by
  rw [closingIndex?] at isClosed ⊢
  by_cases within : index + 1 ≤ items.length
  · rw [List.drop_append_of_le_length within]
    exact closingFrom_append isClosed after
  · rw [List.drop_eq_nil_of_le (Nat.le_of_not_le within)] at isClosed
    cases isClosed

/-- Counting takes no notice of anything but what opens and what closes. -/
theorem closingIndex?_map {β : Type} [DecidableEq β] {opening' closing' : β} {kind : α → β}
    (opens : ∀ item, kind item = opening' ↔ item = opening)
    (closes : ∀ item, kind item = closing' ↔ item = closing) (items : List α) (index : Nat) :
    closingIndex? opening' closing' (items.map kind) index =
      closingIndex? opening closing items index := by
  have ofRest : ∀ (rest : List α) (opened closed start : Nat),
      closingFrom opening' closing' opened closed start (rest.map kind) =
        closingFrom opening closing opened closed start rest := by
    intro rest
    induction rest with
    | nil => intros; rfl
    | cons item rest inductionHypothesis =>
        intro opened closed start
        simp only [List.map_cons, closingFrom, opens, closes, inductionHypothesis]
  rw [closingIndex?, closingIndex?, ← List.map_drop, ofRest]

end Counts

namespace Token

/-- A group of tokens ends where the counts of parentheses agree. -/
theorem closingIndex?_eq_map_enclosed? (before rest : List Token) :
    closingIndex? openParen closeParen (before ++ openParen :: rest) before.length =
      (enclosed? rest).map fun (inner, _) => before.length + 1 + inner.length := by
  refine Option.ext fun found => ?_
  rw [closingIndex?_eq_some_iff (by decide), Option.map_eq_some_iff]
  constructor
  · rintro ⟨inner, after, split, balanced, rfl⟩
    exact ⟨(inner, after), enclosed?_eq_some_iff.mpr ⟨balanced, split⟩, rfl⟩
  · rintro ⟨⟨inner, after⟩, isGroup, rfl⟩
    obtain ⟨balanced, split⟩ := enclosed?_eq_some_iff.mp isGroup
    exact ⟨inner, after, split, balanced, rfl⟩

end Token

end Calculator
