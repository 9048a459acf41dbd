import Calculator.Proofs.Binary64.Text
import Calculator.Proofs.Expr.Bracketed

/-!
# What bracketed text tells of a tree

The outline of a tree has a plain text for each number and a group for everything else: an
operation is a group of two elements with one operator. Bracketed text is the text of the
outline, and the outline can be read off it, whatever brackets follow. So trees are shown
alike exactly if they have one outline.
-/

namespace Calculator

/-- A tree as far as its bracketed text tells. -/
inductive Outline where
  /-- A number is known by its text. -/
  | number (text : PlainText)
  /-- The counts of elements and operators need not fit together. -/
  | group (elements : List Outline) (operators : List Operator)

namespace Outline

mutual

/-- The characters that an outline is shown as. -/
def chars : Outline → List Char
  | number text => text.chars
  | group elements operators =>
      '(' :: (elementsChars elements ++ ' ' :: (operators.map Operator.symbol ++ [')']))

/-- Outlines one after another, each in brackets. -/
def elementsChars : List Outline → List Char
  | [] => []
  | element :: elements => '[' :: (element.chars ++ ']' :: elementsChars elements)

end

theorem symbol_injective : Function.Injective Operator.symbol := by
  intro left right same
  cases left <;> cases right <;> first | rfl | cases same

/-- The operators of a group reach up to its closing parenthesis. -/
theorem operators_inj {operators operators' : List Operator} {rest rest' : List Char}
    (same : operators.map Operator.symbol ++ ')' :: rest =
      operators'.map Operator.symbol ++ ')' :: rest') :
    operators = operators' ∧ rest = rest' := by
  have passes (operators : List Operator) :
      ∀ character ∈ operators.map Operator.symbol, ¬ character = ')' := by
    intro character member
    obtain ⟨op, -, rfl⟩ := List.mem_map.mp member
    cases op <;> decide
  obtain ⟨symbols, behind⟩ := append_inj_of_stops (passes operators) (passes operators')
    (by simp) (by simp) same
  exact ⟨symbol_injective.list_map symbols, (List.cons_eq_cons.mp behind).2⟩

/-- A number does not start like a group. -/
theorem number_append_ne_group (text : PlainText) (rest others : List Char) :
    text.chars ++ rest ≠ '(' :: others := by
  intro same
  cases starts : text.chars with
  | nil => exact text.written starts
  | cons first chars =>
      have plain := text.plain first (by simp [starts])
      rw [starts, List.cons_append, List.cons_eq_cons] at same
      obtain ⟨rfl, -⟩ := same
      cases plain

mutual

/-- An outline is known by its characters, with a closing bracket behind them or nothing. -/
theorem chars_inj : (left : Outline) → {right : Outline} → {rest rest' : List Char} →
    (∀ character ∈ rest.head?, character = ']') → (∀ character ∈ rest'.head?, character = ']') →
    left.chars ++ rest = right.chars ++ rest' → left = right ∧ rest = rest'
  | number text, number text', rest, rest', ends, ends', same => by
      have stops {rest : List Char} (ends : ∀ character ∈ rest.head?, character = ']') :
          ∀ character ∈ rest.head?, isBracket character = true := by
        intro character isHead
        rw [ends character isHead]
        rfl
      have passes (text : PlainText) :
          ∀ character ∈ text.chars, ¬ isBracket character = true := by
        intro character member
        simp [text.plain character member]
      obtain ⟨sameText, sameRest⟩ :=
        append_inj_of_stops (passes text) (passes text') (stops ends) (stops ends') same
      exact ⟨congrArg number (PlainText.ext sameText), sameRest⟩
  | number text, group elements operators, rest, rest', _, _, same =>
      absurd same (number_append_ne_group text _ _)
  | group elements operators, number text, rest, rest', _, _, same =>
      absurd same.symm (number_append_ne_group text _ _)
  | group elements operators, group elements' operators', rest, rest', _, _, same => by
      simp only [chars, List.cons_append, List.append_assoc, List.cons_eq_cons, true_and] at same
      obtain ⟨rfl, behind⟩ := elementsChars_inj elements same
      obtain ⟨rfl, sameRest⟩ := operators_inj behind
      exact ⟨rfl, sameRest⟩

/-- The elements of a group reach up to the space behind them. -/
theorem elementsChars_inj : (left : List Outline) → {right : List Outline} →
    {rest rest' : List Char} →
    elementsChars left ++ ' ' :: rest = elementsChars right ++ ' ' :: rest' →
    left = right ∧ rest = rest'
  | [], [], rest, rest', same => ⟨rfl, (List.cons_eq_cons.mp same).2⟩
  | [], element :: elements, rest, rest', same => by cases (List.cons_eq_cons.mp same).1
  | element :: elements, [], rest, rest', same => by cases (List.cons_eq_cons.mp same).1
  | element :: elements, element' :: elements', rest, rest', same => by
      simp only [elementsChars, List.cons_append, List.append_assoc, List.cons_eq_cons,
        true_and] at same
      obtain ⟨rfl, behind⟩ := chars_inj element (by simp) (by simp) same
      obtain ⟨rfl, sameRest⟩ := elementsChars_inj elements (List.cons_eq_cons.mp behind).2
      exact ⟨rfl, sameRest⟩

end

theorem chars_injective : Function.Injective chars := by
  intro left right same
  have padded : left.chars ++ [] = right.chars ++ [] := congrArg (· ++ []) same
  exact (chars_inj left (by simp) (by simp) padded).1

end Outline

namespace Expr

mutual

/-- The outline of a tree: operations become groups. -/
def outline : Expr → Outline
  | literal value => .number (plainNumber value)
  | binary op lhs rhs => .group [lhs.outline, rhs.outline] [op]
  | composite elements operators => .group (outlines elements) operators

/-- The outlines of trees, one by one. -/
def outlines : List Expr → List Outline
  | [] => []
  | element :: elements => element.outline :: outlines elements

end

mutual

theorem toList_bracketed : (expr : Expr) → expr.bracketed.toList = expr.outline.chars
  | literal value => by simp [bracketed, numberText, outline, Outline.chars, plainNumber]
  | binary op lhs rhs => by
      simp [bracketed, outline, Outline.chars, Outline.elementsChars, toList_bracketed lhs,
        toList_bracketed rhs]
  | composite elements operators => by
      simp [bracketed, outline, Outline.chars, toList_bracketedElements elements]

theorem toList_bracketedElements : (elements : List Expr) →
    (bracketedElements elements).toList = Outline.elementsChars (outlines elements)
  | [] => by simp [bracketedElements, outlines, Outline.elementsChars]
  | element :: elements => by
      simp [bracketedElements, outlines, Outline.elementsChars, toList_bracketed element,
        toList_bracketedElements elements]

end

/-- A tree is shown as the characters of its outline. -/
theorem toList_render (expr : Expr) : expr.render.toList = expr.outline.chars := by
  rw [render, renderDown_nil, String.empty_append, toList_bracketed]

/-- Trees are shown alike exactly if they have one outline. -/
theorem render_eq_render_iff {left right : Expr} :
    left.render = right.render ↔ left.outline = right.outline := by
  rw [← String.toList_inj, toList_render, toList_render, Outline.chars_injective.eq_iff]

end Expr

end Calculator
