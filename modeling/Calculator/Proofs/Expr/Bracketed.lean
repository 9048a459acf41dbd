import Calculator.Expr.Render

/-!
# Bracketed text by recursion

The left spine of a run of operations is written in a loop, inner operations first. This
comes to the same as writing each tree inside the text of the tree around it.
-/

namespace Calculator

namespace Expr

/-- Operators one after another, each by its symbol. -/
def bracketedOperators : List Operator → String
  | [] => ""
  | op :: operators => String.singleton op.symbol ++ bracketedOperators operators

mutual

/-- The bracketed text of a tree, by recursion on the tree. -/
def bracketed : Expr → String
  | literal value => numberText value
  | binary op lhs rhs =>
      "([" ++ lhs.bracketed ++ "][" ++ rhs.bracketed ++ "] " ++ String.singleton op.symbol ++ ")"
  | composite elements operators =>
      "(" ++ bracketedElements elements ++ " " ++ bracketedOperators operators ++ ")"

/-- Trees one after another, each in brackets. -/
def bracketedElements : List Expr → String
  | [] => ""
  | element :: elements => "[" ++ element.bracketed ++ "]" ++ bracketedElements elements

end

@[simp] theorem toList_bracketedOperators (operators : List Operator) :
    (bracketedOperators operators).toList = operators.map Operator.symbol := by
  induction operators with
  | nil => rfl
  | cons op operators inductionHypothesis =>
      rw [bracketedOperators, String.toList_append, inductionHypothesis, String.toList_singleton]
      rfl

theorem symbols_eq (operators : List Operator) :
    symbols operators = bracketedOperators operators := by
  rw [← String.toList_inj, toList_bracketedOperators, symbols, String.toList_ofList]

mutual

/-- The leftmost operand of a spine is written in its place, whatever follows. -/
theorem renderDown_eq_renderUp (written : String) (spine : Spine) : (expr : Expr) →
    renderDown written spine expr = renderUp (written ++ expr.bracketed) spine
  | literal value => by rw [renderDown, bracketed]
  | binary op lhs rhs => by
      rw [renderDown, renderDown_eq_renderUp _ _ lhs, renderUp, renderDown_eq_renderUp _ _ rhs,
        renderUp, bracketed, ← String.append_singleton]
      simp only [String.append_assoc]
  | composite elements operators => by
      rw [renderDown, renderElements_eq_append, symbols_eq, bracketed]
      simp only [String.append_assoc]

theorem renderElements_eq_append (written : String) : (elements : List Expr) →
    renderElements written elements = written ++ bracketedElements elements
  | [] => by rw [renderElements, bracketedElements, String.append_empty]
  | element :: elements => by
      rw [renderElements, renderDown_eq_renderUp _ _ element, renderUp,
        renderElements_eq_append _ elements, bracketedElements]
      simp only [String.append_assoc]

end

theorem renderDown_nil (written : String) (expr : Expr) :
    renderDown written [] expr = written ++ expr.bracketed := by
  rw [renderDown_eq_renderUp, renderUp]

/-- However deep its runs of operations and its spans are, and however they are mixed, a tree is
shown as recursion on the tree writes it. -/
theorem render_refines_bracketed (expr : Expr) : expr.render = expr.bracketed := by
  rw [render, renderDown_nil, String.empty_append]

end Expr

end Calculator
