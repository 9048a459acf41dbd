import Calculator.Expr.Basic
import Calculator.Decimal.Text

/-!
# Bracketed text of a tree

A tree is shown with each operand in brackets and the operators behind the operands.
One operation is shown as a span of two elements. The text is written from left to
right; the left spine of a run of operations is walked in a loop, so that long runs
need no nesting.
-/

namespace Calculator

namespace Expr

/-- The right operands of a left spine that are still to be treated, innermost first,
each with its operator. -/
abbrev Spine := List (Operator × Expr)

/-- A bound on the work that a spine still needs. -/
def Spine.work : Spine → Nat
  | [] => 0
  | (_, rhs) :: spine => 3 * rhs.size + 1 + work spine

/-- The symbols of operators, in order. -/
def symbols (operators : List Operator) : String :=
  String.ofList (operators.map Operator.symbol)

mutual

/-- Write `expr`, the leftmost operand of a spine, and then the rest of the spine. -/
def renderDown (written : String) (spine : Spine) : Expr → String
  | literal value => renderUp (written ++ numberText value) spine
  | binary op lhs rhs => renderDown (written ++ "([") ((op, rhs) :: spine) lhs
  | composite elements operators =>
      let body := renderElements (written ++ "(") elements
      renderUp (body ++ " " ++ symbols operators ++ ")") spine
termination_by expr => 3 * expr.size + spine.work
decreasing_by all_goals simp only [size, Spine.work]; omega

/-- Write the right operands of a spine, and after each one its operator. -/
def renderUp (written : String) : Spine → String
  | [] => written
  | (op, rhs) :: spine =>
      let body := renderDown (written ++ "][") [] rhs
      renderUp ((body ++ "] ").push op.symbol ++ ")") spine
termination_by spine => spine.work
decreasing_by all_goals simp only [Spine.work]; omega

/-- Write elements one after another, each in brackets. -/
def renderElements (written : String) : List Expr → String
  | [] => written
  | element :: elements =>
      renderElements (renderDown (written ++ "[") [] element ++ "]") elements
termination_by elements => 3 * sizeElements elements + 1
decreasing_by
  all_goals
    have := element.size_pos
    simp only [sizeElements, Spine.work]; omega

end

/-- The bracketed text of a tree. -/
def render (expr : Expr) : String :=
  renderDown "" [] expr

end Expr

end Calculator
