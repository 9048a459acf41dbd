import Calculator.Expr.Basic

/-!
# Trees with a hole

A context is a tree in which one subtree is left out. Filling its hole gives a tree, and two
contexts may be put into each other.
-/

namespace Calculator

namespace Expr

/-- Trees with one hole. -/
inductive Context where
  | hole
  /-- The hole is in the left operand of an operation. -/
  | lhs (op : Operator) (context : Context) (rhs : Expr)
  /-- The hole is in the right operand of an operation. -/
  | rhs (op : Operator) (lhs : Expr) (context : Context)
  /-- The hole is in an element of a span. -/
  | element (before : List Expr) (context : Context) (after : List Expr)
      (operators : List Operator)

namespace Context

/-- The tree with another one in the hole. -/
def fill : Context → Expr → Expr
  | hole, expr => expr
  | lhs op context right, expr => .binary op (context.fill expr) right
  | rhs op left context, expr => .binary op left (context.fill expr)
  | element before context after operators, expr =>
      .composite (before ++ context.fill expr :: after) operators

/-- The context with another one in the hole. -/
def comp : Context → Context → Context
  | hole, inner => inner
  | lhs op context right, inner => lhs op (context.comp inner) right
  | rhs op left context, inner => rhs op left (context.comp inner)
  | element before context after operators, inner =>
      element before (context.comp inner) after operators

@[simp] theorem fill_hole (expr : Expr) : hole.fill expr = expr := rfl

@[simp] theorem fill_lhs (op : Operator) (context : Context) (right expr : Expr) :
    (lhs op context right).fill expr = .binary op (context.fill expr) right := rfl

@[simp] theorem fill_rhs (op : Operator) (left : Expr) (context : Context) (expr : Expr) :
    (rhs op left context).fill expr = .binary op left (context.fill expr) := rfl

@[simp] theorem fill_element (before : List Expr) (context : Context) (after : List Expr)
    (operators : List Operator) (expr : Expr) :
    (element before context after operators).fill expr =
      .composite (before ++ context.fill expr :: after) operators := rfl

/-- To fill the hole of two contexts is to fill the one with what the other is filled to. -/
theorem fill_comp (outer inner : Context) (expr : Expr) :
    (outer.comp inner).fill expr = outer.fill (inner.fill expr) := by
  induction outer with
  | hole => rfl
  | lhs op context right inductionHypothesis => simp [comp, inductionHypothesis]
  | rhs op left context inductionHypothesis => simp [comp, inductionHypothesis]
  | element before context after operators inductionHypothesis => simp [comp, inductionHypothesis]

end Context

end Expr

end Calculator
