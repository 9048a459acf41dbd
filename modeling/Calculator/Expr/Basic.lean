import Calculator.Operator

/-!
# Expression trees

A tree holds numbers, single operations, and spans whose elements are folded from
left to right. Any tree may be built by hand; reading a text builds only some of
them. Equality compares shapes, and numbers as binary64 does, so that a tree with
a NaN differs from itself.
-/

namespace Calculator

/-- Arithmetic expressions. -/
inductive Expr where
  /-- A number. -/
  | literal (value : Float)
  /-- One operation on two operands. -/
  | binary (op : Operator) (lhs rhs : Expr)
  /-- Elements to be folded from left to right by the operators between them. The
  counts need not fit together; evaluation reports it when they do not. -/
  | composite (elements : List Expr) (operators : List Operator)

namespace Expr

mutual

/-- Whether two trees have one shape, the same operators, and numbers that compare
equal. The right operand is compared first: what remains is the left one, so a
long run of operations is compared in a loop. -/
def beq : Expr → Expr → Bool
  | literal value, literal value' => value == value'
  | binary op lhs rhs, binary op' lhs' rhs' => op == op' && beq rhs rhs' && beq lhs lhs'
  | composite elements operators, composite elements' operators' =>
      operators == operators' && beqElements elements elements'
  | _, _ => false

/-- Whether two lists of trees are equal tree by tree. -/
def beqElements : List Expr → List Expr → Bool
  | [], [] => true
  | element :: elements, element' :: elements' =>
      beq element element' && beqElements elements elements'
  | _, _ => false

end

instance : BEq Expr where
  beq := beq

mutual

/-- The number of nodes of a tree. -/
def size : Expr → Nat
  | literal _ => 1
  | binary _ lhs rhs => lhs.size + rhs.size + 1
  | composite elements _ => sizeElements elements + 1

/-- The number of nodes of a list of trees. -/
def sizeElements : List Expr → Nat
  | [] => 0
  | element :: elements => element.size + sizeElements elements

end

theorem size_pos (expr : Expr) : 0 < expr.size := by
  cases expr <;> simp [size]

end Expr

end Calculator
