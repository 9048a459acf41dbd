import Calculator.Expr.Basic

/-!
# Nodes of trees

What holds at every node of a tree is stated by going through the list of its nodes. A tree
with no NaN among its numbers is equal to itself. How deep spans nest is the largest number of
them on a way from the root to a number.
-/

namespace Calculator

namespace Expr

/-! ### Nodes -/

mutual

/-- The nodes of a tree, from the tree itself down to its numbers. -/
def nodes : Expr → List Expr
  | literal value => [literal value]
  | binary op lhs rhs => binary op lhs rhs :: (lhs.nodes ++ rhs.nodes)
  | composite elements operators => composite elements operators :: nodesOf elements

/-- The nodes of some trees. -/
def nodesOf : List Expr → List Expr
  | [] => []
  | element :: elements => element.nodes ++ nodesOf elements

end

theorem mem_nodesOf {node : Expr} {elements : List Expr} :
    node ∈ nodesOf elements ↔ ∃ element ∈ elements, node ∈ element.nodes := by
  induction elements with
  | nil => simp [nodesOf]
  | cons element elements inductionHypothesis => simp [nodesOf, inductionHypothesis]

theorem mem_nodes_self (expr : Expr) : expr ∈ expr.nodes := by
  cases expr <;> simp [nodes]

/-- Something holds of all nodes of an operation if it holds of the operation and of all
nodes of its operands. -/
theorem forall_nodes_binary {holds : Expr → Prop} {op : Operator} {lhs rhs : Expr} :
    (∀ node ∈ (binary op lhs rhs).nodes, holds node) ↔
      holds (binary op lhs rhs) ∧ (∀ node ∈ lhs.nodes, holds node) ∧
        ∀ node ∈ rhs.nodes, holds node := by
  simp [nodes, or_imp, forall_and]

/-- Something holds of all nodes of a span if it holds of the span and of all nodes of its
elements. -/
theorem forall_nodes_composite {holds : Expr → Prop} {elements : List Expr}
    {operators : List Operator} :
    (∀ node ∈ (composite elements operators).nodes, holds node) ↔
      holds (composite elements operators) ∧
        ∀ element ∈ elements, ∀ node ∈ element.nodes, holds node := by
  simp only [nodes, List.forall_mem_cons, mem_nodesOf]
  exact and_congr_right fun _ =>
    ⟨fun all element member node isNode => all node ⟨element, member, isNode⟩,
      fun all node ⟨element, member, isNode⟩ => all element member node isNode⟩

mutual

/-- A tree is equal to itself if all its numbers are. -/
theorem beq_self : (expr : Expr) →
    (∀ value, literal value ∈ expr.nodes → (value == value) = true) → beq expr expr = true
  | literal value, numbers => numbers value (mem_nodes_self _)
  | binary op lhs rhs, numbers => by
      have ofLhs := beq_self lhs fun value member => numbers value (by simp [nodes, member])
      have ofRhs := beq_self rhs fun value member => numbers value (by simp [nodes, member])
      simp [beq, ofLhs, ofRhs]
  | composite elements operators, numbers => by
      have ofElements := beqElements_self elements fun value member =>
        numbers value (by simp [nodes, member])
      simp [beq, ofElements]

theorem beqElements_self : (elements : List Expr) →
    (∀ value, literal value ∈ nodesOf elements → (value == value) = true) →
      beqElements elements elements = true
  | [], _ => rfl
  | element :: elements, numbers => by
      have ofFirst := beq_self element fun value member => numbers value (by simp [nodesOf, member])
      have ofOthers := beqElements_self elements fun value member =>
        numbers value (by simp [nodesOf, member])
      simp [beqElements, ofFirst, ofOthers]

end

/-! ### Nesting of spans -/

mutual

/-- The number of spans that a tree nests within each other, itself included. -/
def spanDepth : Expr → Nat
  | literal _ => 0
  | binary _ lhs rhs => max lhs.spanDepth rhs.spanDepth
  | composite elements _ => spanDepthOf elements + 1

/-- The number of spans that some trees nest within each other. -/
def spanDepthOf : List Expr → Nat
  | [] => 0
  | element :: elements => max element.spanDepth (spanDepthOf elements)

end

/-- The number of spans that a tree nests within each other below its root. -/
def innerDepth : Expr → Nat
  | literal _ => 0
  | binary _ lhs rhs => max lhs.spanDepth rhs.spanDepth
  | composite elements _ => spanDepthOf elements

@[simp] theorem spanDepthOf_append (first second : List Expr) :
    spanDepthOf (first ++ second) = max (spanDepthOf first) (spanDepthOf second) := by
  induction first with
  | nil => simp [spanDepthOf]
  | cons element first inductionHypothesis =>
      rw [List.cons_append, spanDepthOf, spanDepthOf, inductionHypothesis, Nat.max_assoc]

theorem spanDepthOf_reverse (elements : List Expr) :
    spanDepthOf elements.reverse = spanDepthOf elements := by
  induction elements with
  | nil => rfl
  | cons element elements inductionHypothesis =>
      rw [List.reverse_cons, spanDepthOf_append, inductionHypothesis, spanDepthOf, spanDepthOf,
        spanDepthOf, Nat.max_zero, Nat.max_comm]

end Expr

end Calculator
