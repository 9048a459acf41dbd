import Calculator.Proofs.Expr.Nodes

/-!
# Height of trees

To evaluate or to show a tree takes calls for the elements of a span, and for the operands of a run
of operations: the operations of the run are passed in a loop along its left spine. `callees` lists
what is called for, and `height` is how deep such calls nest, however long the runs are. The spans
of a tree are counted along its paths: the path with the most of them has `spanDepth` of them.
-/

namespace Calculator

namespace Expr

/-! ### Height -/

/-- The operands of a run of operations: the tree at the bottom of its left spine, and the right
operands from there on up. Every other tree is a run of one operand. -/
def spineOperands : Expr → List Expr
  | binary _ lhs rhs => lhs.spineOperands ++ [rhs]
  | expr => [expr]

/-- The trees for which a tree takes calls. -/
def callees : Expr → List Expr
  | literal _ => []
  | binary op lhs rhs => (binary op lhs rhs).spineOperands
  | composite elements _ => elements

mutual

/-- How deep the calls for a tree nest. -/
def height : Expr → Nat
  | literal _ => 0
  | binary _ lhs rhs => max lhs.spineHeight rhs.height + 1
  | composite elements _ => heightOf elements + 1

/-- The largest height among the operands of a run of operations. -/
def spineHeight : Expr → Nat
  | literal _ => 0
  | binary _ lhs rhs => max lhs.spineHeight rhs.height
  | composite elements _ => heightOf elements + 1

/-- The largest height among some trees. -/
def heightOf : List Expr → Nat
  | [] => 0
  | element :: elements => max element.height (heightOf elements)

end

theorem heightOf_append (first second : List Expr) :
    heightOf (first ++ second) = max (heightOf first) (heightOf second) := by
  induction first with
  | nil => simp [heightOf]
  | cons element first inductionHypothesis =>
      rw [List.cons_append, heightOf, heightOf, inductionHypothesis, Nat.max_assoc]

theorem height_le_heightOf {element : Expr} {elements : List Expr} (member : element ∈ elements) :
    element.height ≤ heightOf elements := by
  obtain ⟨before, after, rfl⟩ := List.append_of_mem member
  rw [heightOf_append, heightOf]
  omega

theorem heightOf_le_iff {elements : List Expr} {bound : Nat} :
    heightOf elements ≤ bound ↔ ∀ element ∈ elements, element.height ≤ bound := by
  induction elements with
  | nil => simp [heightOf]
  | cons element elements inductionHypothesis =>
      rw [heightOf, Nat.max_le, inductionHypothesis, List.forall_mem_cons]

theorem heightOf_spineOperands (expr : Expr) : heightOf expr.spineOperands = expr.spineHeight := by
  fun_induction spineOperands expr with
  | case1 op lhs rhs inductionHypothesis =>
      rw [heightOf_append, inductionHypothesis, spineHeight, heightOf, heightOf, Nat.max_zero]
  | case2 expr notBinary =>
      cases expr with
      | binary op lhs rhs => exact absurd rfl (notBinary op lhs rhs)
      | _ => rw [heightOf, heightOf, spineHeight, height, Nat.max_zero]

/-- A tree is one higher than the highest tree it takes a call for. -/
theorem height_eq {expr : Expr} (calls : ∀ value, expr ≠ literal value) :
    expr.height = heightOf expr.callees + 1 := by
  cases expr with
  | literal value => exact absurd rfl (calls value)
  | binary op lhs rhs => rw [callees, heightOf_spineOperands, height, spineHeight]
  | composite elements operators => rw [callees, height]

/-- Calls are for lower trees. -/
theorem height_lt_of_mem_callees {expr callee : Expr} (member : callee ∈ expr.callees) :
    callee.height < expr.height := by
  have calls : ∀ value, expr ≠ literal value := by
    rintro value rfl
    cases member
  rw [height_eq calls]
  exact Nat.lt_succ_of_le (height_le_heightOf member)

/-- A run of operations is one higher than its operands, every other tree is its own operand. -/
theorem height_le_of_spineHeight_le {expr : Expr} {bound : Nat}
    (within : expr.spineHeight ≤ bound) : expr.height ≤ bound + 1 := by
  cases expr with
  | literal value => exact Nat.zero_le _
  | binary op lhs rhs => exact Nat.succ_le_succ within
  | composite elements operators => exact Nat.le_succ_of_le within

theorem spineHeight_eq_height {expr : Expr} (notBinary : ∀ op lhs rhs, expr ≠ binary op lhs rhs) :
    expr.spineHeight = expr.height := by
  cases expr with
  | binary op lhs rhs => exact absurd rfl (notBinary op lhs rhs)
  | _ => rfl

/-! ### Paths -/

/-- Whether a node is a span. -/
def isComposite : Expr → Bool
  | composite _ _ => true
  | _ => false

/-- The nodes on the way from the root of a tree to one of its leaves. -/
inductive IsPath : Expr → List Expr → Prop where
  | literal (value : Float) : IsPath (literal value) [literal value]
  | empty (operators : List Operator) : IsPath (composite [] operators) [composite [] operators]
  | lhs {op : Operator} {lhs rhs : Expr} {path : List Expr} (isPath : IsPath lhs path) :
      IsPath (binary op lhs rhs) (binary op lhs rhs :: path)
  | rhs {op : Operator} {lhs rhs : Expr} {path : List Expr} (isPath : IsPath rhs path) :
      IsPath (binary op lhs rhs) (binary op lhs rhs :: path)
  | element {element : Expr} {elements : List Expr} {operators : List Operator} {path : List Expr}
      (member : element ∈ elements) (isPath : IsPath element path) :
      IsPath (composite elements operators) (composite elements operators :: path)

theorem spanDepth_le_spanDepthOf {element : Expr} {elements : List Expr}
    (member : element ∈ elements) : element.spanDepth ≤ spanDepthOf elements := by
  obtain ⟨before, after, rfl⟩ := List.append_of_mem member
  rw [spanDepthOf_append, spanDepthOf]
  omega

/-- No path passes more spans than the tree nests within each other. -/
theorem IsPath.countP_le {expr : Expr} {path : List Expr} (isPath : expr.IsPath path) :
    path.countP isComposite ≤ expr.spanDepth := by
  induction isPath with
  | literal value => exact Nat.zero_le _
  | empty operators => exact Nat.le_of_eq rfl
  | lhs isPath inductionHypothesis =>
      rw [List.countP_cons_of_neg (by simp [isComposite]), spanDepth]
      omega
  | rhs isPath inductionHypothesis =>
      rw [List.countP_cons_of_neg (by simp [isComposite]), spanDepth]
      omega
  | element member isPath inductionHypothesis =>
      rw [List.countP_cons_of_pos (by simp [isComposite]), spanDepth]
      have := spanDepth_le_spanDepthOf member
      omega

mutual

/-- Some path passes as many spans as the tree nests within each other. -/
theorem exists_isPath : (expr : Expr) →
    ∃ path, expr.IsPath path ∧ path.countP isComposite = expr.spanDepth
  | .literal value => ⟨_, .literal value, rfl⟩
  | .binary op lhs rhs => by
      obtain ⟨left, isLeft, ofLeft⟩ := exists_isPath lhs
      obtain ⟨right, isRight, ofRight⟩ := exists_isPath rhs
      rcases Nat.le_total lhs.spanDepth rhs.spanDepth with deeper | deeper
      · refine ⟨_, .rhs isRight, ?_⟩
        rw [List.countP_cons_of_neg (by simp [isComposite]), ofRight, spanDepth,
          Nat.max_eq_right deeper]
      · refine ⟨_, .lhs isLeft, ?_⟩
        rw [List.countP_cons_of_neg (by simp [isComposite]), ofLeft, spanDepth,
          Nat.max_eq_left deeper]
  | .composite [] operators => ⟨_, .empty operators, rfl⟩
  | .composite (element :: elements) operators => by
      obtain ⟨deepest, member, path, isPath, ofPath⟩ :=
        exists_isPathOf (element :: elements) (List.cons_ne_nil _ _)
      refine ⟨_, .element member isPath, ?_⟩
      rw [List.countP_cons_of_pos (by simp [isComposite]), ofPath, spanDepth]

theorem exists_isPathOf : (elements : List Expr) → elements ≠ [] →
    ∃ element ∈ elements, ∃ path, element.IsPath path ∧
      path.countP isComposite = spanDepthOf elements
  | [], nonempty => absurd rfl nonempty
  | first :: others, _ => by
      obtain ⟨path, isPath, ofPath⟩ := exists_isPath first
      by_cases deeper : spanDepthOf others ≤ first.spanDepth
      · refine ⟨first, List.mem_cons_self, path, isPath, ?_⟩
        rw [ofPath, spanDepthOf, Nat.max_eq_left deeper]
      · have nonempty : others ≠ [] := by
          rintro rfl
          exact deeper (Nat.zero_le _)
        obtain ⟨deepest, member, path, isPath, ofPath⟩ := exists_isPathOf others nonempty
        refine ⟨deepest, List.mem_cons_of_mem _ member, path, isPath, ?_⟩
        rw [ofPath, spanDepthOf, Nat.max_eq_right (Nat.le_of_not_le deeper)]

end

end Expr

end Calculator
