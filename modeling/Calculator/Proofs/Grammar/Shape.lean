import Calculator.Proofs.Decimal.Value
import Calculator.Proofs.Expr.Nodes
import Calculator.Proofs.Grammar.Tree

/-!
# The shape of trees

Trees that come from written expressions are special: every span is closed by adding zero
and joins its other terms by additive operators, operations are multiplicative and lean to
the left, and numbers have no sign. `Shaped` says this of one node, so it is stated for a
tree by going through its `nodes`. Groups of an expression become spans of its tree.
-/

namespace Calculator

theorem Operator.isMultiplicative_eq_false_iff {op : Operator} :
    op.isMultiplicative = false ↔ op = .add ∨ op = .subtract := by
  cases op <;> simp [isMultiplicative]

theorem Operator.isMultiplicative_eq_true_iff {op : Operator} :
    op.isMultiplicative = true ↔ op = .multiply ∨ op = .divide := by
  cases op <;> simp [isMultiplicative]

namespace Expr

/-- The elements and operators of a span that joins its terms by additive operators and is
closed by adding zero. -/
structure Closed (elements : List Expr) (operators : List Operator) : Prop where
  counts : elements.length = operators.length + 1
  hasTerm : 2 ≤ elements.length
  additive : ∀ op ∈ operators, op = .add ∨ op = .subtract
  lastOperator : operators.getLast? = some .add
  lastElement : elements.getLast? = some (.literal 0.0)

/-- The shape that each node has in the tree of a written expression. -/
def Shaped : Expr → Prop
  | literal value => Binary64.IsUnsigned value
  | binary op _ rhs => (op = .multiply ∨ op = .divide) ∧ ∀ op' lhs' rhs', rhs ≠ binary op' lhs' rhs'
  | composite elements operators => Closed elements operators

/-- A number without a sign is all there is to shape in a literal. -/
theorem shaped_literal {value : Float} (isUnsigned : Binary64.IsUnsigned value) :
    ∀ node ∈ (literal value).nodes, node.Shaped := by
  simpa [nodes, Shaped] using isUnsigned

/-- Terms with additive operators behind all but the last of them make a closed span. -/
theorem closed_terms {terms : List (Expr × Operator)} (last : Expr)
    (additive : ∀ term ∈ terms, term.2.isMultiplicative = false) :
    Closed (terms.map Prod.fst ++ [last, .literal 0.0]) (terms.map Prod.snd ++ [.add]) where
  counts := by simp
  hasTerm := by simp
  additive := by
    intro op member
    rcases List.mem_append.mp member with member | member
    · obtain ⟨term, isTerm, rfl⟩ := List.mem_map.mp member
      exact Operator.isMultiplicative_eq_false_iff.mp (additive term isTerm)
    · exact .inl (List.mem_singleton.mp member)
  lastOperator := by simp
  lastElement := by simp

/-- A closed span has elements before its last one, and one operator less between them. -/
theorem Closed.exists_others {elements : List Expr} {operators : List Operator}
    (closed : Closed elements operators) :
    ∃ others between, elements = others ++ [.literal 0.0] ∧ operators = between ++ [.add] ∧
      others.length = between.length + 1 := by
  obtain ⟨others, rfl⟩ := List.getLast?_eq_some_iff.mp closed.lastElement
  obtain ⟨between, rfl⟩ := List.getLast?_eq_some_iff.mp closed.lastOperator
  exact ⟨others, between, rfl, rfl, by simpa using closed.counts⟩

/-- A closed span has terms with additive operators behind all but the last of them. -/
theorem Closed.exists_terms {elements : List Expr} {operators : List Operator}
    (closed : Closed elements operators) :
    ∃ (terms : List (Expr × Operator)) (last : Expr),
      elements = terms.map Prod.fst ++ [last, .literal 0.0] ∧
        operators = terms.map Prod.snd ++ [.add] ∧
          ∀ term ∈ terms, term.2.isMultiplicative = false := by
  obtain ⟨others, between, rfl, rfl, counts⟩ := closed.exists_others
  obtain ⟨front, last, rfl⟩ : ∃ front last, others = front ++ [last] := by
    rcases List.eq_nil_or_concat' others with rfl | concat
    · cases counts
    · exact concat
  have sameLength : front.length = between.length := by simpa using counts
  refine ⟨front.zip between, last, ?_, ?_, ?_⟩
  · rw [List.map_fst_zip (Nat.le_of_eq sameLength)]
    simp
  · rw [List.map_snd_zip (Nat.le_of_eq sameLength.symm)]
  · intro term member
    apply Operator.isMultiplicative_eq_false_iff.mpr
    exact closed.additive term.2 (by simp [(List.of_mem_zip member).2])

/-- A closed span has a first element, and others with an additive operator before each. -/
theorem Closed.exists_row {elements : List Expr} {operators : List Operator}
    (closed : Closed elements operators) :
    ∃ (first : Expr) (row : List (Operator × Expr)),
      elements = first :: row.map Prod.snd ++ [.literal 0.0] ∧
        operators = row.map Prod.fst ++ [.add] ∧
          ∀ next ∈ row, next.1.isMultiplicative = false := by
  obtain ⟨others, between, rfl, rfl, counts⟩ := closed.exists_others
  obtain ⟨first, rest, rfl⟩ := List.exists_cons_of_length_eq_add_one counts
  have sameLength : rest.length = between.length := by simpa using counts
  refine ⟨first, between.zip rest, ?_, ?_, ?_⟩
  · rw [List.map_snd_zip (Nat.le_of_eq sameLength)]
  · rw [List.map_fst_zip (Nat.le_of_eq sameLength.symm)]
  · intro next member
    apply Operator.isMultiplicative_eq_false_iff.mpr
    exact closed.additive next.1 (by simp [(List.of_mem_zip member).1])

end Expr

/-! ### Depth of the trees of written expressions -/

theorem Span.spanDepth_expr_eq (span : Span) :
    span.expr.spanDepth = span.expr.innerDepth + 1 := by
  rw [expr, Expr.spanDepth, Expr.innerDepth]

theorem Span.innerDepth_expr_eq (span : Span) :
    span.expr.innerDepth =
      max (Expr.spanDepthOf (span.terms.map Prod.fst)) span.last.spanDepth := by
  have reversed := Expr.spanDepthOf_reverse (span.terms.map Prod.fst)
  rw [Span.expr, Expr.innerDepth]
  simp [Expr.spanDepthOf, Expr.spanDepth, reversed]

mutual

theorem Factor.spanDepth_expr (first : Bool) : (factor : Factor) →
    (factor.expr first).spanDepth = factor.depth
  | .number run => by rw [Factor.expr, Expr.spanDepth, Factor.depth]
  | .group span => by
      rw [Factor.expr_group, Span.spanDepth_expr_eq, span.innerDepth_expr, Factor.depth]

theorem Term.spanDepth_expr (first : Bool) : (term : Term) →
    (term.expr first).spanDepth = term.depth
  | .single factor => factor.spanDepth_expr first
  | .product term op factor => by
      rw [Term.expr, Expr.spanDepth, Term.depth, term.spanDepth_expr, factor.spanDepth_expr]

/-- The groups of a span are the spans below the root of its tree. -/
theorem Span.innerDepth_expr : (span : Span) → span.expr.innerDepth = span.depth
  | .unsigned term => by
      rw [Span.innerDepth_expr_eq]
      simp [Span.terms, Span.last, Expr.spanDepthOf, Span.depth, term.spanDepth_expr true]
  | .signed sign term => by
      rw [Span.innerDepth_expr_eq]
      simp [Span.terms, Span.last, Expr.spanDepthOf, Expr.spanDepth, Span.depth,
        term.spanDepth_expr false]
  | .sum span op term => by
      have before := span.innerDepth_expr
      rw [Span.innerDepth_expr_eq] at before ⊢
      rw [Span.terms, Span.last, List.map_cons, Expr.spanDepthOf, Span.depth,
        term.spanDepth_expr false, ← before, Nat.max_comm span.last.spanDepth]

end

/-! ### Shape of these trees -/

/-- A factor is a number or a group, so its tree is no operation. -/
theorem Factor.expr_ne_binary (first : Bool) (factor : Factor) (op : Operator) (lhs rhs : Expr) :
    factor.expr first ≠ .binary op lhs rhs := by
  cases factor with
  | number run => simp [expr]
  | group span => simp [expr]

/-- What shows that the tree of a span is shaped: its terms are, and the operators between
them are additive. -/
structure Span.ShapedTerms (span : Span) : Prop where
  terms : ∀ term ∈ span.terms, ∀ node ∈ term.1.nodes, node.Shaped
  additive : ∀ term ∈ span.terms, term.2.isMultiplicative = false
  last : ∀ node ∈ span.last.nodes, node.Shaped

theorem Span.ShapedTerms.shaped_expr {span : Span} (shaped : span.ShapedTerms) :
    ∀ node ∈ span.expr.nodes, node.Shaped := by
  rw [expr, Expr.forall_nodes_composite]
  constructor
  · apply Expr.closed_terms
    intro term member
    exact shaped.additive term (List.mem_reverse.mp member)
  · intro element member
    rcases List.mem_append.mp member with isTerm | isLast
    · obtain ⟨term, isIn, rfl⟩ := List.mem_map.mp isTerm
      exact shaped.terms term (List.mem_reverse.mp isIn)
    · rcases List.mem_pair.mp isLast with rfl | rfl
      · exact shaped.last
      · exact Expr.shaped_literal (.inl rfl)

mutual

theorem Factor.shaped_expr {first : Bool} : (factor : Factor) → factor.WellFormed first →
    ∀ node ∈ (factor.expr first).nodes, node.Shaped
  | .number run, _ => by
      rw [Factor.expr]
      exact Expr.shaped_literal (isUnsigned_numberValue _)
  | .group span, wellFormed => by
      rw [Factor.expr_group]
      exact (span.shapedTerms wellFormed).shaped_expr

theorem Term.shaped_expr {first : Bool} : (term : Term) → term.WellFormed first →
    ∀ node ∈ (term.expr first).nodes, node.Shaped
  | .single factor, wellFormed => factor.shaped_expr wellFormed
  | .product term op factor, ⟨ofTerm, multiplicative, ofFactor⟩ => by
      rw [Term.expr, Expr.forall_nodes_binary]
      exact ⟨⟨Operator.isMultiplicative_eq_true_iff.mp multiplicative, factor.expr_ne_binary false⟩,
        term.shaped_expr ofTerm, factor.shaped_expr ofFactor⟩

theorem Span.shapedTerms : (span : Span) → span.WellFormed → span.ShapedTerms
  | .unsigned term, wellFormed =>
      { terms := by simp [Span.terms]
        additive := by simp [Span.terms]
        last := term.shaped_expr wellFormed }
  | .signed sign term, ⟨additive, ofTerm⟩ =>
      { terms := by simpa [Span.terms] using Expr.shaped_literal (.inl rfl)
        additive := by simpa [Span.terms] using additive
        last := term.shaped_expr ofTerm }
  | .sum span op term, ⟨ofSpan, additive, ofTerm⟩ =>
      have before := span.shapedTerms ofSpan
      { terms := by
          intro other member
          rcases List.mem_cons.mp member with rfl | member
          · exact before.last
          · exact before.terms other member
        additive := by
          intro other member
          rcases List.mem_cons.mp member with rfl | member
          · exact additive
          · exact before.additive other member
        last := term.shaped_expr ofTerm }

end

/-- Every node in the tree of a source is shaped. -/
theorem Source.shaped_expr {source : Source} (wellFormed : source.WellFormed) :
    ∀ node ∈ source.expr.nodes, node.Shaped := by
  cases source with
  | empty =>
      rw [expr, Expr.forall_nodes_composite]
      refine ⟨Expr.closed_terms (.literal 0.0) (by simp : ∀ term ∈ [], _), ?_⟩
      simpa using Expr.shaped_literal (.inl rfl)
  | written span => exact (span.shapedTerms wellFormed).shaped_expr

end Calculator
