import Calculator.Proofs.Expr.Calls
import Calculator.Proofs.Grammar.Shape
import Calculator.Proofs.Parse.Acceptance

/-!
# Height of the trees of texts

How high the tree of a text is depends on its parentheses alone. A factor is a number or the span
of a group, so it is no run of operations itself; and a run has no others among its operands. So
each group adds a span and at most one run to the height of a tree, and neither the length of a
text nor that of its runs adds to it.
-/

namespace Calculator

/-! ### Height of the trees of written expressions -/

/-- What bounds the height of the tree of a span: its terms are not higher. -/
structure Span.TermsWithin (bound : Nat) (span : Span) : Prop where
  terms : ∀ term ∈ span.terms, term.1.height ≤ bound
  last : span.last.height ≤ bound

theorem Span.TermsWithin.mono {bound bound' : Nat} {span : Span} (within : span.TermsWithin bound)
    (le : bound ≤ bound') : span.TermsWithin bound' :=
  ⟨fun term member => Nat.le_trans (within.terms term member) le, Nat.le_trans within.last le⟩

/-- The tree of a span is one higher than its terms. -/
theorem Span.TermsWithin.height_le {bound : Nat} {span : Span} (within : span.TermsWithin bound) :
    span.expr.height ≤ bound + 1 := by
  rw [Span.expr, Expr.height]
  refine Nat.succ_le_succ (Expr.heightOf_le_iff.mpr fun element member => ?_)
  rcases List.mem_append.mp member with isTerm | isLast
  · obtain ⟨term, isIn, rfl⟩ := List.mem_map.mp isTerm
    exact within.terms term (List.mem_reverse.mp isIn)
  · rcases List.mem_pair.mp isLast with rfl | rfl
    · exact within.last
    · exact Nat.zero_le _

mutual

theorem Factor.height_expr_le (first : Bool) : (factor : Factor) →
    (factor.expr first).height ≤ 2 * factor.depth
  | .number run => by
      rw [Factor.expr]
      exact Nat.zero_le _
  | .group span => by
      have ofSpan := span.termsWithin.height_le
      rw [Factor.expr_group, Factor.depth]
      omega

/-- The operands of a term are factors. -/
theorem Term.spineHeight_expr_le (first : Bool) : (term : Term) →
    (term.expr first).spineHeight ≤ 2 * term.depth
  | .single factor => by
      have ofFactor := factor.height_expr_le first
      rw [Term.expr, Expr.spineHeight_eq_height (factor.expr_ne_binary first)]
      exact ofFactor
  | .product term op factor => by
      have ofTerm := term.spineHeight_expr_le first
      have ofFactor := factor.height_expr_le false
      rw [Term.expr, Expr.spineHeight, Term.depth]
      omega

theorem Span.termsWithin : (span : Span) → span.TermsWithin (2 * span.depth + 1)
  | .unsigned term =>
      { terms := by simp [Span.terms]
        last := Expr.height_le_of_spineHeight_le (term.spineHeight_expr_le true) }
  | .signed sign term =>
      { terms := by simp [Span.terms, Expr.height]
        last := Expr.height_le_of_spineHeight_le (term.spineHeight_expr_le false) }
  | .sum span op term => by
      have before : span.TermsWithin (2 * (Span.sum span op term).depth + 1) :=
        span.termsWithin.mono (by rw [Span.depth]; omega)
      have ofTerm := term.spineHeight_expr_le false
      refine ⟨fun other member => ?_, Expr.height_le_of_spineHeight_le ?_⟩
      · rcases List.mem_cons.mp member with rfl | member
        · exact before.last
        · exact before.terms other member
      · rw [Span.depth]
        exact Nat.le_trans ofTerm (by omega)

end

theorem Source.height_expr_le (source : Source) : source.expr.height ≤ 2 * (source.depth + 1) := by
  cases source with
  | empty => decide
  | written span => exact span.termsWithin.height_le

theorem Source.spanDepth_expr (source : Source) : source.expr.spanDepth = source.depth + 1 := by
  cases source with
  | empty => rfl
  | written span => rw [Source.expr, Span.spanDepth_expr_eq, span.innerDepth_expr, Source.depth]

/-! ### Height of the trees of texts -/

/-- The tree of a text is at most twice as high as its parentheses nest, counting the text itself,
and so are the calls nested that evaluate or show it. Some path passes a span for each level of
nesting, and no path passes more. -/
theorem height_of_parse {settings : Settings} {source : String} {expr : Expr}
    (parsed : (parse settings source).result = .ok expr) :
    expr.height ≤ 2 * (nestingDepth source + 1) ∧
      2 * (nestingDepth source + 1) ≤ 2 * (settings.maxDepth + 1) ∧
      (∀ path, expr.IsPath path → path.countP Expr.isComposite ≤ nestingDepth source + 1) ∧
      (∃ path, expr.IsPath path ∧ path.countP Expr.isComposite = nestingDepth source + 1) ∧
      ∀ calls > 2 * (nestingDepth source + 1),
        (∀ policy overflow, expr.evaluateWithin policy overflow calls = expr.evaluate policy) ∧
        ∀ overflow, Expr.renderWithin overflow calls expr = expr.render := by
  obtain ⟨written, wellFormed, within, rfl, rfl⟩ := exists_source_of_parse parsed
  have height := written.height_expr_le
  have depth := written.spanDepth_expr
  rw [Source.nestingDepth_text wellFormed]
  refine ⟨height, by omega, fun path isPath => ?_, ?_, fun calls enough => ⟨?_, ?_⟩⟩
  · rw [← depth]
    exact isPath.countP_le
  · rw [← depth]
    exact written.expr.exists_isPath
  · intro policy overflow
    exact Expr.evaluateWithin_eq overflow (Nat.lt_of_le_of_lt height enough)
  · intro overflow
    exact Expr.renderWithin_eq overflow (Nat.lt_of_le_of_lt height enough)

/-- A product in a group that is a factor is as high as trees of this depth get. -/
theorem height_of_parse_product_in_product :
    ∃ expr, (parse { maxDepth := 1 } "2*(3*4)").result = .ok expr ∧ expr.height = 4 ∧
      expr.height ≤ 2 * (nestingDepth "2*(3*4)" + 1) ∧
      ∃ path, expr.IsPath path ∧ path.countP Expr.isComposite = nestingDepth "2*(3*4)" + 1 := by
  let inner : Term := .product (.single (.number ['3'])) .multiply (.number ['4'])
  let written : Source := .written (.unsigned
    (.product (.single (.number ['2'])) .multiply (.group (.unsigned inner))))
  have wellFormed : written.WellFormed :=
    ⟨numberRun_digit true rfl, rfl, numberRun_digit true rfl, rfl, numberRun_digit false rfl⟩
  have parsed : (parse { maxDepth := 1 } "2*(3*4)").result = .ok written.expr :=
    congrArg Logged.result (parse_text wellFormed (by decide))
  obtain ⟨height, -, -, path, -⟩ := height_of_parse parsed
  exact ⟨written.expr, parsed, rfl, height, path⟩

end Calculator
