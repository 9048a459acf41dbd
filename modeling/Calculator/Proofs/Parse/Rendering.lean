import Calculator.Proofs.Expr.Outline
import Calculator.Proofs.Grammar.Shape
import Calculator.Proofs.Parse.Acceptance

/-!
# What trees are shown as

Trees are shown alike exactly if they have one outline, so an operation is shown like a span
of its two operands. The shape of the trees of texts tells the two apart: an operation
multiplies or divides, and the last operator of a span adds. So trees of texts that are shown
alike are the same.
-/

namespace Calculator

open Token

namespace Expr

/-- An operation of a written expression is not shown as one of its spans. -/
theorem Closed.operators_ne_singleton {elements : List Expr} {operators : List Operator}
    (closed : Closed elements operators) {op : Operator}
    (multiplies : op = .multiply ∨ op = .divide) :
    operators ≠ [op] := by
  rintro rfl
  have last := closed.lastOperator
  rcases multiplies with rfl | rfl <;> cases last

mutual

/-- A tree of the shape of written expressions is known by its outline. -/
theorem eq_of_outline : (left : Expr) → {right : Expr} → (∀ node ∈ left.nodes, node.Shaped) →
    (∀ node ∈ right.nodes, node.Shaped) → left.outline = right.outline → left = right
  | literal value, literal value', _, _, same => by
      have chars : numberChars value = numberChars value' :=
        congrArg PlainText.chars (Outline.number.inj same)
      rw [numberText_injective (congrArg String.ofList chars)]
  | literal value, binary op lhs rhs, _, _, same => nomatch same
  | literal value, composite elements operators, _, _, same => nomatch same
  | binary op lhs rhs, literal value, _, _, same => nomatch same
  | binary op lhs rhs, binary op' lhs' rhs', shaped, shaped', same => by
      obtain ⟨-, ofLhs, ofRhs⟩ := forall_nodes_binary.mp shaped
      obtain ⟨-, ofLhs', ofRhs'⟩ := forall_nodes_binary.mp shaped'
      simp only [outline, Outline.group.injEq, List.cons.injEq, and_true] at same
      obtain ⟨⟨sameLhs, sameRhs⟩, rfl⟩ := same
      rw [eq_of_outline lhs ofLhs ofLhs' sameLhs, eq_of_outline rhs ofRhs ofRhs' sameRhs]
  | binary op lhs rhs, composite elements operators, shaped, shaped', same => by
      obtain ⟨⟨multiplies, -⟩, -⟩ := forall_nodes_binary.mp shaped
      obtain ⟨closed, -⟩ := forall_nodes_composite.mp shaped'
      rw [outline, outline, Outline.group.injEq] at same
      exact absurd same.2.symm (Closed.operators_ne_singleton closed multiplies)
  | composite elements operators, literal value, _, _, same => nomatch same
  | composite elements operators, binary op lhs rhs, shaped, shaped', same => by
      obtain ⟨closed, -⟩ := forall_nodes_composite.mp shaped
      obtain ⟨⟨multiplies, -⟩, -⟩ := forall_nodes_binary.mp shaped'
      rw [outline, outline, Outline.group.injEq] at same
      exact absurd same.2 (Closed.operators_ne_singleton closed multiplies)
  | composite elements operators, composite elements' operators', shaped, shaped', same => by
      obtain ⟨-, ofElements⟩ := forall_nodes_composite.mp shaped
      obtain ⟨-, ofElements'⟩ := forall_nodes_composite.mp shaped'
      rw [outline, outline, Outline.group.injEq] at same
      obtain ⟨sameElements, rfl⟩ := same
      rw [eq_of_outlines elements ofElements ofElements' sameElements]

theorem eq_of_outlines : (left : List Expr) → {right : List Expr} →
    (∀ element ∈ left, ∀ node ∈ element.nodes, node.Shaped) →
    (∀ element ∈ right, ∀ node ∈ element.nodes, node.Shaped) →
    outlines left = outlines right → left = right
  | [], [], _, _, _ => rfl
  | [], element :: elements, _, _, same => nomatch same
  | element :: elements, [], _, _, same => nomatch same
  | element :: elements, element' :: elements', shaped, shaped', same => by
      obtain ⟨ofElement, ofElements⟩ := List.forall_mem_cons.mp shaped
      obtain ⟨ofElement', ofElements'⟩ := List.forall_mem_cons.mp shaped'
      rw [outlines, outlines, List.cons.injEq] at same
      rw [eq_of_outline element ofElement ofElement' same.1,
        eq_of_outlines elements ofElements ofElements' same.2]

end

end Expr

/-- Trees are shown alike exactly if they differ in nothing but operations in place of spans of
two elements, and numbers count as the same where their texts are. Trees of texts that are
shown alike are the same tree. -/
theorem render_identifies_outlines :
    (∀ left right : Expr, left.render = right.render ↔ left.outline = right.outline) ∧
    ∀ (settings settings' : Settings) (text text' : String) (left right : Expr),
      (parse settings text).result = .ok left → (parse settings' text').result = .ok right →
        left.render = right.render → left = right ∧ (left == right) = true := by
  refine ⟨fun left right => Expr.render_eq_render_iff, ?_⟩
  intro settings settings' text text' left right parsed parsed' same
  obtain ⟨source, wellFormed, -, -, rfl⟩ := exists_source_of_parse parsed
  obtain ⟨source', wellFormed', -, -, rfl⟩ := exists_source_of_parse parsed'
  have shaped := Source.shaped_expr wellFormed
  have equal := source.expr.eq_of_outline shaped (Source.shaped_expr wellFormed')
    (Expr.render_eq_render_iff.mp same)
  refine ⟨equal, ?_⟩
  rw [← equal]
  exact Expr.beq_self _ fun value member =>
    Float.beq_self_iff.mpr (Binary64.IsUnsigned.ne_nan (shaped (.literal value) member))

/-- A number with a zero in front of it is shown like the number, so the trees are the same. -/
theorem render_identifies_outlines_leading_zero :
    ∃ left right, (parse {} "1").result = .ok left ∧
      (parse { maxDepth := 0 } "01").result = .ok right ∧
        left.render = right.render ∧ left = right ∧ (left == right) = true := by
  have isNumber (first : Bool) : NumberRun first ['0', '1'] :=
    ⟨by simp, by simp [isNumeric], by simp, fun _ => ⟨'0', by simp, rfl⟩⟩
  have first : (Source.written (.unsigned (.single (.number ['1'])))).WellFormed :=
    numberRun_digit true rfl
  have second : (Source.written (.unsigned (.single (.number ['0', '1'])))).WellFormed :=
    isNumber true
  have parsed : (parse {} "1").result =
      .ok (.composite [.literal (numberValue ['0', '1']), .literal 0.0] [.add]) :=
    congrArg Logged.result (parse_text first (by decide))
  have parsed' : (parse { maxDepth := 0 } "01").result =
      .ok (.composite [.literal (numberValue ['0', '0', '1']), .literal 0.0] [.add]) :=
    congrArg Logged.result (parse_text second (by decide))
  have same : numberValue ['0', '0', '1'] = numberValue ['0', '1'] :=
    numberValue_cons_zero (isNumber false)
  rw [same] at parsed'
  exact ⟨_, _, parsed, parsed', rfl,
    render_identifies_outlines.2 {} { maxDepth := 0 } "1" "01" _ _ parsed parsed' rfl⟩

end Calculator
