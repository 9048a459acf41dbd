import Calculator.Proofs.Grammar.Printed
import Calculator.Proofs.Parse.Acceptance

/-!
# Trees of texts

Reading a text and writing out a tree are inverse to each other. The tree of a text reads, in
infix order, as the text does, so nothing is lost, added or moved; and a tree that can be
written out is what its text is read as. Between the two stands the shape that every node of
the tree of a text has.
-/

namespace Calculator

open Logged Token

/-- The tree of a text reads in infix order as the text does, with a value for each number:
no piece of the text is lost, repeated or moved. -/
theorem contents_of_parse (settings : Settings) {text : String} {expr : Expr}
    (parsed : (parse settings text).result = .ok expr) : expr.contents = piecesOf text := by
  obtain ⟨source, wellFormed, -, rfl, rfl⟩ := exists_source_of_parse parsed
  exact Source.contents_expr wellFormed

/-- A sign applies to a zero, and a point at the start of a group follows one. -/
theorem contents_of_parse_sign_and_point :
    ∃ expr, (parse {} "-2*(.5)").result = .ok expr ∧
      expr.contents = [.value 0.0, .token (.operator .subtract), .value (numberValue ['2']),
        .token (.operator .multiply), .token .openParen, .value (numberValue ['0', '.', '5']),
        .token .closeParen] := by
  have isPoint : NumberRun true ['.', '5'] := ⟨by simp, by simp [isNumeric], by simp, by simp⟩
  have wellFormed : (Source.written (.signed .subtract (.product (.single (.number ['2'])) .multiply
      (.group (.unsigned (.single (.number ['.', '5']))))))).WellFormed :=
    ⟨rfl, numberRun_digit false rfl, rfl, isPoint⟩
  have isRead : ∃ expr, (parse {} "-2*(.5)").result = .ok expr :=
    ⟨_, congrArg Logged.result (parse_text wellFormed (by decide))⟩
  obtain ⟨expr, parsed⟩ := isRead
  exact ⟨expr, parsed, contents_of_parse {} parsed⟩

/-- The tree of a text is a span in which every node has the shape of a written expression:
spans are closed by adding zero and have only additive operators, products have no product as
their right operand, and numbers have no sign. Such a tree is equal to itself. -/
theorem shaped_of_parse (settings : Settings) {text : String} {expr : Expr}
    (parsed : (parse settings text).result = .ok expr) :
    (∃ elements operators, expr = .composite elements operators) ∧
      (∀ node ∈ expr.nodes, node.Shaped) ∧
      (∀ value, .literal value ∈ expr.nodes → value.isNaN = false ∧ value ≠ -0.0) ∧
      (expr == expr) = true := by
  obtain ⟨source, wellFormed, -, rfl, rfl⟩ := exists_source_of_parse parsed
  have shaped := Source.shaped_expr wellFormed
  have isUnsigned : ∀ value, .literal value ∈ source.expr.nodes → Binary64.IsUnsigned value :=
    fun value member => shaped (.literal value) member
  refine ⟨?_, shaped, ?_, ?_⟩
  · cases source with
    | empty => exact ⟨_, _, rfl⟩
    | written span => exact ⟨_, _, rfl⟩
  · intro value member
    exact ⟨(isUnsigned value member).isNaN_eq_false, (isUnsigned value member).ne_negativeZero⟩
  · refine Expr.beq_self _ fun value member => ?_
    exact Float.beq_self_iff.mpr (isUnsigned value member).ne_nan

/-- The tree of a sum with a product is shaped. -/
theorem shaped_of_parse_sum_with_product :
    ∃ expr, (parse {} "1-2*(3)").result = .ok expr ∧ (∀ node ∈ expr.nodes, node.Shaped) ∧
      (expr == expr) = true := by
  have wellFormed : (Source.written (.sum (.unsigned (.single (.number ['1']))) .subtract
      (.product (.single (.number ['2'])) .multiply
        (.group (.unsigned (.single (.number ['3']))))))).WellFormed :=
    ⟨numberRun_digit true rfl, rfl, numberRun_digit false rfl, rfl, numberRun_digit true rfl⟩
  have isRead : ∃ expr, (parse {} "1-2*(3)").result = .ok expr :=
    ⟨_, congrArg Logged.result (parse_text wellFormed (by decide))⟩
  obtain ⟨expr, parsed⟩ := isRead
  obtain ⟨-, shaped, -, isEqual⟩ := shaped_of_parse {} parsed
  exact ⟨expr, parsed, shaped, isEqual⟩

/-- A tree of terms joined to closed spans is what its text is read as, however its numbers
are written, if its spans nest within the limit below the root; and otherwise the text is
refused with the limit. -/
theorem parse_contents (settings : Settings) {expr : Expr} (isSpan : expr.IsSpan)
    {tokens : List Token} (writes : Writes expr.contents tokens) :
    (expr.innerDepth ≤ settings.maxDepth →
      (parse settings (text tokens)).result = .ok expr) ∧
    (settings.maxDepth < expr.innerDepth →
      (parse settings (text tokens)).result = .error (.nestingTooDeep settings.maxDepth)) := by
  obtain ⟨span, wellFormed, rfl, rfl⟩ := isSpan.exists_span tokens writes
  have ofSource : (Source.written span).WellFormed := wellFormed
  have spells : text span.tokens = (Source.written span).text := rfl
  have depth : span.expr.innerDepth = (Source.written span).depth := span.innerDepth_expr
  rw [spells, depth]
  constructor
  · intro within
    rw [parse_text ofSource within, result_ending]
    rfl
  · intro beyond
    exact parse_text_eq_nestingTooDeep ofSource beyond

/-- A product with a group is written out and read back where one group is allowed, and
refused where none is. -/
theorem parse_contents_product_with_group :
    (parse { maxDepth := 1 } "2*(1)").result =
      .ok (.composite [.binary .multiply (.literal (numberValue ['2']))
        (.composite [.literal (numberValue ['1']), .literal 0.0] [.add]), .literal 0.0] [.add]) ∧
    (parse { maxDepth := 0 } "2*(1)").result = .error (.nestingTooDeep 0) := by
  have isClosed : ∀ term, Expr.Closed [term, .literal 0.0] [.add] := fun term =>
    Expr.closed_terms term (by simp : ∀ term ∈ [], _)
  have isSpan : ∀ term : Expr, term.IsTerm → (Expr.composite [term, .literal 0.0] [.add]).IsSpan :=
    fun term isTerm => .closed (isClosed term) (by simpa using isTerm)
  have isTerm : (Expr.binary .multiply (.literal (numberValue ['2']))
      (.composite [.literal (numberValue ['1']), .literal 0.0] [.add])).IsTerm :=
    .product rfl (.operand (.literal _)) (.span (isSpan _ (.operand (.literal _))))
  have writes : Writes (Expr.composite [.binary .multiply (.literal (numberValue ['2']))
      (.composite [.literal (numberValue ['1']), .literal 0.0] [.add]), .literal 0.0] [.add]).contents
      [.number ['2'], .operator .multiply, .openParen, .number ['1'], .closeParen] :=
    ⟨rfl, by simp [numberRun_digit]⟩
  constructor
  · exact (parse_contents { maxDepth := 1 } (isSpan _ isTerm) writes).1 (by decide)
  · exact (parse_contents { maxDepth := 0 } (isSpan _ isTerm) writes).2 (by decide)

end Calculator
