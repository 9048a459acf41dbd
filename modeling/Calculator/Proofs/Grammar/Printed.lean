import Calculator.Proofs.Grammar.Inorder
import Calculator.Proofs.Grammar.Shape

/-!
# Writing trees out

Trees that can be written out as expressions, with a text chosen for each number: spans of
terms, each term an operand or a product with an operand on the right. What is written is
the tree in infix order, and `IsSpan.exists_span` finds the written expression whose tree it
is. No sign and no unwritten zero occurs in it.
-/

namespace Calculator

namespace Expr

mutual

/-- A closed span whose other elements are terms. -/
inductive IsSpan : Expr → Prop where
  | closed {elements : List Expr} {operators : List Operator} (closed : Closed elements operators)
      (areTerms : ∀ term ∈ elements.dropLast, IsTerm term) : IsSpan (composite elements operators)

/-- Operands joined by multiplicative operators from left to right. -/
inductive IsTerm : Expr → Prop where
  | operand {operand : Expr} (isOperand : IsOperand operand) : IsTerm operand
  | product {op : Operator} {lhs rhs : Expr} (multiplicative : op.isMultiplicative = true)
      (ofLhs : IsTerm lhs) (ofRhs : IsOperand rhs) : IsTerm (binary op lhs rhs)

/-- A number or a span. -/
inductive IsOperand : Expr → Prop where
  | literal (value : Float) : IsOperand (literal value)
  | span {span : Expr} (isSpan : IsSpan span) : IsOperand span

end

theorem IsSpan.inorder_eq {expr : Expr} (isSpan : expr.IsSpan) :
    expr.inorder = .token .openParen :: expr.contents ++ [.token .closeParen] := by
  cases isSpan with
  | closed => exact inorder_composite _ _

end Expr

/-- A token by itself: a number with its value, and any other token as it is. -/
def Token.piece : Token → Piece
  | number run => .value (numberValue run)
  | token => .token token

/-- Tokens that write pieces out, each value as digits with at most one point. -/
structure Token.Writes (pieces : List Piece) (tokens : List Token) : Prop where
  reads : tokens.map piece = pieces
  numbers : ∀ run, .number run ∈ tokens → NumberRun false run

namespace Token.Writes

variable {tokens : List Token} {pieces first second : List Piece}

/-- Tokens that write two rows of pieces fall into those of the one and those of the other. -/
theorem split (writes : Writes (first ++ second) tokens) :
    ∃ front back, tokens = front ++ back ∧ Writes first front ∧ Writes second back := by
  obtain ⟨front, back, rfl, ofFront, ofBack⟩ := List.map_eq_append_iff.mp writes.reads
  exact ⟨front, back, rfl, ⟨ofFront, fun run member => writes.numbers run (by simp [member])⟩,
    ⟨ofBack, fun run member => writes.numbers run (by simp [member])⟩⟩

/-- A token that stands for itself is written as itself. -/
theorem token {token : Token} (writes : Writes [.token token] tokens) : tokens = [token] := by
  obtain ⟨written, rfl, isToken⟩ := List.map_eq_singleton_iff.mp writes.reads
  cases written <;> simp_all [piece]

theorem token_cons {token : Token} (writes : Writes (.token token :: pieces) tokens) :
    ∃ others, tokens = token :: others ∧ Writes pieces others := by
  rw [← List.singleton_append] at writes
  obtain ⟨front, others, rfl, ofToken, ofOthers⟩ := writes.split
  obtain rfl := ofToken.token
  exact ⟨others, rfl, ofOthers⟩

/-- A value is written as a run that reads as it. -/
theorem value {value : Float} (writes : Writes [.value value] tokens) :
    ∃ run, tokens = [.number run] ∧ NumberRun false run ∧ numberValue run = value := by
  obtain ⟨written, rfl, isValue⟩ := List.map_eq_singleton_iff.mp writes.reads
  cases written with
  | number run => exact ⟨run, rfl, writes.numbers run (by simp), by simpa [piece] using isValue⟩
  | _ => simp [piece] at isValue

end Token.Writes

/-! ### Numbers with a digit of their own -/

/-- A run that may be written anywhere may also be written at the start of a span. -/
theorem NumberRun.atStart {run : List Char} (isRun : NumberRun false run) : NumberRun true run where
  written := isRun.written
  numeric := isRun.numeric
  onePoint := isRun.onePoint
  hasDigit := by simp

/-- A factor that may stand anywhere may stand at the start of a span, with the same tree. -/
theorem Factor.atStart {factor : Factor} (wellFormed : factor.WellFormed false) :
    factor.WellFormed true ∧ factor.expr true = factor.expr false := by
  cases factor with
  | number run =>
      have isRun : NumberRun false run := wellFormed
      refine ⟨isRun.atStart, ?_⟩
      rw [expr, expr]
      exact congrArg Expr.literal (numberValue_cons_zero isRun)
  | group span => exact ⟨wellFormed, by rw [expr_group, expr_group]⟩

/-- A term that may stand anywhere may stand at the start of a span, with the same tree. -/
theorem Term.atStart : (term : Term) → term.WellFormed false →
    term.WellFormed true ∧ term.expr true = term.expr false
  | .single factor, wellFormed => Factor.atStart wellFormed
  | .product term op factor, ⟨ofTerm, multiplicative, ofFactor⟩ => by
      obtain ⟨first, same⟩ := term.atStart ofTerm
      exact ⟨⟨first, multiplicative, ofFactor⟩, by rw [Term.expr, Term.expr, same]⟩

/-! ### Every tree that can be written out is read from a written expression -/

/-- Tokens that write a tree out are those of a term with this tree. -/
def Expr.HasTerm (expr : Expr) : Prop :=
  ∀ tokens, Token.Writes expr.inorder tokens →
    ∃ term : Term, term.WellFormed false ∧ term.tokens = tokens ∧ term.expr false = expr

/-- Terms with additive operators behind all but the last of them are written as a span. -/
theorem exists_span_of_terms {terms : List (Expr × Operator)} {last : Expr}
    (haveTerm : ∀ term ∈ terms, term.1.HasTerm)
    (additive : ∀ term ∈ terms, term.2.isMultiplicative = false) (lastHasTerm : last.HasTerm)
    {tokens : List Token} (writes : Token.Writes (Expr.inorderTerms terms ++ last.inorder) tokens) :
    ∃ span : Span, span.WellFormed ∧ span.tokens = tokens ∧ span.terms.reverse = terms ∧
      span.last = last := by
  -- A span grows by its last term, so the terms are taken from the back.
  induction terms using List.reverseRecOn generalizing last tokens with
  | nil =>
      obtain ⟨term, wellFormed, spells, rfl⟩ := lastHasTerm tokens writes
      obtain ⟨first, same⟩ := term.atStart wellFormed
      exact ⟨.unsigned term, first, spells, rfl, same⟩
  | append_singleton terms before inductionHypothesis =>
      obtain ⟨front, back, rfl, ofFront, ofLast⟩ := writes.split
      rw [Expr.inorderTerms, List.flatMap_append, List.flatMap_singleton,
        ← List.append_assoc] at ofFront
      obtain ⟨span, sign, rfl, ofSpan, ofSign⟩ := ofFront.split
      obtain rfl := ofSign.token
      obtain ⟨span, wellFormed, rfl, rfl, isBefore⟩ := inductionHypothesis
        (fun term member => haveTerm term (List.mem_append_left _ member))
        (fun term member => additive term (List.mem_append_left _ member))
        (haveTerm before (by simp)) ofSpan
      obtain ⟨term, ofTerm, rfl, rfl⟩ := lastHasTerm back ofLast
      have isAdditive : before.2.isMultiplicative = false := additive before (by simp)
      refine ⟨.sum span before.2 term, ⟨wellFormed, isAdditive, ofTerm⟩, ?_, ?_, rfl⟩
      · simp [Span.tokens]
      · simp [Span.terms, isBefore]

namespace Expr

mutual

/-- Tokens that write out a span below no other are those of a well-formed span with this
tree. -/
theorem IsSpan.exists_span {expr : Expr} : expr.IsSpan → ∀ tokens,
    Token.Writes expr.contents tokens →
      ∃ span : Span, span.WellFormed ∧ span.tokens = tokens ∧ span.expr = expr
  | @IsSpan.closed elements _ closed areTerms, tokens, writes => by
      -- The recursion goes through `areTerms`, so it comes before the elements are split.
      have haveTerm : ∀ term ∈ elements.dropLast, term.HasTerm :=
        fun term member => (areTerms term member).hasTerm
      obtain ⟨terms, last, rfl, rfl, additive⟩ := closed.exists_terms
      rw [contents_closed] at writes
      obtain ⟨span, wellFormed, spells, rfl, rfl⟩ := exists_span_of_terms
        (fun term member => haveTerm term.1 (by simp [List.mem_map_of_mem member])) additive
        (haveTerm last (by simp)) writes
      exact ⟨span, wellFormed, spells, rfl⟩

theorem IsTerm.hasTerm {expr : Expr} : expr.IsTerm → expr.HasTerm
  | .operand isOperand, tokens, writes => by
      obtain ⟨factor, wellFormed, spells, hasExpr⟩ := isOperand.exists_factor tokens writes
      exact ⟨.single factor, wellFormed, spells, hasExpr⟩
  | .product multiplicative ofLhs ofRhs, tokens, writes => by
      rw [inorder] at writes
      obtain ⟨front, others, rfl, ofFront, ofOthers⟩ := writes.split
      obtain ⟨back, rfl, ofBack⟩ := ofOthers.token_cons
      obtain ⟨term, ofTerm, rfl, rfl⟩ := ofLhs.hasTerm front ofFront
      obtain ⟨factor, ofFactor, rfl, rfl⟩ := ofRhs.exists_factor back ofBack
      exact ⟨.product term _ factor, ⟨ofTerm, multiplicative, ofFactor⟩, rfl, rfl⟩

theorem IsOperand.exists_factor {expr : Expr} : expr.IsOperand → ∀ tokens,
    Token.Writes expr.inorder tokens →
      ∃ factor : Factor, factor.WellFormed false ∧ factor.tokens = tokens ∧
        factor.expr false = expr
  | .literal value, tokens, writes => by
      obtain ⟨run, rfl, isRun, rfl⟩ := writes.value
      exact ⟨.number run, isRun, rfl, rfl⟩
  | .span isSpan, tokens, writes => by
      rw [isSpan.inorder_eq] at writes
      obtain ⟨group, close, rfl, ofGroup, ofClose⟩ := writes.split
      obtain ⟨inner, rfl, ofInner⟩ := ofGroup.token_cons
      obtain rfl := ofClose.token
      obtain ⟨span, wellFormed, rfl, rfl⟩ := isSpan.exists_span inner ofInner
      exact ⟨.group span, wellFormed, by simp [Factor.tokens], Factor.expr_group _ _⟩

end

end Expr

end Calculator
