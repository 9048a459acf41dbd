import Calculator.Proofs.Grammar.Tree

/-!
# Trees in infix order

A tree is read from left to right as an expression is written: operands with their
operators between them, and spans in parentheses without the zero that closes them. What
is read are values and tokens, and `Source.contents_expr` says that the tree of a written
expression reads as its tokens do, with a value for each number. Only an unwritten zero
shows that the text was not written out in full.
-/

namespace Calculator

/-- What is read in infix order: a value, or a token that stands for itself. -/
inductive Piece where
  | value (value : Float)
  | token (token : Token)

/-! ### Reading a tree -/

/-- Readings in order with operators between them. -/
def Piece.interleave : List (List Piece) → List Operator → List Piece
  | [], operators => operators.map fun op => token (.operator op)
  | reading :: readings, [] => reading ++ interleave readings []
  | reading :: readings, op :: operators =>
      reading ++ token (.operator op) :: interleave readings operators

namespace Expr

mutual

/-- A tree in infix order, spans in parentheses. The last element of a span and its last
operator are left out. -/
def inorder : Expr → List Piece
  | literal value => [.value value]
  | binary op lhs rhs => lhs.inorder ++ .token (.operator op) :: rhs.inorder
  | composite elements operators =>
      .token .openParen ::
        Piece.interleave (inorders elements).dropLast operators.dropLast ++ [.token .closeParen]

/-- Trees in infix order, one by one. -/
def inorders : List Expr → List (List Piece)
  | [] => []
  | element :: elements => element.inorder :: inorders elements

end

/-- A whole tree in infix order. The outermost span stands without parentheses. -/
def contents : Expr → List Piece
  | composite elements operators =>
      Piece.interleave (inorders elements).dropLast operators.dropLast
  | expr => expr.inorder

theorem inorder_composite (elements : List Expr) (operators : List Operator) :
    (composite elements operators).inorder =
      .token .openParen :: (composite elements operators).contents ++ [.token .closeParen] := by
  rw [inorder, contents]

theorem inorders_eq_map (elements : List Expr) : inorders elements = elements.map inorder := by
  induction elements with
  | nil => rfl
  | cons element elements inductionHypothesis => rw [inorders, inductionHypothesis, List.map_cons]

/-- Terms in infix order, each with the operator behind it. -/
def inorderTerms (terms : List (Expr × Operator)) : List Piece :=
  terms.flatMap fun term => term.1.inorder ++ [.token (.operator term.2)]

/-- A closed span is read term by term, each but the last with the operator behind it. -/
theorem contents_closed (terms : List (Expr × Operator)) (last zero : Expr) (close : Operator) :
    (composite (terms.map Prod.fst ++ [last, zero]) (terms.map Prod.snd ++ [close])).contents =
      inorderTerms terms ++ last.inorder := by
  have elements : (terms.map Prod.fst ++ [last, zero]).dropLast = terms.map Prod.fst ++ [last] := by
    simp
  rw [contents, inorders_eq_map, ← List.map_dropLast, elements, List.dropLast_concat]
  induction terms with
  | nil => simp [Piece.interleave, inorderTerms]
  | cons term terms inductionHypothesis =>
      simp only [List.map_cons, List.cons_append, Piece.interleave, inductionHypothesis (by simp),
        inorderTerms, List.flatMap_cons, List.append_assoc, List.nil_append]

end Expr

/-! ### Reading tokens -/

/-- Tokens with a value for each number. `first` tells if they stand at the start of their
span, where a number follows an unwritten zero and a sign applies to one. -/
def Token.pieces (first : Bool) : List Token → List Piece
  | [] => []
  | number run :: rest => .value (numberValue (literalChars first run)) :: pieces false rest
  | operator op :: rest =>
      if first && ! op.isMultiplicative then
        .value 0.0 :: .token (.operator op) :: pieces false rest
      else .token (.operator op) :: pieces false rest
  | openParen :: rest => .token openParen :: pieces true rest
  | token :: rest => .token token :: pieces false rest

/-- A text with a value for each number. The empty one is an unwritten zero. -/
def piecesOf (text : String) : List Piece :=
  match tokenize text with
  | [] => [.value 0.0]
  | tokens => Token.pieces true tokens

theorem Token.pieces_operator (op : Operator) (rest : List Token) :
    pieces false (.operator op :: rest) = .token (.operator op) :: pieces false rest := by
  simp [pieces]

/-! ### The trees of written expressions -/

theorem Span.contents_unsigned (term : Term) :
    (Span.unsigned term).expr.contents = (term.expr true).inorder := by
  rw [Span.expr, Expr.contents_closed]
  simp [Span.terms, Span.last, Expr.inorderTerms]

theorem Span.contents_signed (sign : Operator) (term : Term) :
    (Span.signed sign term).expr.contents =
      .value 0.0 :: .token (.operator sign) :: (term.expr false).inorder := by
  rw [Span.expr, Expr.contents_closed]
  simp [Span.terms, Span.last, Expr.inorderTerms, Expr.inorder]

theorem Span.contents_sum (span : Span) (op : Operator) (term : Term) :
    (Span.sum span op term).expr.contents =
      span.expr.contents ++ .token (.operator op) :: (term.expr false).inorder := by
  rw [Span.expr, Span.expr, Expr.contents_closed, Expr.contents_closed]
  simp [Span.terms, Span.last, Expr.inorderTerms]

mutual

theorem Factor.pieces_tokens {first : Bool} : (factor : Factor) → factor.WellFormed first →
    ∀ rest, Token.pieces first (factor.tokens ++ rest) =
      (factor.expr first).inorder ++ Token.pieces false rest
  | .number run, _, rest => by
      simp [Factor.tokens, Token.pieces, Factor.expr, Expr.inorder]
  | .group span, wellFormed, rest => by
      have inside := span.pieces_tokens wellFormed (.closeParen :: rest)
      rw [Factor.expr_group, Span.expr, Expr.inorder_composite, ← Span.expr]
      simp [Factor.tokens, Token.pieces, inside]

theorem Term.pieces_tokens {first : Bool} : (term : Term) → term.WellFormed first →
    ∀ rest, Token.pieces first (term.tokens ++ rest) =
      (term.expr first).inorder ++ Token.pieces false rest
  | .single factor, wellFormed, rest => factor.pieces_tokens wellFormed rest
  | .product term op factor, ⟨ofTerm, _, ofFactor⟩, rest => by
      simp [Term.tokens, Term.expr, Expr.inorder, term.pieces_tokens ofTerm, Token.pieces_operator,
        factor.pieces_tokens ofFactor]

/-- The tree of a span reads as its tokens, whatever follows them. -/
theorem Span.pieces_tokens : (span : Span) → span.WellFormed →
    ∀ rest, Token.pieces true (span.tokens ++ rest) =
      span.expr.contents ++ Token.pieces false rest
  | .unsigned term, wellFormed, rest => by
      rw [Span.contents_unsigned]
      exact term.pieces_tokens wellFormed rest
  | .signed sign term, ⟨additive, ofTerm⟩, rest => by
      simp [Span.tokens, Span.contents_signed, Token.pieces, additive, term.pieces_tokens ofTerm]
  | .sum span op term, ⟨ofSpan, _, ofTerm⟩, rest => by
      simp [Span.tokens, Span.contents_sum, span.pieces_tokens ofSpan, Token.pieces_operator,
        term.pieces_tokens ofTerm]

end

/-- The tree of a source reads as its text does. -/
theorem Source.contents_expr {source : Source} (wellFormed : source.WellFormed) :
    source.expr.contents = piecesOf source.text := by
  rw [piecesOf, Source.tokenize_text wellFormed]
  cases source with
  | empty => rfl
  | written span =>
      obtain ⟨first, rest, split⟩ := List.exists_cons_of_ne_nil span.tokens_ne_nil
      have reads := span.pieces_tokens wellFormed []
      rw [List.append_nil, Token.pieces, List.append_nil] at reads
      rw [Source.tokens, Source.expr, ← reads, split]

end Calculator
