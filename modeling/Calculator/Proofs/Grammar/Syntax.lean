import Calculator.Proofs.Token.Nesting

/-!
# Written expressions

The concrete syntax of a span, with precedence in the types: terms are factors joined by
multiplicative operators, spans are terms joined by additive ones, and both associate
to the left. A tree of this syntax keeps the characters of its numbers, so it spells
exactly one text. `WellFormed` says which trees are expressions; nothing here refers to
how a text is read.
-/

namespace Calculator

mutual

/-- An operand. -/
inductive Factor where
  /-- A run of digits and points. -/
  | number (run : List Char)
  /-- A span in parentheses. -/
  | group (span : Span)

/-- Factors joined by multiplicative operators. -/
inductive Term where
  | single (factor : Factor)
  | product (term : Term) (op : Operator) (factor : Factor)

/-- Terms joined by additive operators. The first term may have a sign. -/
inductive Span where
  | unsigned (term : Term)
  | signed (sign : Operator) (term : Term)
  | sum (span : Span) (op : Operator) (term : Term)

end

/-! ### Tokens -/

mutual

/-- The tokens of a factor. -/
def Factor.tokens : Factor → List Token
  | .number run => [.number run]
  | .group span => .openParen :: span.tokens ++ [.closeParen]

/-- The tokens of a term. -/
def Term.tokens : Term → List Token
  | .single factor => factor.tokens
  | .product term op factor => term.tokens ++ .operator op :: factor.tokens

/-- The tokens of a span. -/
def Span.tokens : Span → List Token
  | .unsigned term => term.tokens
  | .signed sign term => .operator sign :: term.tokens
  | .sum span op term => span.tokens ++ .operator op :: term.tokens

end

mutual

theorem Factor.isBalanced_tokens : (factor : Factor) → Token.IsBalanced factor.tokens
  | .number run => Token.isBalanced_singleton (by simp) (by simp)
  | .group span => span.isBalanced_tokens.group

theorem Term.isBalanced_tokens : (term : Term) → Token.IsBalanced term.tokens
  | .single factor => factor.isBalanced_tokens
  | .product term op factor =>
      term.isBalanced_tokens.append ((Token.isBalanced_operator op).append factor.isBalanced_tokens)

/-- The parentheses of a span are balanced. -/
theorem Span.isBalanced_tokens : (span : Span) → Token.IsBalanced span.tokens
  | .unsigned term => term.isBalanced_tokens
  | .signed sign term => (Token.isBalanced_operator sign).append term.isBalanced_tokens
  | .sum span op term =>
      span.isBalanced_tokens.append ((Token.isBalanced_operator op).append term.isBalanced_tokens)

end

mutual

theorem Factor.tokens_ne_nil : (factor : Factor) → factor.tokens ≠ []
  | .number _ => by simp [Factor.tokens]
  | .group _ => by simp [Factor.tokens]

theorem Term.tokens_ne_nil : (term : Term) → term.tokens ≠ []
  | .single factor => factor.tokens_ne_nil
  | .product _ _ _ => by simp [Term.tokens]

/-- A span is never empty. -/
theorem Span.tokens_ne_nil : (span : Span) → span.tokens ≠ []
  | .unsigned term => term.tokens_ne_nil
  | .signed _ _ => by simp [Span.tokens]
  | .sum _ _ _ => by simp [Span.tokens]

end

/-! ### Depth -/

mutual

/-- The number of groups that a factor nests within each other. -/
def Factor.depth : Factor → Nat
  | .number _ => 0
  | .group span => span.depth + 1

/-- The number of groups that a term nests within each other. -/
def Term.depth : Term → Nat
  | .single factor => factor.depth
  | .product term _ factor => max term.depth factor.depth

/-- The number of groups that a span nests within each other. -/
def Span.depth : Span → Nat
  | .unsigned term => term.depth
  | .signed _ term => term.depth
  | .sum span _ term => max span.depth term.depth

end

/-! ### Well-formedness -/

/-- A run that may be written for a number: digits with at most one point. At least one
digit is needed unless the run stands at the start of its span, where an unwritten
zero precedes it. -/
structure NumberRun (first : Bool) (run : List Char) : Prop where
  written : run ≠ []
  numeric : ∀ character ∈ run, Token.isNumeric character
  onePoint : run.count '.' ≤ 1
  hasDigit : first = false → ∃ character ∈ run, character.isDigit

/-- A digit by itself may be written for a number. -/
theorem numberRun_digit (first : Bool) {digit : Char} (isDigit : digit.isDigit = true) :
    NumberRun first [digit] where
  written := by simp
  numeric := by simp [Token.isNumeric, isDigit]
  onePoint := by simp [List.count_cons]; split <;> simp
  hasDigit := fun _ => ⟨digit, by simp, isDigit⟩

mutual

/-- Whether a factor is an expression. `first` tells if it stands at the start of its
span. -/
def Factor.WellFormed (first : Bool) : Factor → Prop
  | .number run => NumberRun first run
  | .group span => span.WellFormed

/-- Whether a term is an expression. `first` tells if it stands at the start of its
span. -/
def Term.WellFormed (first : Bool) : Term → Prop
  | .single factor => factor.WellFormed first
  | .product term op factor =>
      term.WellFormed first ∧ op.isMultiplicative = true ∧ factor.WellFormed false

/-- Whether a span is an expression. -/
def Span.WellFormed : Span → Prop
  | .unsigned term => term.WellFormed true
  | .signed sign term => sign.isMultiplicative = false ∧ term.WellFormed false
  | .sum span op term =>
      span.WellFormed ∧ op.isMultiplicative = false ∧ term.WellFormed false

end

/-- A whole source, which may be empty where a group may not. -/
inductive Source where
  | empty
  | written (span : Span)

namespace Source

/-- The tokens of a source. -/
def tokens : Source → List Token
  | empty => []
  | written span => span.tokens

/-- The text that a source spells. -/
def text (source : Source) : String :=
  Token.text source.tokens

/-- The number of groups that a source nests within each other. -/
def depth : Source → Nat
  | empty => 0
  | written span => span.depth

/-- Whether a source is an expression. -/
def WellFormed : Source → Prop
  | empty => True
  | written span => span.WellFormed

end Source

end Calculator
