import Calculator.Operator

/-!
# Reading errors

Why a text is not an expression. An error names the text of the span it was found
in, the whole source or the contents of a group, and counts positions in bytes from
the start of that text.
-/

namespace Calculator

/-- Why a text is not an expression. -/
inductive ParseError where
  /-- A span starts with a multiplicative operator. -/
  | invalidLeadingOperator (op : Operator) (expression : String)
  /-- A group has no contents. -/
  | emptyParentheses (index : Nat) (expression : String)
  /-- A parenthesis has no partner. -/
  | unmatchedParenthesis (index : Nat) (expression : String)
  /-- A character lies outside the alphabet of expressions. -/
  | unrecognizedCharacter (character : Char) (index : Nat) (expression : String)
  /-- A character stands where an operator belongs, but names none. -/
  | unknownOperator (cause : UnknownOperator)
  /-- A run of digits and points is not a number. -/
  | invalidNumber (literal : String) (index : Nat) (expression : String)
  /-- An operator is followed by another one or by the end of its span. -/
  | missingOperand (index : Nat) (expression : String)
  /-- Two operands meet without an operator between them. -/
  | missingOperator (index : Nat) (expression : String)
  /-- Groups nest deeper than the limit. -/
  | nestingTooDeep (limit : Nat)
  deriving DecidableEq

namespace ParseError

/-- The sentence shown for a text that is not an expression. Characters and texts
stand in it as they are. -/
def message : ParseError → String
  | invalidLeadingOperator op expression =>
      let symbol := op.symbol
      s!"operator '{symbol}' cannot start the expression {expression}"
  | emptyParentheses index expression =>
      s!"empty parentheses at position {index} of the expression {expression}"
  | unmatchedParenthesis index expression =>
      s!"unmatched parenthesis at position {index} of the expression {expression}"
  | unrecognizedCharacter character index expression =>
      s!"character '{character}' at position {index} of the expression {expression} " ++
        "could not be processed"
  | unknownOperator cause => cause.message
  | invalidNumber literal index expression =>
      s!"invalid number '{literal}' at position {index} of the expression {expression}"
  | missingOperand index expression =>
      s!"operator at position {index} of the expression {expression} " ++
        "has no right-hand operand"
  | missingOperator index expression =>
      s!"missing operator before position {index} of the expression {expression}"
  | nestingTooDeep limit =>
      s!"parentheses nest deeper than the limit of {limit}"

end ParseError

end Calculator
