import Calculator.Parse.Reading
import Calculator.Settings
import Calculator.Token.Group

/-!
# Reading expressions

A text is read from left to right, once. A group is read as a span of its own, and
its tree is an operand of the span around it.
-/

namespace Calculator

/-- Read the tokens of a span that follow a reading of it, `depth` groups deep. -/
def readSpan (limit depth : Nat) (whole : List Token) (reading : Reading) :
    List Token → Logged ParseError Expr
  | [] => reading.close whole
  | .number run :: rest => readSpan limit depth whole (reading.addDigits run) rest
  | .operator op :: rest => do
      let reading ← reading.addOperator whole op
      readSpan limit depth whole reading rest
  | .openParen :: rest =>
      match found : Token.enclosed? rest with
      | some (inner, after) => do
          reading.enterGroup whole limit (depth + 1) inner
          let operand ← readSpan limit (depth + 1) inner {} inner
          let reading ← reading.leaveGroup whole inner operand
          readSpan limit depth whole reading after
      | none => throw (.unmatchedParenthesis reading.position (Token.text whole))
  | .closeParen :: _ => throw (.unmatchedParenthesis reading.position (Token.text whole))
  | .unknown character :: _ =>
      throw (.unrecognizedCharacter character reading.position (Token.text whole))
termination_by tokens => tokens.length
decreasing_by
  · simp
  · simp
  · have := Token.length_lt_of_enclosed?_eq_some found; simp only [List.length_cons]; omega
  · have := Token.length_lt_of_enclosed?_eq_some found; simp only [List.length_cons]; omega

/-- The tree of a text. -/
def parse (settings : Settings) (source : String) : Logged ParseError Expr := do
  let tokens := tokenize source
  let expr ← readSpan settings.maxDepth 0 tokens {} tokens
  Logged.emit (.parsed source expr)
  return expr

end Calculator
