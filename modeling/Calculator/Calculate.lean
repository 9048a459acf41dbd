import Calculator.Expr.Evaluate
import Calculator.Parse

/-!
# Calculating

The value of a text is the value of its tree. An error says which of the two steps
it comes from.
-/

namespace Calculator

/-- Why a text has no value. -/
inductive CalculationError where
  | parse (cause : ParseError)
  | evaluation (cause : EvaluationError)
  deriving DecidableEq

namespace CalculationError

/-- The sentence shown for a text without a value. -/
def message : CalculationError → String
  | parse cause => cause.message
  | evaluation cause => cause.message

end CalculationError

/-- The value of a text. -/
def calculate (settings : Settings) (source : String) : Logged CalculationError Float := do
  let expr ← EStateM.adaptExcept .parse (parse settings source)
  EStateM.adaptExcept .evaluation (expr.evaluate settings.division)

end Calculator
