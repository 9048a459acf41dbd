import Calculator.Session
import Calculator.Token.Location
import Calculator.Proofs.Calculate
import Calculator.Proofs.Parse.FirstProblem
import Calculator.Proofs.Evaluate.Definition
import Calculator.Proofs.Binary64
import Calculator.Proofs.Decimal.Value
import Calculator.Proofs.Grammar.Inorder
import Calculator.Proofs.Grammar.Shape
import Calculator.Proofs.Grammar.Printed
import Calculator.Proofs.Parse.Tree
import Calculator.Proofs.Evaluate.Course
import Calculator.Proofs.Evaluate.Policy
import Calculator.Proofs.Parse.Rules
import Calculator.Proofs.Parse.Surroundings
import Calculator.Proofs.Binary64.Nearest
import Calculator.Proofs.Decimal.Shortest
import Calculator.Proofs.Parse.Afresh
import Calculator.Proofs.Binary64.Text
import Calculator.Proofs.Expr.Bracketed
import Calculator.Proofs.Expr.Outline
import Calculator.Proofs.Parse.Rendering
import Calculator.Proofs.Parse.Limit
import Calculator.Proofs.Token.Partner
import Calculator.Proofs.Parse.Unmatched
import Calculator.Proofs.Expr.Context
import Calculator.Proofs.Grammar.Gap
import Calculator.Proofs.Binary64.Alike
import Calculator.Proofs.Evaluate.Bare
import Calculator.Proofs.Parse.Substitution
import Calculator.Proofs.Calculate.Safety
import Calculator.Proofs.Calculate.NegativeZero
import Calculator.Proofs.Grammar.Join
import Calculator.Proofs.Parse.Join
import Calculator.Proofs.Token.Groups
import Calculator.Proofs.Token.StackMatching
import Calculator.Proofs.Parse.Trace
import Calculator.Proofs.Calculate.Conservation
import Calculator.Proofs.Evaluate.Outline
import Calculator.Proofs.Token.LongestMatch
import Calculator.Proofs.Parse.UnwrittenZero
import Calculator.Proofs.Calculate.ClosingZero
import Calculator.Proofs.Parse.DigitBlind
import Calculator.Proofs.Parse.Height
import Calculator.Proofs.Parse.ByPlace
import Calculator.Proofs.Span.Calls
