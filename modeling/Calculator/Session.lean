import Calculator.Calculate

/-!
# Sessions

A session keeps settings and named trees, and goes through steps that change them or
ask about them. A step that ends in an error changes nothing.
-/

namespace Calculator

/-- Settings, and trees by name. -/
structure Session where
  settings : Settings := {}
  /-- The named trees, newest first. A tree hides older ones of the same name. -/
  slots : List (String × Expr) := []

/-- One step of a session. Steps that build a tree store it under the name `slot`. -/
inductive Step where
  /-- Change the settings that are given. -/
  | configure (maxDepth : Option Nat) (division : Option DivisionPolicy)
  /-- Read a text. -/
  | parse (slot source : String)
  | literal (slot : String) (value : Float)
  /-- Combine two named trees by an operator given by its symbol. -/
  | binary (slot : String) (symbol : Char) (lhs rhs : String)
  /-- Combine named trees to a span with operators given by their symbols. -/
  | composite (slot : String) (elements : List String) (symbols : List Char)
  /-- Ask for the value of a named tree. -/
  | evaluate (slot : String)
  /-- Ask for the value of a text. -/
  | calculate (source : String)
  /-- Ask for the text of a named tree. -/
  | display (slot : String)
  /-- Ask whether two named trees are equal. -/
  | equal (left right : String)
  /-- Forget a named tree. -/
  | drop (slot : String)

/-- What a step answers. -/
inductive Answer where
  /-- The settings now in force. -/
  | settings (settings : Settings)
  /-- The tree that was stored. -/
  | stored (expr : Expr)
  | value (value : Float)
  | display (text : String)
  | equal (result : Bool)
  /-- Whether there was a tree to forget. -/
  | dropped (existed : Bool)

/-- Why a step fails. -/
inductive StepError where
  /-- No tree has this name. -/
  | noSlot (name : String)
  | unknownOperator (cause : UnknownOperator)
  | parse (cause : ParseError)
  | evaluation (cause : EvaluationError)
  | calculation (cause : CalculationError)
  deriving DecidableEq

namespace StepError

/-- The sentence shown for a step that fails; for a missing tree, its name. -/
def message : StepError → String
  | noSlot name => name
  | unknownOperator cause => cause.message
  | parse cause => cause.message
  | evaluation cause => cause.message
  | calculation cause => cause.message

end StepError

namespace Session

/-- The tree with the given name. -/
def find (session : Session) (name : String) : Except StepError Expr :=
  match session.slots.lookup name with
  | some expr => .ok expr
  | none => .error (.noSlot name)

/-- Forget all trees with the given name. -/
def erase (session : Session) (name : String) : Session :=
  { session with slots := session.slots.filter (·.1 != name) }

/-- Store a tree under a name. -/
def store (session : Session) (name : String) (expr : Expr) : Session × Answer :=
  ({ session with slots := (name, expr) :: session.slots }, .stored expr)

/-- The operator with the given symbol. -/
def findOperator (symbol : Char) : Except StepError Operator :=
  (Operator.ofSymbol symbol).mapError .unknownOperator

/-- Carry out a step. Trees are looked up before operators, and both from left to
right. -/
def perform (session : Session) : Step → Except StepError (Session × Answer)
  | .configure maxDepth division =>
      let settings : Settings :=
        { maxDepth := maxDepth.getD session.settings.maxDepth
          division := division.getD session.settings.division }
      return ({ session with settings }, .settings settings)
  | .parse slot source => do
      let expr ← (Calculator.parse session.settings source).result.mapError .parse
      return session.store slot expr
  | .literal slot value => return session.store slot (.literal value)
  | .binary slot symbol lhs rhs => do
      let lhs ← session.find lhs
      let rhs ← session.find rhs
      let op ← findOperator symbol
      return session.store slot (.binary op lhs rhs)
  | .composite slot elements symbols => do
      let elements ← elements.mapM session.find
      let operators ← symbols.mapM findOperator
      return session.store slot (.composite elements operators)
  | .evaluate slot => do
      let expr ← session.find slot
      let value ← (expr.evaluate session.settings.division).result.mapError .evaluation
      return (session, .value value)
  | .calculate source => do
      let value ← (Calculator.calculate session.settings source).result.mapError .calculation
      return (session, .value value)
  | .display slot => do
      let expr ← session.find slot
      return (session, .display expr.render)
  | .equal left right => do
      let left ← session.find left
      let right ← session.find right
      return (session, .equal (left == right))
  | .drop slot =>
      return (session.erase slot, .dropped (session.slots.lookup slot).isSome)

/-- Carry out steps one after another. A step that fails leaves the session as it
was, and the next one goes on from there. -/
def run (session : Session) : List Step → List (Except StepError Answer)
  | [] => []
  | step :: steps =>
      match session.perform step with
      | .ok (session, answer) => .ok answer :: session.run steps
      | .error error => .error error :: session.run steps

end Session

end Calculator
