import Calculator.Event

/-!
# Logged computations

A computation that reports events as it goes and may stop with an error. The events
before an error are kept.
-/

namespace Calculator

/-- A computation that reports events and gives a value or an error. -/
abbrev Logged (error : Type) := EStateM error (Array Event)

namespace Logged

variable {error value : Type}

/-- Report an event. -/
def emit (event : Event) : Logged error Unit :=
  modify fun events => events.push event

/-- What a computation gives, and the events it reports, in order. -/
def run (computation : Logged error value) : Except error value × Array Event :=
  match EStateM.run computation #[] with
  | .ok value events => (.ok value, events)
  | .error error events => (.error error, events)

/-- What a computation gives. -/
def result (computation : Logged error value) : Except error value :=
  computation.run.1

/-- The events a computation reports, in order. -/
def events (computation : Logged error value) : Array Event :=
  computation.run.2

end Logged

end Calculator
