import Calculator.Logged

/-!
# Logged computations in normal form

Nothing that reads or evaluates ever looks at the log, so each computation is known by
its outcome and the events it adds. `Logged.ending` is the computation with a given
outcome and given events; the lemmas here bring a `do` block into that form.
-/

namespace Calculator

namespace Logged

variable {error error' value value' : Type}

/-- Report the events of `log`, in order, and end in `outcome`. -/
def ending (outcome : Except error value) (log : List Event) : Logged error value := fun events =>
  match outcome with
  | .ok value => .ok value (events ++ log.toArray)
  | .error error => .error error (events ++ log.toArray)

/-- Report the events of `log`, in order, and go on with `computation`. -/
def after (log : List Event) (computation : Logged error value) : Logged error value :=
  fun events => computation (events ++ log.toArray)

@[simp] theorem pure_eq_ending (result : value) :
    (pure result : Logged error value) = ending (.ok result) [] := by
  funext events
  change EStateM.Result.ok result events = .ok result (events ++ #[])
  rw [Array.append_empty]

@[simp] theorem throw_eq_ending (cause : error) :
    (throw cause : Logged error value) = ending (.error cause) [] := by
  funext events
  change EStateM.Result.error cause events = .error cause (events ++ #[])
  rw [Array.append_empty]

@[simp] theorem emit_eq_ending (event : Event) :
    (emit event : Logged error Unit) = ending (.ok ()) [event] := by
  funext events
  change EStateM.Result.ok () (events.push event) = .ok () (events ++ #[event])
  rw [Array.push_eq_append]

@[simp] theorem liftExcept_eq_ending (outcome : Except error value) :
    (liftExcept outcome : Logged error value) = ending outcome [] := by
  cases outcome <;> simp [liftExcept]

@[simp] theorem after_nil (computation : Logged error value) :
    after [] computation = computation := by
  funext events
  simp [after]

@[simp] theorem after_after (first second : List Event) (computation : Logged error value) :
    after first (after second computation) = after (first ++ second) computation := by
  funext events
  simp [after]

@[simp] theorem after_ending (first second : List Event) (outcome : Except error value) :
    after first (ending outcome second) = ending outcome (first ++ second) := by
  funext events
  cases outcome <;> simp [after, ending]

@[simp] theorem ending_ok_bind (result : value) (log : List Event)
    (next : value → Logged error value') :
    (ending (.ok result) log >>= next) = after log (next result) := by
  rfl

@[simp] theorem ending_error_bind (cause : error) (log : List Event)
    (next : value → Logged error value') :
    (ending (.error cause) log >>= next) = ending (.error cause) log := by
  rfl

@[simp] theorem after_bind (log : List Event) (computation : Logged error value)
    (next : value → Logged error value') :
    (after log computation >>= next) = after log (computation >>= next) :=
  rfl

/-- Renaming the errors of a computation leaves its events alone. -/
@[simp] theorem adaptExcept_ending (rename : error → error') (outcome : Except error value)
    (log : List Event) :
    EStateM.adaptExcept rename (ending outcome log) = ending (outcome.mapError rename) log := by
  cases outcome <;> rfl

theorem adaptExcept_ending_ok (rename : error → error') (result : value) (log : List Event) :
    EStateM.adaptExcept rename (ending (.ok result) log) = ending (.ok result) log :=
  rfl

@[simp] theorem run_ending (outcome : Except error value) (log : List Event) :
    (ending outcome log).run = (outcome, log.toArray) := by
  cases outcome <;> simp only [run, EStateM.run, ending, Array.empty_append]

/-- Computations that end differently, or report different events, are different. -/
theorem ending_inj {outcome outcome' : Except error value} {log log' : List Event} :
    ending outcome log = ending outcome' log' ↔ outcome = outcome' ∧ log = log' := by
  constructor
  · intro same
    have runs := congrArg run same
    rw [run_ending, run_ending] at runs
    exact ⟨congrArg Prod.fst runs, List.toArray_inj (congrArg Prod.snd runs)⟩
  · rintro ⟨rfl, rfl⟩
    rfl

@[simp] theorem result_ending (outcome : Except error value) (log : List Event) :
    (ending outcome log).result = outcome := by
  simp [result]

@[simp] theorem events_ending (outcome : Except error value) (log : List Event) :
    (ending outcome log).events = log.toArray := by
  simp [events]

end Logged

end Calculator
