import Calculator.Proofs.Logged

/-!
# Computations in lockstep

Two computations run in lockstep if they cannot be told apart by one who sees of each report only
what `view` shows: they report one and the same thing at a time, and either both give values or
both stop with errors. If everything is seen they run side by side. What the values and the errors
have to do with each other is left open, so computations in lockstep may be put together step by
step.
-/

namespace Calculator

namespace Logged

variable {error error' value value' seen : Type}

/-- Two ways to end that show the same reports: in related values or in related errors. -/
inductive EndsInLockstep (view : Event → seen) (ok : value → value' → Prop)
    (failed : error → error' → Prop) :
    EStateM.Result error (Array Event) value → EStateM.Result error' (Array Event) value' → Prop
    where
  | ok {left : value} {right : value'} {events events' : Array Event} (related : ok left right)
      (sameLog : events.map view = events'.map view) :
      EndsInLockstep view ok failed (.ok left events) (.ok right events')
  | error {left : error} {right : error'} {events events' : Array Event}
      (related : failed left right) (sameLog : events.map view = events'.map view) :
      EndsInLockstep view ok failed (.error left events) (.error right events')

/-- Two computations that end in lockstep, whatever has been reported before. -/
def Lockstep (view : Event → seen) (ok : value → value' → Prop) (failed : error → error' → Prop)
    (left : Logged error value) (right : Logged error' value') : Prop :=
  ∀ events events' : Array Event, events.map view = events'.map view →
    EndsInLockstep view ok failed (left events) (right events')

namespace Lockstep

variable {view : Event → seen} {ok : value → value' → Prop} {failed : error → error' → Prop}

theorem pure {left : value} {right : value'} (related : ok left right) :
    Lockstep view ok failed (Pure.pure left) (Pure.pure right) :=
  fun _ _ sameLog => .ok related sameLog

theorem throw {left : error} {right : error'} (related : failed left right) :
    Lockstep view ok failed (throw left) (throw right) :=
  fun _ _ sameLog => .error related sameLog

theorem emit {event event' : Event} (same : view event = view event') :
    Lockstep view Eq failed (emit event) (emit event') :=
  fun _ _ sameLog => .ok rfl (by rw [Array.map_push, Array.map_push, sameLog, same])

/-- What follows related values may run in lockstep, too. -/
theorem bind {result result' : Type} {ok' : result → result' → Prop} {left : Logged error value}
    {right : Logged error' value'} {next : value → Logged error result}
    {next' : value' → Logged error' result'} (first : Lockstep view ok failed left right)
    (behind : ∀ lhs rhs, ok lhs rhs → Lockstep view ok' failed (next lhs) (next' rhs)) :
    Lockstep view ok' failed (left >>= next) (right >>= next') := by
  intro events events' sameLog
  have ends := first events events' sameLog
  change EndsInLockstep view ok' failed (EStateM.bind left next events)
    (EStateM.bind right next' events')
  rw [EStateM.bind, EStateM.bind]
  generalize left events = ended, right events' = ended' at ends ⊢
  cases ends with
  | ok related sameLog => exact behind _ _ related _ _ sameLog
  | error related sameLog => exact .error related sameLog

/-- What two computations give and report when they run in lockstep. -/
theorem run {left : Logged error value} {right : Logged error' value'}
    (both : Lockstep view ok failed left right) :
    ((∃ lhs rhs, left.result = .ok lhs ∧ right.result = .ok rhs ∧ ok lhs rhs) ∨
      ∃ lhs rhs, left.result = .error lhs ∧ right.result = .error rhs ∧ failed lhs rhs) ∧
    left.events.map view = right.events.map view := by
  have ends := both #[] #[] rfl
  rw [Logged.result, Logged.result, Logged.events, Logged.events, Logged.run, Logged.run,
    EStateM.run, EStateM.run]
  generalize left #[] = ended, right #[] = ended' at ends ⊢
  cases ends with
  | ok related sameLog => exact ⟨.inl ⟨_, _, rfl, rfl, related⟩, sameLog⟩
  | error related sameLog => exact ⟨.inr ⟨_, _, rfl, rfl, related⟩, sameLog⟩

end Lockstep

end Logged

end Calculator
