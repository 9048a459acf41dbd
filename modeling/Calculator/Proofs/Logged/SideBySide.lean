import Calculator.Proofs.Logged.Lockstep

/-!
# Computations side by side

Two computations run side by side if they report the same events and either both give values or
both stop with errors. What the values and the errors have to do with each other is left open.
They run in lockstep for one who sees all of their reports, so they may be put together step by
step as such computations may; and two runs of a reader are compared by comparing what they do with
one piece.
-/

namespace Calculator

namespace Logged

variable {error error' value value' : Type}

/-- Two ways to end with the same events: in related values or in related errors. -/
inductive EndsAlike (ok : value → value' → Prop) (failed : error → error' → Prop) :
    EStateM.Result error (Array Event) value → EStateM.Result error' (Array Event) value' → Prop
    where
  | ok {left : value} {right : value'} {events : Array Event} (related : ok left right) :
      EndsAlike ok failed (.ok left events) (.ok right events)
  | error {left : error} {right : error'} {events : Array Event} (related : failed left right) :
      EndsAlike ok failed (.error left events) (.error right events)

/-- Two computations that end alike, whatever has been reported before. -/
def SideBySide (ok : value → value' → Prop) (failed : error → error' → Prop)
    (left : Logged error value) (right : Logged error' value') : Prop :=
  ∀ events, EndsAlike ok failed (left events) (right events)

theorem endsAlike_iff_endsInLockstep {ok : value → value' → Prop} {failed : error → error' → Prop}
    {ended : EStateM.Result error (Array Event) value}
    {ended' : EStateM.Result error' (Array Event) value'} :
    EndsAlike ok failed ended ended' ↔ EndsInLockstep id ok failed ended ended' := by
  constructor
  · rintro (related | related)
    · exact .ok related rfl
    · exact .error related rfl
  · rintro (⟨related, sameLog⟩ | ⟨related, sameLog⟩) <;> rw [Array.map_id, Array.map_id] at sameLog
    · exact sameLog ▸ .ok related
    · exact sameLog ▸ .error related

/-- Computations run side by side if they run in lockstep and everything is seen. -/
theorem sideBySide_iff_lockstep {ok : value → value' → Prop} {failed : error → error' → Prop}
    {left : Logged error value} {right : Logged error' value'} :
    SideBySide ok failed left right ↔ Lockstep id ok failed left right := by
  constructor
  · intro run events events' sameLog
    rw [Array.map_id, Array.map_id] at sameLog
    exact sameLog ▸ endsAlike_iff_endsInLockstep.mp (run events)
  · exact fun run events => endsAlike_iff_endsInLockstep.mpr (run events events rfl)

namespace SideBySide

variable {ok : value → value' → Prop} {failed : error → error' → Prop}

/-- A computation runs beside itself. -/
theorem refl {ok : value → value → Prop} {failed : error → error → Prop}
    (ofOk : ∀ result, ok result result) (ofFailed : ∀ cause, failed cause cause)
    (computation : Logged error value) : SideBySide ok failed computation computation := by
  intro events
  cases computation events with
  | ok result events => exact .ok (ofOk result)
  | error cause events => exact .error (ofFailed cause)

theorem pure {left : value} {right : value'} (related : ok left right) :
    SideBySide ok failed (Pure.pure left) (Pure.pure right) :=
  fun _ => .ok related

theorem throw {left : error} {right : error'} (related : failed left right) :
    SideBySide ok failed (throw left) (throw right) :=
  fun _ => .error related

/-- What follows related values may run side by side, too. -/
theorem bind {result result' : Type} {ok' : result → result' → Prop} {left : Logged error value}
    {right : Logged error' value'} {next : value → Logged error result}
    {next' : value' → Logged error' result'} (first : SideBySide ok failed left right)
    (behind : ∀ lhs rhs, ok lhs rhs → SideBySide ok' failed (next lhs) (next' rhs)) :
    SideBySide ok' failed (left >>= next) (right >>= next') :=
  sideBySide_iff_lockstep.mpr ((sideBySide_iff_lockstep.mp first).bind fun lhs rhs related =>
    sideBySide_iff_lockstep.mp (behind lhs rhs related))

/-- What two computations give when they run side by side. -/
theorem result {left : Logged error value} {right : Logged error' value'}
    (run : SideBySide ok failed left right) :
    (∃ lhs rhs, left.result = .ok lhs ∧ right.result = .ok rhs ∧ ok lhs rhs) ∨
      ∃ lhs rhs, left.result = .error lhs ∧ right.result = .error rhs ∧ failed lhs rhs :=
  (sideBySide_iff_lockstep.mp run).run.1

/-- Computations that give the same and report the same are the same, up to the names of errors. -/
theorem eq_adaptExcept {left : Logged error value} {right : Logged error' value}
    {rename : error' → error}
    (run : SideBySide Eq (fun failure cause => failure = rename cause) left right) :
    left = EStateM.adaptExcept rename right := by
  funext events
  have ends := run events
  rw [EStateM.adaptExcept]
  generalize left events = ended, right events = ended' at ends ⊢
  cases ends with
  | ok same => rw [same]
  | error same => rw [same]

end SideBySide

end Logged

end Calculator
