import OrderFlow.Breaker.Basic
import OrderFlow.Surroundings

/-!
A circuit breaker whose changes of mode and refusals show on the meters.
-/
namespace OrderFlow.Breaker
open OrderFlow

/-- Shows a change of mode on the meters. -/
def report (c : Config) (before after : State) (m : Meters) : Meters :=
  if before.mode = after.mode then m
  else m.breakerChange c.name before.mode.name after.mode.name after.mode.number

/-- Asks whether a call may go through. -/
def ask (c : Config) (s : State) : StateM Surroundings (Bool × State) := do
  let (admitted, s') := permit c (← Surroundings.clock) s
  Surroundings.meter (report c s s')
  return (admitted, s')

/-- Asks on behalf of a call; a refusal shows on the meters. -/
def askForCall (c : Config) (s : State) : StateM Surroundings (Bool × State) := do
  let (admitted, s) ← ask c s
  if ¬ admitted then Surroundings.meter (Meters.breakerRejection c.name)
  return (admitted, s)

/-- Notes how a call has ended. -/
def note (c : Config) (r : Result) (s : State) : StateM Surroundings State := do
  let s' := settle c (← Surroundings.clock) r s
  Surroundings.meter (report c s s')
  return s'

/-- A call behind a breaker: nothing if it is refused. `judge` says what an error tells about the
service. -/
def call {ε α : Type} (c : Config) (judge : ε → Result)
    (operation : StateM Surroundings (Except ε α)) (s : State) :
    StateM Surroundings (Option (Except ε α) × State) := do
  let (admitted, s) ← askForCall c s
  if admitted then
    let answer ← operation
    let result := match answer with
      | .ok _ => .success
      | .error e => judge e
    return (some answer, ← note c result s)
  else return (none, s)

end OrderFlow.Breaker
