import OrderFlow.Breaker.Metered
import OrderFlow.Scenario.Steps

/-!
Scenarios of a circuit breaker.
-/
namespace OrderFlow.Scenario
open OrderFlow Json Node

/-- What a scenario of a breaker works on. -/
structure BreakerDesk where
  around : Surroundings
  state : Breaker.State := .initial

instance : Situated BreakerDesk := ⟨BreakerDesk.around, fun d around => { d with around }⟩

/-- The mode that the breaker shows. -/
def BreakerDesk.mode (c : Breaker.Config) (d : BreakerDesk) : Json :=
  .text (Breaker.shown c d.around.now d.state).name

/-- The configuration, from settings or field by field. -/
def newBreaker (x : Node) : Reading Breaker.Config := do
  let name ← x.findD "name" asText "test"
  if x.isSet "settings" then
    return .ofSettings name (← settings x "settings" Settings.Breaker.catalog {})
  else
    let c : Breaker.Config := { name }
    return (((c.withWindow (← x.findD "window" asNat c.window) (← x.findD "minimum" asNat c.minimum)
      ).withThreshold (← x.findD "threshold" asReal c.threshold)
      ).withOpenFor (← x.findD "open_ms" asSpan c.openFor)
      ).withPermits (← x.findD "permits" asNat c.permits)

/-- What an error tells about the service, where its text may ask to be ignored. -/
def judgeText (e : String) : Breaker.Result := if e.startsWith "ignore" then .ignored else .failure

/-- A service that takes its time and then succeeds or fails as it is told. -/
def service (delay : Span) (outcome : String) : StateM Surroundings (Except String Unit) := do
  Surroundings.pass delay
  return if outcome = "ok" then .ok () else .error outcome

/-- What came of a call behind a breaker. -/
def breakerCall (c : Breaker.Config) : Option (Except String Unit) → Json
  | none => .object [("failed", .text "open"), ("message", .text (Breaker.refusal c.name))]
  | some (.ok ()) => .object [("value", .nat 1)]
  | some (.error e) => .object [("failed", .text "service"), ("message", .text e)]

/-- Does something with the state of the breaker. -/
def onBreaker {α : Type} (f : Breaker.State → StateM Surroundings (α × Breaker.State)) :
    Act BreakerDesk α := do
  let (a, state) ← doing (f (← get).state : StateM BreakerDesk (α × Breaker.State))
  modify fun d => { d with state }
  return a

/-- A step of a breaker. -/
def breakerStep (c : Breaker.Config) (x : Node) : Act BreakerDesk Answer := do
  let noting (r : Breaker.Result) : Act BreakerDesk Answer :=
    onBreaker fun s => return (.done, ← Breaker.note c r s)
  let calling (judge : String → Breaker.Result) : Act BreakerDesk Answer := do
    let operation := service (← x.findD "delay" asSpan .zero) (← x.findD "outcome" asText "ok")
    return .value (breakerCall c (← onBreaker (Breaker.call c judge operation)))
  match ← action x with
  | "allow" => return .value (.bool (← onBreaker (Breaker.ask c)))
  | "success" => noting .success
  | "failure" => noting .failure
  | "ignored" => noting .ignored
  | "advance" =>
    let d ← x.need "ms" asSpan
    doing (Surroundings.pass d : StateM BreakerDesk Unit)
    return .done
  | "call" => calling fun _ => .failure
  | "classified" => calling judgeText
  | _ => return .value ((← get).mode c)

/-- A scenario of a breaker. -/
def circuitBreaker (x : Node) : Reading Answer := do
  let around ← surroundings x
  let c ← newBreaker x
  if ¬ c.isFeasible then return .overflow
  let more (d : BreakerDesk) := [elapsed around.now d.around, ("state", d.mode c)]
  let (entries, d) ← (runSteps (breakerStep c) more (← x.nodes "steps")).run { around }
  return withMeters entries d.around [("config", breakerConfig c), ("name", .text c.name)]

end OrderFlow.Scenario
