import OrderFlow.Scenario.Session.Ordering
import OrderFlow.Scenario.Session.Shopping

/-!
Scenarios of a whole shop.
-/
namespace OrderFlow.Scenario
open OrderFlow Json Node

namespace Session

/-- The workers of the order service as steps. -/
def working : List (String × SessionStep) :=
  [("run_order_publisher", runWorker .orderPublisher), ("run_recovery", runWorker .recovery)]

/-- A step of a session. An answer given after a number had left its range is none. -/
def step (cfg : Shop.Config) (start : Instant) (x : Node) : Act Session Answer := do
  let steps := shopping ++ ordering start ++ working
  let answer ← (← asVariant steps (.text (some (← action x).toList))) cfg x
  return if (← get).shop.around.overflowed then .overflow else answer

end Session

/-- A scenario of a whole shop. -/
def session (x : Node) : Reading Answer := do
  let payment ← settings x "payment" Settings.Payment.catalog { jitterFactor := .ofNat 0 }
  let shop ← Session.start x payment
  match ← Session.config? x payment with
  | none => return .overflow
  | some cfg =>
    let start := shop.around.now
    let more (s : Session) := [elapsed start s.shop.around]
    let (entries, s) ← (runSteps (Session.step cfg start) more (← x.nodes "steps")).run { shop }
    return withMeters entries s.shop.around []

end OrderFlow.Scenario
