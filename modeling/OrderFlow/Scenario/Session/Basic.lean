import OrderFlow.Checkout.Site
import OrderFlow.Order.Site
import OrderFlow.Scenario.Outboxes
import OrderFlow.Scenario.Sites
import OrderFlow.Shop.Worker

/-!
Sessions: scenarios of a whole shop. A session knows orders in the order in which they come up, and
its steps may name an order by its place among them.
-/
namespace OrderFlow.Scenario
open OrderFlow Json Node

/-- A session. -/
structure Session where
  shop : Shop
  /-- The orders that have come up, in order. -/
  known : List Uuid := []

/-- A step of a session. -/
abbrev SessionStep := Shop.Config → Node → Act Session Answer

namespace Session

/-- Something that is done in the shop. -/
def inShop {α : Type} (f : StateM Shop α) : Act Session α := fun s =>
  let (a, shop) := f.run s.shop
  .ok (a, { s with shop })

/-- Changes the shop without further ado. -/
def arrangeShop (f : Shop → Shop) : Act Session Answer := do
  inShop (modify f)
  return .done

/-- The present point in time. -/
def now : Act Session Instant := inShop Surroundings.clock

/-- An order has come up. -/
def learn (id : Uuid) : Act Session Unit :=
  modify fun s => if id ∈ s.known then s else { s with known := s.known ++ [id] }

/-- The order of a name: an identifier, or the place of a known order behind a dollar sign. -/
def named? (known : List Uuid) (name : String) : Option Uuid :=
  match name.toList with
  | '$' :: place => do known[← Text.natural? place]?
  | cs => Uuid.parse? cs

/-- Does something with the order that a step names. -/
def withOrder (x : Node) (f : Uuid → Act Session Answer) : Act Session Answer := do
  match named? (← get).known (← x.need "order" asText) with
  | some id => f id
  | none => return .failed "NO_SUCH_ORDER" ""

/-- Shows the result of something that is done in the shop. -/
def answering {ε α : Type} [Coded ε] (view : α → Json) (f : StateM Shop (Except ε α)) :
    Act Session Answer :=
  return .of view (← inShop f)

/-- A status of an order. -/
def asStatus : Reader OrderStatus := asVariant OrderStatus.named

/-- A change of the status of an order. -/
def statusChange : Reader (OrderStatus × OrderStatus) := fun x => do
  match ← asList asStatus x with
  | [expected, next] => return (expected, next)
  | _ => throw .wrongLength

/-- How a scripted call of the gateway ends. -/
def ending (x : Node) : Reading Gateway.Ending := do
  if x.isSet "transient" then return .fails (.transient (← x.need "transient" asText))
  if x.isSet "permanent" then return .fails (.permanent (← x.need "permanent" asText))
  if x.isSet "circuit_open" then return .fails (.circuitOpen (← x.need "circuit_open" asText))
  if x.isSet "timeout" then return .fails (.timeout (← x.need "timeout" asSpan))
  if x.isSet "hang" then return .hangs
  return .confirms (← x.find "ok" asText)

/-- A call that the gateway is told to expect. -/
def scriptEntry (x : Node) : Reading Gateway.ScriptEntry := do
  return {
    delay := ← x.findD "delay" asSpan .zero
    setStatus := ← x.find "set_status" statusChange
    ending := ← ending x }

/-- What the gateway is told. -/
def script (x : Node) : Reading (List Gateway.ScriptEntry) := do
  (← x.nodes "gateway").mapM scriptEntry

/-- The name of the breaker in front of the gateway. -/
def breakerName : String := "payment_gateway"

/-- How the shop of a session works, none if it cannot. -/
def config? (x : Node) (payment : Settings.Payment) : Reading (Option Shop.Config) := do
  let keep := (← x.findD "ttl_ms" asInt 86400000) * 1000000
  let cleanupInterval := Span.ofSeconds (max 1 (← x.findD "cleanup_seconds" asNat 3600))
  let tries ← x.findD "max_delivery_attempts" asNat 3
  let outbox? := Outbox.Config.ofSettings? (← settings x "outbox" Settings.Outbox.catalog {})
  let attempts := Payment.Config.ofSettings breakerName payment
  let recovery? := Payment.Recovery.ofSettings? payment.recovery attempts.policy
  return do
    if ¬ attempts.breaker.isFeasible then none
    some {
      keep, cleanupInterval, outbox := ← outbox?, payment := attempts, recovery := ← recovery?
      delivery := .ofTries tries .zero .zero OrderService.serviceName }

/-- The shop at the start of a session. -/
def start (x : Node) (payment : Settings.Payment) : Reading Shop := do
  let gateway ← if x.isSet "simulated_gateway" then
      pure (.simulate (.ofMillis payment.simulatedLatencyMs) payment.simulatedFailureRate)
    else pure (.scripted (← script x) [])
  return { around := ← surroundings x, gateway }

end Session

end OrderFlow.Scenario
