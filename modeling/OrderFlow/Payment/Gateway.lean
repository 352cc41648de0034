import OrderFlow.Order.Book
import OrderFlow.Payment.Error
import OrderFlow.Surroundings

/-!
Payment gateways. One follows a script, call by call, and keeps a log of its calls; the other one
simulates a real gateway with a latency and a rate of failures. A call has two ends: it begins, and
if it answers at all it concludes some time later.
-/
namespace OrderFlow

/-- What a gateway is asked for. -/
structure ChargeRequest where
  orderId : Uuid
  orderNumber : String
  amount : Decimal
  currency : String
  deriving DecidableEq, Repr, Inhabited

namespace Gateway
open Surroundings

/-- How a scripted call ends. -/
inductive Ending where
  /-- With a transaction, by default one named after the number of the call. -/
  | confirms (transaction : Option String)
  | fails (error : PaymentError)
  /-- Not at all. -/
  | hangs
  deriving DecidableEq, Repr, Inhabited

/-- What a scripted call does. -/
structure ScriptEntry where
  delay : Span := .zero
  /-- A change of the order's status that somebody else makes meanwhile. -/
  setStatus : Option (OrderStatus × OrderStatus) := none
  ending : Ending := .confirms none
  deriving DecidableEq, Repr, Inhabited

/-- A call of the scripted gateway. -/
structure LoggedCall where
  time : Instant
  request : ChargeRequest
  deriving DecidableEq, Repr, Inhabited

end Gateway

/-- A payment gateway. -/
inductive Gateway where
  | scripted (script : List Gateway.ScriptEntry) (log : List Gateway.LoggedCall)
  | simulated (latency : Span) (failureRate : Binary64)
  deriving Repr, Inhabited

namespace Gateway
open Surroundings

/-- A simulated gateway; its rate is brought into the range from nothing to one. -/
def simulate (latency : Span) (failureRate : Binary64) : Gateway :=
  .simulated latency (failureRate.clamp (.ofNat 0) (.ofNat 1))

/-- The simulated gateway without settings. -/
def simulatedDefault : Gateway := simulate (.ofMillis 100) (.ofNat 0)

/-- A call that is under way. -/
inductive Call where
  /-- `number` counts the calls of the script from one. -/
  | scripted (number : Nat) (entry : ScriptEntry)
  | simulated (latency : Span) (failureRate : Binary64)
  deriving Repr, Inhabited

/-- How long a call takes, as far as it answers. -/
def Call.delay : Call → Span
  | .scripted _ entry => entry.delay
  | .simulated latency _ => latency

/-- Begins a call. An exhausted script confirms at once. -/
def start (request : ChargeRequest) (now : Instant) : Gateway → Call × Gateway
  | .scripted script log =>
    (.scripted (log.length + 1) (script.headD {}),
      .scripted script.tail (log ++ [⟨now, request⟩]))
  | .simulated latency failureRate =>
    (.simulated latency failureRate, .simulated latency failureRate)

/-- The answer of a simulated gateway: with a positive rate it may fail, and else it names the
transaction after the present time. -/
def simulatedAnswer (failureRate : Binary64) :
    StateM Surroundings (Except PaymentError String) := do
  let fails ← if (Binary64.ofNat 0).lt failureRate then
      if (Binary64.ofNat 1).le failureRate then pure true
      else do pure ((← draw).number.lt failureRate)
    else pure false
  if fails then return .error (.transient "模拟网关故障")
  else return .ok ("mock_tx_" ++ toString (← clock).millis)

/-- The answer of a call whose time has come, none if it never answers. -/
def Call.answer : Call → StateM Surroundings (Option (Except PaymentError String))
  | .scripted number entry =>
    match entry.ending with
    | .confirms transaction => return some (.ok (transaction.getD ("tx-" ++ toString number)))
    | .fails e => return some (.error e)
    | .hangs => return none
  | .simulated _ failureRate => return some (← simulatedAnswer failureRate)

/-- What a call does to the orders when its time has come. -/
def Call.effect (request : ChargeRequest) (now : Instant) (c : Call) (b : OrderBook) : OrderBook :=
  match c with
  | .scripted _ { setStatus := some (expected, next), .. } =>
    (b.updateStatus request.orderId expected next now).2
  | _ => b

end Gateway

end OrderFlow
