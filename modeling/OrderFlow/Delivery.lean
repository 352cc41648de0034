import OrderFlow.DeadLetter.Sending
import OrderFlow.Incoming
import OrderFlow.Order.Desk
import OrderFlow.Retry.Policy

/-!
What the order service does with a message. A message that cannot be read goes to the dead letters
at once. The event of any other is dealt with: an order that has come about is entered and its
payment dispatched, the end of a payment is written down. Where the store is out of reach that is
tried again, and when the tries are used up the message goes to the dead letters as well. Only a
dead letter that cannot be sent makes the delivery itself fail.
-/
namespace OrderFlow.Delivery
open OrderFlow Surroundings

/-- How messages are dealt with. -/
structure Config where
  retry : RetryPolicy
  /-- The name of the service in dead letters. -/
  service : String
  deriving DecidableEq, Repr, Inhabited

namespace Config

/-- The configuration of a greatest number of tries, at least one, and the waits between them. -/
def ofTries (tries : Nat) (initialDelay maxDelay : Span) (service : String) : Config where
  retry :=
    ((RetryPolicy.withMaxAttempts (max 1 tries)).withDelays initialDelay maxDelay).withJitter
      (.ofScientific false 2 (-1))
  service

end Config

/-- What has become of a message. -/
inductive Handling where
  | processed
  | duplicate
  | deadLettered
  deriving DecidableEq, Repr, Inhabited

/-- What the meters call it. -/
def Handling.label : Handling → String
  | .processed => "processed"
  | .duplicate => "duplicate"
  | .deadLettered => "dead_lettered"

/-- What is remembered from try to try: how many have failed, and when the first one did. -/
structure Failures where
  count : Nat := 0
  first : Option Instant := none
  deriving DecidableEq, Repr, Inhabited

/-- Where a delivery stands: what it does next. -/
inductive Phase where
  | reading
  /-- Asks whether an event has been dealt with. -/
  | checking (event : OrderCreated) (failures : Failures)
  /-- Enters an order. -/
  | entering (event : OrderCreated) (failures : Failures)
  /-- Writes down the end of a payment. -/
  | reconciling (event : PaymentCompleted) (failures : Failures)
  | pausing (event : Incoming) (failures : Failures) (wake : Instant)
  /-- Sends a dead letter: the name of the message, why it has failed and how often. -/
  | burying (name : String) (error : OrderError) (tries : Nat) (first : Instant)
  | done (result : Except Failure Handling)
  deriving Inhabited

namespace Phase

/-- The point in time that a delivery has to wait for. -/
def until? : Phase → Option Instant
  | pausing _ _ wake => some wake
  | _ => none

/-- Whether a delivery is at its end. -/
def isDone : Phase → Bool
  | done _ => true
  | _ => false

/-- The phase in which a try to deal with an event begins. -/
def trying (failures : Failures) : Incoming → Phase
  | .orderCreated event => checking event failures
  | .paymentCompleted event => reconciling event failures

end Phase

/-- After a try has failed: another one, or a dead letter. -/
def afterFailure (cfg : Config) (event : Incoming) (failures : Failures) (e : OrderError) :
    StateM OrderDesk Phase := do
  if e = .shared .overflow then return .done (.error .overflow)
  let now ← clock
  let first := failures.first.getD now
  match cfg.retry.sequel e.retryable failures.count (← draw).number with
  | .again wait => return .pausing event ⟨failures.count + 1, some first⟩ (now.after wait)
  | .last => return .burying event.eventId.text e (failures.count + 1) first
  | .breakOff => return .done (.error .overflow)

/-- The order of an event with its payment, both new. -/
def newOrder (event : OrderCreated) : StateM OrderDesk (Order × PaymentTransaction) := do
  let now ← clock
  let lineIds ← event.items.mapM fun _ => (orderedId : StateM OrderDesk Uuid)
  let order := Order.ofEvent event lineIds now
  return (order, .pendingFor order (← orderedId) now)

/-- Sends the dead letter of a message. -/
def bury (cfg : Config) (m : Message) (name : String) (e : OrderError) (tries : Nat)
    (first : Instant) : StateM OrderDesk Phase := do
  let letter := DeadLetter.ofMessage m name e.message e.code tries first (← clock) cfg.service
  let (result, broker) ← letter.submit (← get).broker
  modify fun d => { d with broker }
  match result with
  | .ok () => return .done (.ok .deadLettered)
  | .error e => return .done (.error e)

/-- What a delivery does in a phase, and its next phase. -/
def Phase.step [EmailCheck] (cfg : Config) (m : Message) : Phase → StateM OrderDesk Phase
  | .reading => do
    match Incoming.ofMessage m with
    | .ok event => return .trying {} event
    | .error e => return .burying m.name e 1 (← clock)
  | .checking event failures => do
    match ← OrderDesk.isProcessed event.eventId with
    | .error e => afterFailure cfg (.orderCreated event) failures e
    | .ok true => return .done (.ok .duplicate)
    | .ok false => return .entering event failures
  | .entering event failures => do
    let (order, payment) ← newOrder event
    match ← OrderDesk.create order payment event.eventId with
    | .error e => afterFailure cfg (.orderCreated event) failures e
    | .ok .duplicate => return .done (.ok .duplicate)
    | .ok .created =>
      modify fun d => { d with dispatched := d.dispatched ++ [order.id] }
      return .done (.ok .processed)
  | .reconciling event failures => do
    match ← OrderDesk.complete (.ofEvent event) with
    | .error e => afterFailure cfg (.paymentCompleted event) failures e
    | .ok .duplicate => return .done (.ok .duplicate)
    | .ok _ => return .done (.ok .processed)
  | .pausing event failures _ => return .trying failures event
  | .burying name e tries first => bury cfg m name e tries first
  | .done result => return .done result

/-- How many phases can still follow after some tries have failed. -/
def triesLeft (cfg : Config) (failures : Failures) : Nat :=
  3 * (cfg.retry.maxRetries - failures.count) + 1

/-- How many phases can still follow at most, the end included. -/
def Phase.left (cfg : Config) : Phase → Nat
  | .reading => triesLeft cfg {} + 4
  | .pausing _ failures _ => triesLeft cfg failures + 3
  | .checking _ failures => triesLeft cfg failures + 2
  | .entering _ failures | .reconciling _ failures => triesLeft cfg failures + 1
  | .burying .. => 1
  | .done _ => 0

/-- Shows on the meters what has become of a message. -/
def note (m : Message) (result : Except Failure Handling) : StateM Surroundings Unit := do
  if let .ok handling := result then meter (Meters.consumed m.topic handling.label)

end OrderFlow.Delivery
