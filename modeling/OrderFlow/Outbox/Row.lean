import OrderFlow.Broker
import OrderFlow.Event.OrderCreated
import OrderFlow.Event.PaymentCompleted

/-!
The rows of an outbox: events that wait to be sent, and what has become of them.
-/
namespace OrderFlow.Outbox
open OrderFlow

/-- An event that is to be sent. Its payload is a value whose members are ordered by name. -/
structure Posting where
  id : Uuid
  aggregateId : String
  kind : String
  topic : String
  payload : Json
  deriving Repr, Inhabited

namespace Posting

/-- The posting of an event that an order has come about. -/
def ofOrderCreated (e : OrderCreated) : Posting :=
  ⟨e.eventId, e.orderId.text, EventKind.orderCreated.name, EventKind.orderCreated.topic,
    e.toJson.ordered⟩

/-- The posting of an event that a payment has ended. -/
def ofPaymentCompleted (e : PaymentCompleted) : Posting :=
  ⟨e.eventId, e.orderId.text, EventKind.paymentCompleted.name, EventKind.paymentCompleted.topic,
    e.toJson.ordered⟩

end Posting

/-- What has become of an event. -/
inductive Status where
  | pending
  | published
  | failed
  deriving DecidableEq, Repr, Inhabited

/-- The name of a status. -/
def Status.name : Status → String
  | .pending => "PENDING"
  | .published => "PUBLISHED"
  | .failed => "FAILED"

/-- A row of an outbox. -/
structure Row where
  posting : Posting
  status : Status := .pending
  attempts : Nat := 0
  lastError : Option String := none
  createdAt : Instant
  lastAttemptAt : Option Instant := none
  nextAttemptAt : Instant
  claimedUntil : Option Instant := none
  publishedAt : Option Instant := none
  deriving Repr, Inhabited

namespace Row

/-- The row of an event that is new. -/
def new (posting : Posting) (now : Instant) : Row :=
  { posting, createdAt := now, nextAttemptAt := now }

/-- Whether an event still waits to be sent. -/
def isPending (r : Row) : Bool := r.status = .pending

/-- Whether an event may be tried now and nobody else is at it. -/
def isDue (now : Instant) (r : Row) : Bool :=
  r.nextAttemptAt ≤ now && r.claimedUntil.all (· < now)

/-- The message of an event. -/
def message (r : Row) : SentMessage :=
  ⟨r.posting.topic, r.posting.aggregateId, Octets.ofText r.posting.payload.render⟩

end Row

/-- How many characters of an error are kept. -/
def errorLimit : Nat := 500

/-- The beginning of an error's text. -/
def shortened (error : String) : String := String.ofList (error.toList.take errorLimit)

end OrderFlow.Outbox
