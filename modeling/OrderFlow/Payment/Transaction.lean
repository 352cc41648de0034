import OrderFlow.Event.PaymentCompleted
import OrderFlow.Order.Basic

/-!
The payment of an order. It is pending until one outcome settles it; `settle?` writes the outcome
into the transaction, and `PaymentOutcome.event` is what the rest of the world is told.
-/
namespace OrderFlow
open Json

/-- Where a payment stands. -/
inductive PaymentStatus where
  | pending
  | success
  | failed
  deriving DecidableEq, Repr, Inhabited

namespace PaymentStatus

/-- The name of a status. -/
def name : PaymentStatus → String
  | .pending => "PENDING"
  | .success => "SUCCESS"
  | .failed => "FAILED"

/-- Every status by name. -/
def named : List (String × PaymentStatus) := [pending, success, failed].map fun s => (s.name, s)

/-- The status that a result leads to. -/
def ofResult : PaymentResult → PaymentStatus
  | .success => .success
  | .failed => .failed

end PaymentStatus

/-- How an attempt to pay for an order has ended. -/
structure PaymentOutcome where
  /-- The identifier of the event that tells of the outcome; an outcome counts once by it. -/
  eventId : Uuid
  orderId : Uuid
  result : PaymentResult
  externalTransactionId : Option String
  failureReason : Option String
  /-- How often the gateway was called, as a counter of 32 bits has it. -/
  attempts : Int
  /-- Whether others are told. -/
  publish : Bool
  deriving DecidableEq, Repr, Inhabited

namespace PaymentOutcome

/-- The outcome of a charge that was confirmed. -/
def succeeded (eventId orderId : Uuid) (external : String) (attempts : Int) : PaymentOutcome where
  eventId
  orderId
  result := .success
  externalTransactionId := some external
  failureReason := none
  attempts
  publish := true

/-- The outcome of an attempt without a confirmed charge. -/
def failed (eventId orderId : Uuid) (reason : String) (attempts : Int) : PaymentOutcome where
  eventId
  orderId
  result := .failed
  externalTransactionId := none
  failureReason := some reason
  attempts
  publish := true

/-- The outcome that an event tells of. -/
def ofEvent (e : PaymentCompleted) : PaymentOutcome where
  eventId := e.eventId
  orderId := e.orderId
  result := e.status
  externalTransactionId := e.externalTransactionId
  failureReason := e.failureReason
  attempts := 0
  publish := false

/-- Whether the charge was confirmed. -/
def isSuccess (o : PaymentOutcome) : Bool := o.result = .success

end PaymentOutcome

/-- The payment of an order. -/
structure PaymentTransaction where
  id : Uuid
  orderId : Uuid
  amount : Decimal
  currency : String
  status : PaymentStatus
  method : String
  externalTransactionId : Option String
  failureReason : Option String
  /-- How often the gateway was called for it. -/
  attempts : Int
  createdAt : Instant
  updatedAt : Instant
  completedAt : Option Instant
  deriving DecidableEq, Repr, Inhabited

namespace PaymentTransaction

/-- The pending payment of an order. -/
def pendingFor (o : Order) (id : Uuid) (now : Instant) : PaymentTransaction where
  id
  orderId := o.id
  amount := o.subtotal
  currency := "USD"
  status := .pending
  method := "MOCK"
  externalTransactionId := none
  failureReason := none
  attempts := 0
  createdAt := now
  updatedAt := now
  completedAt := none

/-- Writes an outcome into a transaction, none if the number of attempts leaves 32 bits. -/
def settle? (t : PaymentTransaction) (o : PaymentOutcome) (now : Instant) :
    Option PaymentTransaction :=
  let attempts := t.attempts + o.attempts
  if -2 ^ 31 ≤ attempts ∧ attempts < 2 ^ 31 then
    some { t with
      status := .ofResult o.result
      externalTransactionId := o.externalTransactionId
      failureReason := o.failureReason
      attempts
      updatedAt := now
      completedAt := some now }
  else none

/-- The written form. -/
def toJson (t : PaymentTransaction) : Json :=
  .object [("id", t.id.toJson), ("orderId", t.orderId.toJson), ("amount", t.amount.toJson),
    ("currency", .text t.currency), ("status", .text t.status.name),
    ("paymentMethod", .text t.method),
    ("externalTransactionId", .optional .text t.externalTransactionId),
    ("failureReason", .optional .text t.failureReason), ("attemptCount", .int t.attempts),
    ("createdAt", t.createdAt.toJson), ("updatedAt", t.updatedAt.toJson),
    ("completedAt", .optional Instant.toJson t.completedAt)]

end PaymentTransaction

/-- The event that tells of an outcome. -/
def PaymentOutcome.event (p : PaymentOutcome) (o : Order) (t : PaymentTransaction) (now : Instant) :
    PaymentCompleted where
  eventId := p.eventId
  kind := .paymentCompleted
  version := eventVersion
  timestamp := .ofInstant now
  correlationId := o.correlationId
  orderId := o.id
  orderNumber := o.number
  transactionId := t.id
  status := p.result
  amount := t.amount
  method := t.method
  externalTransactionId := p.externalTransactionId
  failureReason := p.failureReason

end OrderFlow
