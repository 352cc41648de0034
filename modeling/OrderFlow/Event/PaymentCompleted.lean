import OrderFlow.Event.Kind
import OrderFlow.Json.Scalars

/-!
The event that a payment has come to an end, with success or without.
-/
namespace OrderFlow
open Json

/-- How a payment ended. -/
inductive PaymentResult where
  | success
  | failed
  deriving DecidableEq, Repr, Inhabited

namespace PaymentResult

/-- The name of a result. -/
def name : PaymentResult → String
  | .success => "SUCCESS"
  | .failed => "FAILED"

/-- Reads a result. -/
def reader : Reader PaymentResult :=
  Node.asVariant [(success.name, success), (failed.name, failed)]

end PaymentResult

/-- A payment has come to an end. -/
structure PaymentCompleted where
  eventId : Uuid
  kind : EventKind
  version : String
  timestamp : Timestamp
  correlationId : String
  orderId : Uuid
  orderNumber : String
  transactionId : Uuid
  status : PaymentResult
  amount : Decimal
  method : String
  externalTransactionId : Option String
  failureReason : Option String
  deriving DecidableEq, Repr, Inhabited

namespace PaymentCompleted

/-- The rules that the fields of an event break. -/
def violations (e : PaymentCompleted) : List Violation :=
  Violation.length "correlation_id" "correlationId 不能为空" e.correlationId 1 none ++
  Violation.length "order_number" "订单号不能为空" e.orderNumber 1 none ++
  Violation.length "payment_method" "支付方式不能为空" e.method 1 none

/-- Whether an event may be trusted, and if not, the first thing that is wrong with it: a success
has to name the transaction, a failure its reason. -/
def check (e : PaymentCompleted) : Except Invalid Unit := do
  if e.violations ≠ [] then throw (.fields e.violations)
  if e.kind ≠ .paymentCompleted then
    throw (.otherEventKind EventKind.paymentCompleted.name e.kind.name)
  match e.status with
  | .success => if e.externalTransactionId.isNone then throw .noExternalTransaction
  | .failed => if e.failureReason.isNone then throw .noFailureReason

/-- A member that is left out where it has no value. -/
def present (name : String) : Option String → List (String × Json)
  | some s => [(name, .text s)]
  | none => []

/-- The written form. -/
def toJson (e : PaymentCompleted) : Json :=
  .object ([("eventId", e.eventId.toJson), ("eventType", e.kind.toJson),
    ("eventVersion", .text e.version), ("timestamp", e.timestamp.toJson),
    ("correlationId", .text e.correlationId), ("orderId", e.orderId.toJson),
    ("orderNumber", .text e.orderNumber), ("paymentTransactionId", e.transactionId.toJson),
    ("status", .text e.status.name), ("amount", e.amount.toJson),
    ("paymentMethod", .text e.method)] ++
    present "externalTransactionId" e.externalTransactionId ++
    present "failureReason" e.failureReason)

/-- The members of the written form. -/
def fields : List Field :=
  [⟨"eventId", [], Uuid, Uuid.reader, none⟩, ⟨"eventType", [], EventKind, EventKind.reader, none⟩,
   ⟨"eventVersion", [], String, Node.asText, none⟩,
   ⟨"timestamp", [], Timestamp, Timestamp.reader, none⟩,
   ⟨"correlationId", [], String, Node.asText, none⟩, ⟨"orderId", [], Uuid, Uuid.reader, none⟩,
   ⟨"orderNumber", [], String, Node.asText, none⟩,
   ⟨"paymentTransactionId", [], Uuid, Uuid.reader, none⟩,
   ⟨"status", [], PaymentResult, PaymentResult.reader, none⟩,
   ⟨"amount", [], Decimal, Decimal.reader, none⟩,
   ⟨"paymentMethod", [], String, Node.asText, none⟩,
   ⟨"externalTransactionId", [], Option String, Node.asOptional Node.asText, some none⟩,
   ⟨"failureReason", [], Option String, Node.asOptional Node.asText, some none⟩]

/-- The event of its members. -/
def ofRecord : Record fields → PaymentCompleted
  | (eventId, kind, version, timestamp, correlationId, orderId, orderNumber, transactionId, status,
      amount, method, externalTransactionId, failureReason, ()) =>
    ⟨eventId, kind, version, timestamp, correlationId, orderId, orderNumber, transactionId, status,
      amount, method, externalTransactionId, failureReason⟩

/-- Reads the written form. -/
def reader : Reader PaymentCompleted := fun node => (Record.read fields node).map ofRecord

end PaymentCompleted

end OrderFlow
