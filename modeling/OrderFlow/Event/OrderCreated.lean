import OrderFlow.Event.Customer
import OrderFlow.Event.Kind
import OrderFlow.Event.LineItem

/-!
The event that a checkout has become an order. `check` says whether the event may be trusted: all
fields keep their rules, it is of its own kind, and its amounts agree with each other.
-/
namespace OrderFlow
open Json

/-- A checkout has become an order. -/
structure OrderCreated where
  eventId : Uuid
  kind : EventKind
  version : String
  timestamp : Timestamp
  correlationId : String
  orderId : Uuid
  orderNumber : String
  customer : Customer
  items : List LineItem
  subtotal : Decimal
  cartId : Uuid
  deriving DecidableEq, Repr, Inhabited

namespace OrderCreated

/-- A new event. An amount that is too large to write is left to `check` to refuse. -/
def new (eventId : Uuid) (now : Instant) (correlationId : String) (orderId : Uuid)
    (orderNumber : String) (customer : Customer) (items : List LineItem) (cartId : Uuid) :
    OrderCreated where
  eventId
  kind := .orderCreated
  version := eventVersion
  timestamp := .ofInstant now
  correlationId
  orderId
  orderNumber
  customer
  items
  subtotal := (Decimal.sum (items.map (·.subtotal))).getD .greatest
  cartId

/-- The rules that the lines break. -/
def itemViolations : Nat → List LineItem → List Violation
  | _, [] => []
  | n, i :: is =>
    Violation.within ("items[" ++ toString n ++ "]") i.violations ++ itemViolations (n + 1) is

/-- The rules that the fields of an event break. -/
def violations [EmailCheck] (e : OrderCreated) : List Violation :=
  Violation.length "correlation_id" "correlationId 不能为空" e.correlationId 1 none ++
  Violation.length "order_number" "订单号不能为空" e.orderNumber 1 none ++
  Violation.within "customer" e.customer.violations ++
  Violation.require "items" "订单至少包含一个商品" (!e.items.isEmpty) ++
  itemViolations 0 e.items

/-- Whether an event may be trusted, and if not, the first thing that is wrong with it. -/
def check [EmailCheck] (e : OrderCreated) : Except Invalid Unit := do
  if e.violations ≠ [] then throw (.fields e.violations)
  if e.kind ≠ .orderCreated then
    throw (.otherEventKind EventKind.orderCreated.name e.kind.name)
  e.items.forM LineItem.checkAmount
  match Decimal.sum (e.items.map (·.subtotal)) with
  | none => throw .subtotalTooLarge
  | some expected =>
    if expected.sameValue e.subtotal then pure () else throw (.subtotalDiffers expected e.subtotal)

/-- The written form. -/
def toJson (e : OrderCreated) : Json :=
  .object [("eventId", e.eventId.toJson), ("eventType", e.kind.toJson),
    ("eventVersion", .text e.version), ("timestamp", e.timestamp.toJson),
    ("correlationId", .text e.correlationId), ("orderId", e.orderId.toJson),
    ("orderNumber", .text e.orderNumber), ("customer", e.customer.toJson),
    ("items", .array (e.items.map LineItem.toJson)), ("subtotal", e.subtotal.toJson),
    ("cartId", e.cartId.toJson)]

/-- The members of the written form. -/
def fields : List Field :=
  [⟨"eventId", [], Uuid, Uuid.reader, none⟩, ⟨"eventType", [], EventKind, EventKind.reader, none⟩,
   ⟨"eventVersion", [], String, Node.asText, none⟩,
   ⟨"timestamp", [], Timestamp, Timestamp.reader, none⟩,
   ⟨"correlationId", [], String, Node.asText, none⟩, ⟨"orderId", [], Uuid, Uuid.reader, none⟩,
   ⟨"orderNumber", [], String, Node.asText, none⟩,
   ⟨"customer", [], Customer, Customer.reader, none⟩,
   ⟨"items", [], List LineItem, Node.asList LineItem.reader, none⟩,
   ⟨"subtotal", [], Decimal, Decimal.reader, none⟩, ⟨"cartId", [], Uuid, Uuid.reader, none⟩]

/-- The event of its members. -/
def ofRecord : Record fields → OrderCreated
  | (eventId, kind, version, timestamp, correlationId, orderId, orderNumber, customer, items,
      subtotal, cartId, ()) =>
    ⟨eventId, kind, version, timestamp, correlationId, orderId, orderNumber, customer, items,
      subtotal, cartId⟩

/-- Reads the written form. -/
def reader : Reader OrderCreated := fun node => (Record.read fields node).map ofRecord

end OrderCreated

end OrderFlow
