import OrderFlow.Checkout.Error
import OrderFlow.Checkout.Request
import OrderFlow.Event.OrderCreated
import OrderFlow.Outbox.Row

/-!
From a cart to an order. A draft is a checkout that has not got its order number yet; `finalize`
gives it one, which yields the event, the answer and the record under which the answer is kept.
-/
namespace OrderFlow
open Json

/-- A line of a cart with its price. -/
structure CartLine where
  productId : Uuid
  sku : String
  name : String
  quantity : Int32
  unitPrice : Decimal
  deriving DecidableEq, Repr, Inhabited

namespace CartLine

/-- The amount of a line; one that is too large is left to the check of the event to refuse. -/
def subtotal (l : CartLine) : Decimal := (lineTotal l.unitPrice l.quantity).getD .greatest

/-- The line of the order. -/
def toLineItem (l : CartLine) : LineItem where
  productId := l.productId
  sku := l.sku
  name := l.name
  quantity := l.quantity
  price := l.unitPrice
  subtotal := l.subtotal

/-- The written form. -/
def toJson (l : CartLine) : Json :=
  .object [("product_id", l.productId.toJson), ("sku", .text l.sku), ("name", .text l.name),
    ("quantity", .int l.quantity.toInt), ("unit_price", l.unitPrice.toJson)]

/-- The members of the written form. -/
def fields : List Field :=
  [⟨"product_id", [], Uuid, Uuid.reader, none⟩, ⟨"sku", [], String, Node.asText, none⟩,
   ⟨"name", [], String, Node.asText, none⟩, ⟨"quantity", [], Int32, Node.asInt32, none⟩,
   ⟨"unit_price", [], Decimal, Decimal.reader, none⟩]

/-- The line of its members. -/
def ofRecord : Record fields → CartLine
  | (productId, sku, name, quantity, unitPrice, ()) => ⟨productId, sku, name, quantity, unitPrice⟩

/-- Reads the written form. -/
def reader : Reader CartLine := fun node => (Record.read fields node).map ofRecord

end CartLine

/-- An order number: the day and the number within the day, of three digits at least. The sign of a
number counts as one of them. -/
def orderNumber (day : CalendarDay) (sequence : Int) : String :=
  let digits :=
    if sequence < 0 then '-' :: Text.padded 2 sequence.natAbs else Text.padded 3 sequence.natAbs
  "ORD-" ++ String.ofList day.compact ++ "-" ++ String.ofList digits

/-- The last number of a day. -/
def lastOfDay : Int := 999

/-- Whether a day still has a number. -/
def checkSequence (day : CalendarDay) (sequence : Int) : Except CheckoutError Unit :=
  if lastOfDay < sequence then .error (.numbersExhausted (String.ofList day.text)) else .ok ()

/-- The record of a checkout under its key: the answer, until it expires. -/
structure KeyRecord where
  key : String
  fingerprint : String
  status : Int
  body : String
  createdAt : Instant
  expiresAt : Instant
  deriving DecidableEq, Repr, Inhabited

namespace KeyRecord

/-- Whether a record no longer counts. -/
def isExpired (now : Instant) (r : KeyRecord) : Bool := r.expiresAt ≤ now

/-- Whether a record still counts. -/
def isLive (now : Instant) (r : KeyRecord) : Bool := !r.isExpired now

/-- The answer that is kept. A status that is no status code counts as 201. -/
def replay (r : KeyRecord) : Except CheckoutError CheckoutOutcome :=
  match Json.decodeText CheckoutResponse.reader r.body with
  | .error e => .error (.shared (.serialization e))
  | .ok response =>
    let statusCode := if 0 ≤ r.status ∧ r.status < 2 ^ 16 then r.status.toNat else 201
    .ok { statusCode, response, replayed := true }

end KeyRecord

/-- A checkout that has not got its order number yet. -/
structure CheckoutDraft where
  key : String
  fingerprint : String
  orderId : Uuid
  correlationId : String
  cartId : Uuid
  customer : Customer
  lines : List CartLine
  /-- How long the answer is kept, in nanoseconds. -/
  keep : Int
  deriving DecidableEq, Repr, Inhabited

/-- A checkout that has become an order. -/
structure FinalCheckout where
  event : OrderCreated
  posting : Outbox.Posting
  outcome : CheckoutOutcome
  record : KeyRecord
  deriving Repr, Inhabited

namespace CheckoutDraft

/-- Whether a number fits into 32 bits. -/
def fits32 (n : Int) : Bool := -2 ^ 31 ≤ n && n < 2 ^ 31

/-- Adds a quantity to the total of a product, none if the total gets too large. -/
def addTo (product : Uuid) (quantity : Int) : List (Uuid × Int) → Option (List (Uuid × Int))
  | [] => some [(product, quantity)]
  | (p, total) :: rest =>
    if p = product then
      if fits32 (total + quantity) then some ((p, total + quantity) :: rest) else none
    else (addTo product quantity rest).map ((p, total) :: ·)

/-- How much of each product a draft takes, ordered by product; none if a running total leaves the
range of 32 bits. -/
def reservations? (d : CheckoutDraft) : Option (List (Uuid × Int)) :=
  let totals := d.lines.foldlM (fun ts l => addTo l.productId l.quantity.toInt ts) []
  totals.map fun ts => ts.mergeSort fun a b => a.1 ≤ b.1

/-- What the customer is told. -/
def notice (d : CheckoutDraft) : String := "订单已提交，确认邮件将发送至 " ++ d.customer.email

/-- The event of an order number, with a fresh identifier and the time at which it comes about. -/
def event (d : CheckoutDraft) (number : String) (eventId : Uuid) (now : Instant) : OrderCreated :=
  .new eventId now d.correlationId d.orderId number d.customer (d.lines.map CartLine.toLineItem)
    d.cartId

/-- Gives a draft its order number, at the time `storedAt`. -/
def finalize [EmailCheck] (d : CheckoutDraft) (number : String) (eventId : Uuid)
    (now storedAt : Instant) : Except CheckoutError FinalCheckout :=
  let event := d.event number eventId now
  match event.check with
  | .error e => .error (.shared (.invalid e))
  | .ok () =>
    let response : CheckoutResponse := ⟨number, d.orderId, "PENDING", d.notice⟩
    let expiresAt := storedAt.shift d.keep
    if expiresAt.inCalendar then
      .ok {
        event
        posting := .ofOrderCreated event
        outcome := { statusCode := 201, response, replayed := false }
        record := {
          key := d.key, fingerprint := d.fingerprint, status := 201, body := response.toJson.render,
          createdAt := storedAt, expiresAt } }
    else .error (.shared .overflow)

end CheckoutDraft

end OrderFlow
