import OrderFlow.Event.OrderCreated
import OrderFlow.Order.Status

/-!
Orders, as they come out of the event that a checkout has become one.
-/
namespace OrderFlow
open Json

/-- A line of an order that is on the books. -/
structure OrderLine where
  id : Uuid
  orderId : Uuid
  line : LineItem
  deriving DecidableEq, Repr, Inhabited

/-- The written form. -/
def OrderLine.toJson (l : OrderLine) : Json :=
  .object [("id", l.id.toJson), ("orderId", l.orderId.toJson),
    ("productId", l.line.productId.toJson), ("sku", .text l.line.sku), ("name", .text l.line.name),
    ("quantity", .int l.line.quantity.toInt),
    ("priceSnapshot", l.line.price.toJson), ("subtotal", l.line.subtotal.toJson)]

/-- An order. -/
structure Order where
  id : Uuid
  number : String
  status : OrderStatus
  customer : Customer
  subtotal : Decimal
  cartId : Uuid
  correlationId : String
  createdAt : Instant
  updatedAt : Instant
  lines : List OrderLine
  deriving DecidableEq, Repr, Inhabited

namespace Order

/-- The order of an event. Its lines get the identifiers `lineIds`. -/
def ofEvent (e : OrderCreated) (lineIds : List Uuid) (now : Instant) : Order where
  id := e.orderId
  number := e.orderNumber
  status := .pending
  customer := e.customer
  subtotal := e.subtotal
  cartId := e.cartId
  correlationId := e.correlationId
  createdAt := now
  updatedAt := now
  lines := lineIds.zipWith (fun id line => ⟨id, e.orderId, line⟩) e.items

/-- The order in another status, changed at `now`. -/
def withStatus (status : OrderStatus) (now : Instant) (o : Order) : Order :=
  { o with status, updatedAt := now }

/-- The written form. -/
def toJson (o : Order) : Json :=
  let address := o.customer.shippingAddress
  .object [("id", o.id.toJson), ("orderNumber", .text o.number), ("status", o.status.toJson),
    ("customerName", .text o.customer.name), ("customerEmail", .text o.customer.email),
    ("customerPhone", .text o.customer.phone), ("shippingStreet", .text address.street),
    ("shippingCity", .text address.city), ("shippingState", .text address.state),
    ("shippingPostalCode", .text address.postalCode), ("shippingCountry", .text address.country),
    ("subtotal", o.subtotal.toJson), ("cartId", o.cartId.toJson),
    ("correlationId", .text o.correlationId), ("createdAt", o.createdAt.toJson),
    ("updatedAt", o.updatedAt.toJson), ("items", .array (o.lines.map OrderLine.toJson))]

end Order

end OrderFlow
