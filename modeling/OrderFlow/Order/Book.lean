import OrderFlow.Assoc
import OrderFlow.Order.Error
import OrderFlow.Outbox.Table
import OrderFlow.Payment.Transaction

/-!
The order book: orders and their payments, the events that have been dealt with, and the outbox of
the order service. Each operation either does all of its work or leaves the book as it is.
-/
namespace OrderFlow

/-- An event that has been dealt with. -/
structure ProcessedEvent where
  kind : EventKind
  time : Instant
  deriving DecidableEq, Repr, Inhabited

/-- The order book. -/
structure OrderBook where
  orders : Assoc Uuid Order := []
  /-- The orders by number. -/
  numbers : Assoc String Uuid := []
  /-- The payments by order. -/
  payments : Assoc Uuid PaymentTransaction := []
  processed : Assoc Uuid ProcessedEvent := []
  outbox : Outbox.Table := {}
  deriving Repr, Inhabited

/-- What came of entering an order. -/
inductive Creation where
  | created
  /-- The event had been dealt with before. -/
  | duplicate
  deriving DecidableEq, Repr, Inhabited

/-- What came of applying an outcome. -/
inductive Settlement where
  | applied (status : OrderStatus) (transaction : PaymentTransaction)
  /-- The event of the outcome had been dealt with before. -/
  | duplicate
  /-- The payment was no longer pending; only the event is noted. -/
  | alreadySettled (status : PaymentStatus)
  deriving DecidableEq, Repr, Inhabited

namespace OrderBook

/-- The order of an identifier. -/
def findOrder (b : OrderBook) (id : Uuid) : Option Order := b.orders.find? id

/-- The payment of an order. -/
def findPayment (b : OrderBook) (id : Uuid) : Option PaymentTransaction := b.payments.find? id

/-- The order of a number. -/
def findByNumber (b : OrderBook) (number : String) : Option Order :=
  (b.numbers.find? number).bind b.findOrder

/-- Whether an event has been dealt with. -/
def isProcessed (b : OrderBook) (eventId : Uuid) : Bool := b.processed.has eventId

/-- Enters an order with its payment, and notes the event that it came from. -/
def create (b : OrderBook) (order : Order) (payment : PaymentTransaction) (eventId : Uuid)
    (now : Instant) : Except OrderError (Creation × OrderBook) :=
  if b.isProcessed eventId then .ok (.duplicate, b)
  else if b.orders.has order.id ∨ b.numbers.has order.number then
    .error (.shared (.internal ("订单已存在但事件未登记: order_number=" ++ order.number)))
  else
    .ok (.created, { b with
      orders := b.orders.insert order.id order
      numbers := b.numbers.insert order.number order.id
      payments := b.payments.insert order.id payment
      processed := b.processed.insert eventId ⟨.orderCreated, now⟩ })

/-- Changes the status of an order if it is the expected one; whether it was. -/
def updateStatus (b : OrderBook) (id : Uuid) (expected next : OrderStatus) (now : Instant) :
    Bool × OrderBook :=
  match b.findOrder id with
  | none => (false, b)
  | some order =>
    if order.status = expected then
      (true, { b with orders := b.orders.insert id (order.withStatus next now) })
    else (false, b)

/-- Notes that the event of an outcome has been dealt with. -/
def noteOutcome (b : OrderBook) (o : PaymentOutcome) (now : Instant) : OrderBook :=
  { b with processed := b.processed.insert o.eventId ⟨.paymentCompleted, now⟩ }

/-- The outbox after an outcome: others are told if they are to be. -/
def tell (t : Outbox.Table) (o : PaymentOutcome) (order : Order) (payment : PaymentTransaction)
    (now : Instant) : Outbox.Table :=
  if o.publish then t.insert (.ofPaymentCompleted (o.event order payment now)) now else t

/-- Applies an outcome to the payment of an order that is still pending. -/
def settle (b : OrderBook) (o : PaymentOutcome) (payment : PaymentTransaction) (order : Order)
    (now : Instant) : Except OrderError (Settlement × OrderBook) :=
  let next := order.status.afterPayment o.isSuccess
  match payment.settle? o now with
  | none => .error (.shared .overflow)
  | some settled =>
    let order := if next = order.status then order else order.withStatus next now
    .ok (.applied next settled, { (b.noteOutcome o now) with
      payments := b.payments.insert o.orderId settled
      orders := b.orders.insert o.orderId order
      outbox := tell b.outbox o order settled now })

/-- Applies an outcome. -/
def finalize (b : OrderBook) (o : PaymentOutcome) (now : Instant) :
    Except OrderError (Settlement × OrderBook) :=
  if b.isProcessed o.eventId then .ok (.duplicate, b)
  else
    match b.findPayment o.orderId with
    | none => .error (.paymentNotFound o.orderId)
    | some payment =>
      if payment.status ≠ .pending then
        .ok (.alreadySettled payment.status, b.noteOutcome o now)
      else
        match b.findOrder o.orderId with
        | none => .error (.orderNotFound o.orderId.text)
        | some order => b.settle o payment order now

/-- The first `limit` orders by age. -/
def oldest (limit : Int) (found : List (Instant × Uuid)) : List Uuid :=
  ((found.mergeSort fun a b => a.1 ≤ b.1).take limit.toNat).map (·.2)

/-- Pending orders whose payment was entered at `cutoff` or before, the oldest payments first. -/
def stalled (b : OrderBook) (cutoff : Instant) (limit : Int) : List Uuid :=
  oldest limit <| b.payments.values.filterMap fun p =>
    if p.status = .pending ∧ p.createdAt ≤ cutoff ∧
        (b.findOrder p.orderId).any (·.status = .pending) then some (p.createdAt, p.orderId)
    else none

/-- Orders in process since `cutoff` or before whose payment is pending, the oldest first. -/
def unsettled (b : OrderBook) (cutoff : Instant) (limit : Int) : List Uuid :=
  oldest limit <| b.orders.values.filterMap fun o =>
    if o.status = .processing ∧ o.updatedAt ≤ cutoff ∧
        (b.findPayment o.id).any (·.status = .pending) then some (o.updatedAt, o.id)
    else none

/-- Sets back the time at which an order was last changed. -/
def backdateOrder (b : OrderBook) (id : Uuid) (time : Instant) : OrderBook :=
  { b with orders := b.orders.modify id fun o => { o with updatedAt := time } }

/-- Sets back the time at which a payment was entered. -/
def backdatePayment (b : OrderBook) (id : Uuid) (time : Instant) : OrderBook :=
  { b with payments := b.payments.modify id fun p => { p with createdAt := time } }

end OrderBook

end OrderFlow
