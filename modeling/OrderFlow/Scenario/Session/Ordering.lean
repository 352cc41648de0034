import OrderFlow.Email
import OrderFlow.Scenario.Session.Basic

/-!
The steps of a session that concern the order service.
-/
namespace OrderFlow.Scenario.Session
open OrderFlow Json Node

/-- The word for what has become of a message. -/
def handling : Delivery.Handling → Json
  | .processed => .text "Processed"
  | .duplicate => .text "Duplicate"
  | .deadLettered => .text "DeadLettered"

/-- The word for what has become of an order that was entered. -/
def creation : Creation → Json
  | .created => .text "Created"
  | .duplicate => .text "Duplicate"

/-- The order of an event that a payload holds has come up. -/
def learnFrom (octets : List UInt8) : Act Session Unit := do
  if let .ok event := decodeOctets OrderCreated.reader octets then learn event.orderId

/-- Delivers a message. -/
def newMessage : SessionStep := fun cfg x => do
  let m ← message x
  learnFrom m.payload
  answering handling (Shop.deliver cfg m)

/-- Delivers a message that the broker holds. -/
def deliver : SessionStep := fun cfg x => do
  let topic ← x.need "topic" asText
  match ((← get).shop.broker.onTopic topic)[← x.findD "index" asNat 0]? with
  | none => return .failed "NO_SUCH_MESSAGE" ""
  | some m =>
    answering handling (Shop.deliver cfg { topic, key := some m.key, payload := m.payload })

/-- Tells the gateway more of what to expect. -/
def extendScript : SessionStep := fun _ x => do
  let more ← script x
  arrangeShop fun s => { s with
    gateway := match s.gateway with
      | .scripted entries log => .scripted (entries ++ more) log
      | gateway => gateway }

/-- Shows the calls of the gateway. -/
def charges (start : Instant) : SessionStep := fun _ _ => do
  match (← get).shop.gateway with
  | .scripted _ log => return .value (.array (log.map (gatewayCall start)))
  | _ => return .value (.array [])

/-- Shows the breaker in front of the gateway. -/
def breaker : SessionStep := fun cfg _ => do
  let s := (← get).shop
  return .value (.text (Breaker.shown cfg.payment.breaker s.around.now s.breaker).name)

/-- Enters the order of an event with its payment. -/
def createOrder : SessionStep := fun _ x => do
  match decodeText OrderCreated.reader (← x.need "payload" asText) with
  | .error e => return .failed "PARSE" e.message
  | .ok event =>
    learn event.orderId
    let (order, payment) ← inShop (Shop.atOrders (Delivery.newOrder event))
    answering creation (Shop.atOrders (OrderDesk.create order payment event.eventId))

/-- Attempts a payment. -/
def attempt (purpose : Payment.Purpose) : SessionStep := fun cfg x =>
  withOrder x fun id =>
    answering (Json.optional paymentOutcome) (Shop.attempt cfg (.reading purpose id))

/-- Attempts a payment in the background. -/
def dispatch : SessionStep := fun _ x =>
  withOrder x fun id => arrangeShop fun s => { s with tasks := s.tasks ++ [.reading .charge id] }

/-- Applies an outcome that the step gives. -/
def apply : SessionStep := fun _ x =>
  withOrder x fun orderId => do
    let outcome : PaymentOutcome := {
      eventId := ← x.need "event_id" Uuid.reader
      orderId
      result := ← x.need "status" PaymentResult.reader
      externalTransactionId := ← x.find "external" asText
      failureReason := ← x.find "reason" asText
      attempts := ← x.findD "attempts" asInt 0
      publish := ← x.findD "publish" asFlag true }
    answering settlement (Shop.atOrders (OrderDesk.complete outcome))

/-- Applies the outcome that an event tells of. -/
def reconcile : SessionStep := fun _ x => do
  match decodeText PaymentCompleted.reader (← x.need "payload" asText) with
  | .error e => return .failed "PARSE" e.message
  | .ok event => answering settlement (Shop.atOrders (OrderDesk.complete (.ofEvent event)))

/-- Changes the status of an order if it is the expected one. -/
def setStatus : SessionStep := fun _ x =>
  withOrder x fun id => do
    let expected ← x.need "expected" asStatus
    let next ← x.need "next" asStatus
    answering Json.bool (Shop.atOrders (OrderDesk.swapStatus id expected next))

/-- Asks whether an event has been dealt with. -/
def isProcessed : SessionStep := fun _ x => do
  let id ← x.need "event_id" Uuid.reader
  answering Json.bool (Shop.atOrders (OrderDesk.isProcessed id))

/-- Sets an order or its payment back in time. -/
def backdate (f : OrderBook → Uuid → Instant → OrderBook) : SessionStep := fun _ x =>
  withOrder x fun id => do
    let time := (← now).shift (-(← x.need "ms" asInt) * 1000000)
    arrangeShop fun s => { s with book := f s.book id time }

/-- Looks for payments that got stuck. -/
def stuck (find : Instant → Int → StateM OrderDesk (Except OrderError (List Uuid))) : SessionStep :=
  fun _ x => do
    let cutoff := (← now).shift (-(← x.need "age_ms" asInt) * 1000000)
    let limit ← x.need "limit" asInt
    answering (fun ids => .array (ids.map Uuid.toJson)) (Shop.atOrders (find cutoff limit))

/-- Sweeps up the payments that got stuck. -/
def recover : SessionStep := fun cfg _ => answering Json.nat (Shop.recover cfg)

/-- Shows what the order service says about an order. -/
def ask {α : Type} (view : α → Json) (f : Uuid → StateM OrderDesk (Except OrderError α)) :
    SessionStep :=
  fun _ x => withOrder x fun id => answering view (Shop.atOrders (f id))

/-- Shows the order of a number. -/
def byNumber : SessionStep := fun _ x => do
  let number ← x.need "number" asText
  answering Order.toJson (Shop.atOrders (OrderService.getByNumber number))

/-- Does one batch of the publisher of the order service. -/
def publishOrders : SessionStep := fun cfg _ =>
  answering report (Shop.atOrderOutbox (Outbox.publishBatch cfg.outbox))

/-- Shows the outbox of the order service. -/
def orderOutbox : SessionStep := fun _ _ => return .value (rows (← get).shop.book.outbox)

/-- An order in short. -/
def orderView (o : Order) : Json :=
  .object [("id", o.id.toJson), ("number", .text o.number), ("status", o.status.toJson),
    ("subtotal", o.subtotal.toJson), ("items", .nat o.lines.length),
    ("createdAt", millis o.createdAt), ("updatedAt", millis o.updatedAt)]

/-- A payment in short. -/
def paymentView (p : PaymentTransaction) : Json :=
  .object [("status", .text p.status.name), ("amount", p.amount.toJson),
    ("externalTransactionId", .optional .text p.externalTransactionId),
    ("failureReason", .optional .text p.failureReason), ("attemptCount", .int p.attempts),
    ("createdAt", millis p.createdAt), ("updatedAt", millis p.updatedAt),
    ("completedAt", .optional millis p.completedAt)]

/-- Shows what the order book says about the known orders. -/
def orderState : SessionStep := fun _ _ => do
  let s ← get
  let b := s.shop.book
  let entry (id : Uuid) : Json :=
    .object [("order", .optional orderView (b.findOrder id)),
      ("payment", .optional paymentView (b.findPayment id))]
  return .value (.object [("orders", .array (s.known.map entry)),
    ("orderCount", .nat b.orders.length), ("paymentCount", .nat b.payments.length),
    ("processedCount", .nat b.processed.length)])

/-- The steps of this module. -/
def ordering (start : Instant) : List (String × SessionStep) :=
  [("message", newMessage), ("deliver", deliver), ("script", extendScript),
   ("charges", charges start), ("breaker", breaker), ("create_order", createOrder),
   ("attempt", attempt .charge),
   ("expire", attempt .expire), ("dispatch", dispatch), ("apply", apply), ("reconcile", reconcile),
   ("set_status", setStatus), ("is_processed", isProcessed),
   ("backdate_order", backdate OrderBook.backdateOrder),
   ("backdate_payment", backdate OrderBook.backdatePayment),
   ("stalled", stuck OrderDesk.findStalled), ("unsettled", stuck OrderDesk.findUnsettled),
   ("recover", recover),
   ("get_order", ask Order.toJson OrderService.getOrder),
   ("get_payment", ask PaymentTransaction.toJson OrderService.getPayment),
   ("get_by_number", byNumber), ("cancel", ask (·.status.toJson) OrderService.cancel),
   ("fulfill", ask (·.status.toJson) OrderService.fulfil), ("order_publish", publishOrders),
   ("order_outbox", orderOutbox), ("order_state", orderState)]

end OrderFlow.Scenario.Session
