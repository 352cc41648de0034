import OrderFlow.Email
import OrderFlow.Scenario.Session.Basic

/-!
The steps of a session that everybody can see: time, the broker, requests over HTTP, and the
checkout service.
-/
namespace OrderFlow.Scenario.Session
open OrderFlow Json Node

/-- Lets time pass. -/
def wait : SessionStep := fun cfg x => do
  let d ← x.need "ms" asSpan
  inShop (Shop.sleep cfg d)
  return .done

/-- Takes the broker away or brings it back, or lets it refuse messages. -/
def setBroker : SessionStep := fun _ x => do
  let broker ← brokerStep x (← get).shop.broker
  arrangeShop fun s => { s with broker }

/-- Shows the messages that the broker holds. -/
def messages : SessionStep := fun _ _ => return .value (.array ((← get).shop.broker.log.map sent))

/-- Takes all messages out of the broker. -/
def drain : SessionStep := fun _ _ => do
  let count := (← get).shop.broker.log.length
  let _ ← arrangeShop fun s => { s with broker := { s.broker with log := [] } }
  return .value (.nat count)

/-- Arranges mishaps. -/
def fault : SessionStep := fun _ x => do
  let more ← newMishaps x
  inShop (arrange more)
  return .done

/-- A target in which places of known orders have become their identifiers. -/
def target (known : List Uuid) (s : String) : String :=
  let part (p : String) : String :=
    if p.startsWith "$" then ((named? known p).map Uuid.text).getD p else p
  String.intercalate "/" ((s.splitOn "/").map part)

/-- The order that an answer over HTTP names. -/
def answeredOrder? (r : Http.Response) : Option Uuid :=
  match (parsed r.body).member? "orderId" with
  | some (.text id) => Uuid.parse? id.toList
  | _ => none

/-- Sends a request over HTTP to one of the services. -/
def http : SessionStep := fun cfg x => do
  let r ← newRequest x
  let r := { r with target := target (← get).known r.target }
  let answer ← match ← x.findD "app" asText "" with
    | "orders" => inShop (Shop.atOrders (Http.serve OrderService.site r))
    | _ => inShop (Shop.atCheckout (Http.serve (Checkout.site cfg.keep) r))
  if let some id := answeredOrder? answer then learn id
  return .value (response answer)

/-- Asks both services whether they are up. -/
def health : SessionStep := fun _ _ => do
  let checkout ← inShop (Shop.atCheckout Checkout.health)
  let orders ← inShop (Shop.atOrders OrderDesk.health)
  return .value (.object [("checkout", (Answer.of (fun () => .null) checkout).toJson),
    ("orders", (Answer.of (fun () => .null) orders).toJson)])

/-- Puts a product on stock. -/
def stock : SessionStep := fun _ x => do
  let product ← x.need "product" Uuid.reader
  let quantity ← x.need "quantity" asInt
  arrangeShop fun s => { s with
    ledger := { s.ledger with stock := s.ledger.stock.insert product quantity } }

/-- Fills a cart. -/
def cart : SessionStep := fun _ x => do
  let id ← x.need "cart" Uuid.reader
  let lines ← x.need "items" (asList CartLine.reader)
  arrangeShop fun s => { s with carts := s.carts.insert id lines }

/-- Sets the last order number of a day. -/
def sequence : SessionStep := fun _ x => do
  let value ← x.need "value" asInt
  let day ← x.findD "date" (asWritten fun cs => CalendarDay.parse? (String.ofList cs)) (← now).day
  arrangeShop fun s => { s with
    ledger := { s.ledger with sequences := s.ledger.sequences.insert day value } }

/-- Enters the record of a key. -/
def keyRecord : SessionStep := fun _ x => do
  let createdAt ← now
  let r : KeyRecord := {
    key := ← x.need "key" asText
    fingerprint := ← x.need "fingerprint" asText
    status := ← x.findD "status" asInt 201
    body := ← x.need "body" asText
    createdAt
    expiresAt := createdAt.shift ((← x.need "expires_in_ms" asInt) * 1000000) }
  arrangeShop fun s => { s with
    ledger := { s.ledger with records := s.ledger.records.insert r.key r } }

/-- Checks out. -/
def checkout : SessionStep := fun cfg x => do
  let key ← x.need "key" asText
  match decodeText CheckoutRequest.reader (← x.need "body" asText) with
  | .error e => return .failed "PARSE" e.message
  | .ok request =>
    let result ← inShop (Shop.atCheckout (Checkout.call cfg.keep key request))
    if let .ok outcome := result then learn outcome.response.orderId
    return .of checkoutOutcome result

/-- Drops the records that no longer count. -/
def sweep : SessionStep := fun _ _ => answering Json.nat (Shop.atCheckout Checkout.sweep)

/-- Does one batch of the publisher of the checkout service. -/
def publishCheckouts : SessionStep := fun cfg _ =>
  answering report (Shop.atCheckoutOutbox (Outbox.publishBatch cfg.outbox))

/-- Makes every event in the outbox of the checkout service due. -/
def checkoutsDue : SessionStep := fun _ _ =>
  arrangeShop fun s => { s with
    ledger := { s.ledger with outbox := s.ledger.outbox.makeAllDue s.around.now } }

/-- Runs a worker for a while. -/
def runWorker (w : Shop.Worker) : SessionStep := fun cfg x => do
  let d ← x.need "ms" asSpan
  answering (fun () => .null) (w.run cfg d)

/-- Shows the ledger. -/
def checkoutState : SessionStep := fun _ _ => do
  let l := (← get).shop.ledger
  let stock := l.stock.mergeSort fun a b => a.1 ≤ b.1
  return .value (.object [("stock", .array (stock.map fun p => .array [p.1.toJson, .int p.2])),
    ("records", .nat l.records.length), ("outbox", rows l.outbox)])

/-- The steps of this module. -/
def shopping : List (String × SessionStep) :=
  [("wait", wait), ("broker", setBroker), ("fail_next", setBroker), ("messages", messages),
   ("drain", drain), ("fault", fault), ("http", http), ("health", health), ("stock", stock),
   ("cart", cart), ("sequence", sequence), ("record", keyRecord), ("checkout", checkout),
   ("sweep", sweep), ("checkout_publish", publishCheckouts), ("checkout_due", checkoutsDue),
   ("run_cleanup", runWorker .cleanup), ("run_checkout_publisher", runWorker .checkoutPublisher),
   ("checkout_state", checkoutState)]

end OrderFlow.Scenario.Session
