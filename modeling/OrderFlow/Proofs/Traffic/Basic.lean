import OrderFlow.Order.Service
import OrderFlow.Proofs.Payment.Moves
import OrderFlow.Shop.Basic

/-!
Traffic in the shop: any number of checkouts, publishers, deliveries, attempts to pay, recovery
sweeps and changes of orders, all under way at once. One event lets one of them do one thing that
nothing can interrupt, or sets something new going, or breaks something off, or changes the weather:
the clock, the mishaps, the broker, the breaker, and how the gateway is going to behave. What comes
in which order is anybody's choice, so a run is any list of events.

Everything that was done is remembered in the past, with the shop before and after it.
-/
namespace OrderFlow

/-- The two services. -/
inductive Side where
  | checkout
  | orders
  deriving DecidableEq, Repr, Inhabited

/-- What customers and clerks want to become of an order. -/
inductive Wish where
  | cancel
  | fulfil
  deriving DecidableEq, Repr, Inhabited

/-- The status that an order gets where a wish is granted. -/
def Wish.target : Wish → OrderStatus
  | cancel => .cancelled
  | fulfil => .fulfilled

/-- Something that is under way in the shop. -/
inductive Doing where
  | checkout (key : String) (request : CheckoutRequest) (phase : Checkout.Phase)
  /-- Drops the records that no longer count. -/
  | cleaning
  | batch (side : Side) (batch : Outbox.Batch)
  | delivery (message : Message) (phase : Delivery.Phase)
  | attempt (phase : Payment.Phase)
  | sweep (sweep : Payment.Sweep)
  | change (order : Uuid) (wish : Wish) (phase : OrderService.Phase)
  /-- Applies an outcome that may come from anywhere. -/
  | applying (outcome : PaymentOutcome)
  | gone
  deriving Inhabited

namespace Doing

/-- The point in time that something has to wait for. -/
def until? : Doing → Option Instant
  | delivery _ phase => phase.until?
  | attempt phase => phase.until?
  | sweep s => s.until?
  | _ => none

/-- Whether something need not wait any more. -/
def isReady (now : Instant) (d : Doing) : Bool := d.until?.all (· ≤ now)

/-- Does the one next thing. -/
def step [EmailCheck] (cfg : Shop.Config) : Doing → StateM Shop Doing
  | checkout key request phase =>
    return checkout key request (← Shop.atCheckout (phase.step cfg.keep))
  | cleaning => do
    let _ ← Shop.atCheckout Checkout.sweep
    return gone
  | batch .checkout b => return batch .checkout (← Shop.atCheckoutOutbox (b.step cfg.outbox))
  | batch .orders b => return batch .orders (← Shop.atOrderOutbox (b.step cfg.outbox))
  | delivery message phase =>
    return delivery message (← Shop.atOrders (phase.step cfg.delivery message))
  | attempt phase => return attempt (← Shop.atOrders (phase.step cfg.payment))
  | sweep s => return sweep (← Shop.atOrders (s.step cfg.payment cfg.recovery))
  | change order wish phase =>
    return change order wish (← Shop.atOrders (phase.step order wish.target))
  | applying outcome => do
    let _ ← Shop.atOrders (OrderDesk.finalize outcome)
    return gone
  | gone => return gone

/-- The attempt to pay that is being made. -/
def attempt? : Doing → Option Payment.Phase
  | attempt phase => some phase
  | sweep s => s.attempt?
  | _ => none

end Doing

/-- What can be set going. -/
inductive Call where
  | checkOut (key : String) (request : CheckoutRequest)
  | cleanUp
  | publish (side : Side)
  | deliver (message : Message)
  | attempt (purpose : Payment.Purpose) (order : Uuid)
  | recover
  | change (order : Uuid) (wish : Wish)
  | apply (outcome : PaymentOutcome)
  deriving Inhabited

/-- What a call begins with. -/
def Call.doing [EmailCheck] : Call → Doing
  | checkOut key request => .checkout key request (Checkout.begin key request)
  | cleanUp => .cleaning
  | publish side => .batch side .claiming
  | deliver message => .delivery message .reading
  | attempt purpose order => .attempt (.reading purpose order)
  | recover => .sweep .seekingStalled
  | change order wish => .change order wish .reading
  | apply outcome => .applying outcome

/-- What the shop has no power over. -/
structure Weather where
  now : Instant
  draws : Nat → Draw := fun _ => .half
  mishaps : List (StoreCall × Mishap) := []
  carts : Assoc Uuid (List CartLine) := []
  brokerAvailable : Bool := true
  refusals : Nat := 0
  breaker : Breaker.State := .initial
  /-- How long the next calls of the gateway take, and how they end. -/
  calls : List (Span × Gateway.Ending) := []

/-- The shop in a weather. -/
def Weather.over (w : Weather) (s : Shop) : Shop :=
  { s with
    around := { s.around with now := w.now, draws := w.draws, mishaps := w.mishaps }
    carts := w.carts
    broker := { s.broker with available := w.brokerAvailable, refusals := w.refusals }
    breaker := w.breaker
    gateway := .scripted (w.calls.map fun c => { delay := c.1, ending := c.2 }) s.gateway.calls }

/-- Something that was done. -/
structure Happening where
  /-- Whose step it was. -/
  doer : Nat
  /-- The attempt to pay that it belongs to, named after where in the past the attempt began. What
  belongs to no attempt is named after itself. -/
  run : Nat
  before : Doing
  after : Doing
  earlier : Shop
  later : Shop

/-- The shop, what is under way in it, and what was done. -/
structure Traffic where
  shop : Shop
  doings : List Doing := []
  past : List Happening := []

/-- What can happen. -/
inductive Event where
  | call (call : Call)
  /-- Lets a doing do its next thing, if it need not wait. -/
  | advance (doer : Nat)
  /-- Breaks a doing off. -/
  | abandon (doer : Nat)
  | change (weather : Weather)

namespace Traffic

/-- What a doer has done, the first thing first. -/
def doneBy (t : Traffic) (doer : Nat) : List Happening := t.past.filter (·.doer = doer)

/-- The attempt to which the next thing that a doing does belongs. -/
def runOf (t : Traffic) (doer : Nat) (d : Doing) : Nat :=
  match d.attempt?, (t.doneBy doer).getLast? with
  | some p, some last => if p.isFresh then t.past.length else last.run
  | _, _ => t.past.length

/-- A doing does its next thing. Attempts that it dispatches are set going. -/
def act [EmailCheck] (cfg : Shop.Config) (t : Traffic) (doer : Nat) (d : Doing) : Traffic :=
  let (d', later) := (d.step cfg).run t.shop
  { shop := { later with tasks := [] }
    doings := t.doings.set doer d' ++ later.tasks.map .attempt
    past := t.past ++ [⟨doer, t.runOf doer d, d, d', t.shop, later⟩] }

/-- What an event does. -/
def step [EmailCheck] (cfg : Shop.Config) (t : Traffic) : Event → Traffic
  | .call c => { t with doings := t.doings ++ [c.doing] }
  | .advance doer =>
    match t.doings[doer]? with
    | none => t
    | some d => if d.isReady t.shop.around.now then t.act cfg doer d else t
  | .abandon doer => { t with doings := t.doings.set doer .gone }
  | .change weather => { t with shop := weather.over t.shop }

/-- A run. -/
def run [EmailCheck] (cfg : Shop.Config) (t : Traffic) (events : List Event) : Traffic :=
  events.foldl (step cfg) t

/-- A shop in which nothing was done yet. -/
def opening (around : Surroundings) (stock : Assoc Uuid Int)
    (sequences : Assoc CalendarDay Int) : Traffic where
  shop := { around, ledger := { stock, sequences } }

end Traffic

end OrderFlow
