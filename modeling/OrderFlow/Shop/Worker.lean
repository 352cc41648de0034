import OrderFlow.Shop.Clock

/-!
The workers of the shop. A worker does its work, is idle for a while, and does its work again; a
publisher can be called to work earlier. When the time is up a worker stops as soon as it is idle.
-/
namespace OrderFlow.Shop
open OrderFlow Surroundings

/-- A worker of the shop. -/
inductive Worker where
  | checkoutPublisher
  | orderPublisher
  | cleanup
  | recovery
  deriving DecidableEq, Repr, Inhabited

namespace Worker

/-- Whether a worker is called to work. -/
def isCalled : Worker → Shop → Bool
  | checkoutPublisher, s => s.checkoutNotified
  | orderPublisher, s => s.ordersNotified
  | _, _ => false

/-- The call has been heard. -/
def hear : Worker → Shop → Shop
  | checkoutPublisher, s => { s with checkoutNotified := false }
  | orderPublisher, s => { s with ordersNotified := false }
  | _, s => s

/-- How long a worker is idle. -/
def interval (cfg : Config) : Worker → Span
  | checkoutPublisher | orderPublisher => cfg.outbox.pollInterval
  | cleanup => cfg.cleanupInterval
  | recovery => cfg.recovery.interval

/-- Whether a worker begins with its work rather than idle. -/
def isEager : Worker → Bool
  | recovery => false
  | _ => true

/-- Sweeps up stuck payments and shows that on the meters. Only an overflow ends the work. -/
def recoverOnce (cfg : Config) : StateM Shop (Except Failure Unit) := do
  if let .error (.shared .overflow) ← recover cfg then return .error .overflow
  meter (Meters.worker "payment_recovery" (← clock).seconds)
  return .ok ()

/-- Does the work of a worker. Only an overflow ends it. -/
def act (cfg : Config) : Worker → StateM Shop (Except Failure Unit)
  | checkoutPublisher => atCheckoutOutbox (Outbox.fullBurst cfg.outbox "checkout_outbox")
  | orderPublisher => atOrderOutbox (Outbox.fullBurst cfg.outbox "order_outbox")
  | cleanup => do
    atCheckout Checkout.cleanUp
    return .ok ()
  | recovery => recoverOnce cfg

/-- Follows a worker that is idle until `wake`, up to `stop`. -/
def idle (cfg : Config) (w : Worker) (stop : Instant) :
    Nat → Instant → StateM Shop (Except Failure Unit)
  | 0, _ => return .ok ()
  | fuel + 1, wake => do
    if stop ≤ (← clock) then return .ok ()
    let called ← waitUntil cfg w.isCalled (earlier wake stop)
    if called then modify w.hear
    else if stop ≤ wake then return .ok ()
    match ← w.act cfg with
    | .error e => return .error e
    | .ok () => idle cfg w stop fuel ((← clock).after (w.interval cfg))

/-- Runs a worker for a while. Every time it is idle uses up a call or a millisecond, and the calls
are those of the tasks that are under way. -/
def run (cfg : Config) (w : Worker) (d : Span) : StateM Shop (Except Failure Unit) := do
  let stop := (← clock).after d
  let rounds := d.millis + (← get).tasks.length + 2
  if w.isEager then
    if let .error e ← w.act cfg then return .error e
  idle cfg w stop rounds ((← clock).after (w.interval cfg))

end Worker

end OrderFlow.Shop
