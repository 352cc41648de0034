import OrderFlow.Breaker.Metered
import OrderFlow.Payment.Gateway

/-!
What the order service works on, and the calls of its store. Every call may meet a mishap, and does
its work at one point in time.
-/
namespace OrderFlow
open Surroundings

/-- What the order service works on. -/
structure OrderDesk where
  around : Surroundings
  book : OrderBook := {}
  broker : Broker := {}
  gateway : Gateway := .scripted [] []
  breaker : Breaker.State := .initial
  /-- Whether the publisher of the outbox was asked for a batch. -/
  notified : Bool := false
  /-- The orders whose payment is to be attempted in the background, the first one first. -/
  dispatched : List Uuid := []

instance : Situated OrderDesk := ⟨OrderDesk.around, fun d around => { d with around }⟩

namespace OrderDesk

/-- Reads the book. A mishap may hide what would be found. -/
def look {α : Type} (call : StoreCall) (hidden : Option α) (f : OrderBook → α) :
    StateM OrderDesk (Except OrderError α) := do
  match ← mishap call, hidden with
  | .fails e, _ => return .error (.shared e)
  | .hides, some a => return .ok a
  | _, _ => return .ok (f (← get).book)

/-- Looks for an order. -/
def findOrder (id : Uuid) :
    StateM OrderDesk (Except OrderError (Option Order)) :=
  look .findOrder none (·.findOrder id)

/-- Looks for an order by its number. -/
def findByNumber (number : String) : StateM OrderDesk (Except OrderError (Option Order)) :=
  look .findOrderByNumber none (·.findByNumber number)

/-- Looks for the payment of an order. -/
def findPayment (id : Uuid) : StateM OrderDesk (Except OrderError (Option PaymentTransaction)) :=
  look .findPayment (some none) (·.findPayment id)

/-- Whether an event has been dealt with. -/
def isProcessed (eventId : Uuid) :
    StateM OrderDesk (Except OrderError Bool) :=
  look .isProcessed (some false) (·.isProcessed eventId)

/-- Looks for payments that were never attempted. -/
def findStalled (cutoff : Instant) (limit : Int) :
    StateM OrderDesk (Except OrderError (List Uuid)) :=
  look .findStalled none (·.stalled cutoff limit)

/-- Looks for payments whose attempt was never settled. -/
def findUnsettled (cutoff : Instant) (limit : Int) :
    StateM OrderDesk (Except OrderError (List Uuid)) :=
  look .findUnsettled none (·.unsettled cutoff limit)

/-- Whether the store answers. -/
def health : StateM OrderDesk (Except OrderError Unit) := look .ordersHealth none fun _ => ()

/-- Changes the book. -/
def write {α : Type} (f : OrderBook → Instant → Except OrderError (α × OrderBook)) :
    StateM OrderDesk (Except OrderError α) := do
  match f (← get).book (← clock) with
  | .error e => return .error e
  | .ok (a, book) =>
    modify fun d => { d with book }
    return .ok a

/-- Changes the status of an order if it is the expected one; whether it was. -/
def swapStatus (id : Uuid) (expected next : OrderStatus) :
    StateM OrderDesk (Except OrderError Bool) := do
  match ← mishap .updateStatus with
  | .fails e => return .error (.shared e)
  | .loses => return .ok false
  | _ => write fun b now => .ok (b.updateStatus id expected next now)

/-- Enters an order with its payment. -/
def create (order : Order) (payment : PaymentTransaction) (eventId : Uuid) :
    StateM OrderDesk (Except OrderError Creation) := do
  match ← failure? .createOrder with
  | some e => return .error (.shared e)
  | none => write fun b now => b.create order payment eventId now

/-- Applies an outcome. A mishap may follow when all is done. -/
def finalize (o : PaymentOutcome) : StateM OrderDesk (Except OrderError Settlement) := do
  match ← mishap .finalizePayment with
  | .fails e => return .error (.shared e)
  | .failsAfterwards e =>
    match ← write fun b now => b.finalize o now with
    | .error e => return .error e
    | .ok _ => return .error (.shared e)
  | _ => write fun b now => b.finalize o now

/-- Applies an outcome and lets others know: the meters, and the publisher of the outbox if there is
something for it to send. -/
def complete (o : PaymentOutcome) : StateM OrderDesk (Except OrderError Settlement) := do
  let answer ← finalize o
  if let .ok (.applied _ transaction) := answer then
    meter (Meters.payment transaction.status.name)
    if o.publish then modify fun d => { d with notified := true }
  return answer

end OrderDesk

end OrderFlow
