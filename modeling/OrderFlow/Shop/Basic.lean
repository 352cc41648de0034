import OrderFlow.Checkout.Service
import OrderFlow.Delivery
import OrderFlow.Outbox.Loop
import OrderFlow.Payment.Recovery

/-!
The whole shop: the checkout service and the order service on one clock, with one broker between
them, and the attempts to pay that are under way in the background. Each service has its own desk;
what is done on a desk is done in the shop (`atCheckout`, `atOrders`, and the desks of the
publishers).
-/
namespace OrderFlow

/-- How a shop works. -/
structure Shop.Config where
  /-- How long the answers to checkouts are kept, in nanoseconds. -/
  keep : Int
  cleanupInterval : Span
  outbox : Outbox.Config
  payment : Payment.Config
  recovery : Payment.Recovery
  delivery : Delivery.Config

/-- A shop. -/
structure Shop where
  around : Surroundings
  broker : Broker := {}
  ledger : Ledger := {}
  carts : Assoc Uuid (List CartLine) := []
  book : OrderBook := {}
  gateway : Gateway := .scripted [] []
  breaker : Breaker.State := .initial
  /-- Whether the publisher of each service was asked for a batch. -/
  checkoutNotified : Bool := false
  ordersNotified : Bool := false
  /-- The attempts to pay that are under way in the background, the oldest first. -/
  tasks : List Payment.Phase := []

namespace Shop

instance : Situated Shop := ⟨Shop.around, fun s around => { s with around }⟩

/-- Does something at the desk of the checkout service. -/
def atCheckout {α : Type} (f : StateM CheckoutDesk α) : StateM Shop α :=
  modifyGet fun s =>
    let (a, d) := f.run ⟨s.around, s.ledger, s.carts, s.checkoutNotified⟩
    (a, { s with
      around := d.around, ledger := d.ledger, carts := d.carts, checkoutNotified := d.notified })

/-- Does something at the desk of the order service. Dispatched payments become tasks. -/
def atOrders {α : Type} (f : StateM OrderDesk α) : StateM Shop α :=
  modifyGet fun s =>
    let (a, d) := f.run ⟨s.around, s.book, s.broker, s.gateway, s.breaker, s.ordersNotified, []⟩
    (a, { s with
      around := d.around, book := d.book, broker := d.broker, gateway := d.gateway
      breaker := d.breaker, ordersNotified := d.notified
      tasks := s.tasks ++ d.dispatched.map (.reading .charge) })

/-- Does something at the desk of the publisher of the checkout service. -/
def atCheckoutOutbox {α : Type} (f : StateM Outbox.Desk α) : StateM Shop α :=
  modifyGet fun s =>
    let (a, d) := f.run ⟨s.around, s.ledger.outbox, s.broker, s.checkoutNotified⟩
    (a, { s with
      around := d.around, ledger := { s.ledger with outbox := d.table }, broker := d.broker
      checkoutNotified := d.notified })

/-- Does something at the desk of the publisher of the order service. -/
def atOrderOutbox {α : Type} (f : StateM Outbox.Desk α) : StateM Shop α :=
  modifyGet fun s =>
    let (a, d) := f.run ⟨s.around, s.book.outbox, s.broker, s.ordersNotified⟩
    (a, { s with
      around := d.around, book := { s.book with outbox := d.table }, broker := d.broker
      ordersNotified := d.notified })

end Shop

end OrderFlow
