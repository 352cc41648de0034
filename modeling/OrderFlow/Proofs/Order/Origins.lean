import OrderFlow.Proofs.Checkout.Finishing
import OrderFlow.Proofs.Checkout.Sales
import OrderFlow.Proofs.Order.Changes

/-!
Where orders come from. The event of a sale has passed its check, so its amounts are those of its
lines (`Finalized.priced`, `Finalized.total`), and the order that is entered for it is the order of
that sale in every field (`Sale.Tells.stems`), whatever becomes of its status.
-/
namespace OrderFlow

variable {_ : EmailCheck}

namespace CheckoutDraft.Finalized
variable {d : CheckoutDraft} {number : String} {eventId : Uuid} {now : Instant}
  {final : FinalCheckout}

theorem items (finalized : d.Finalized number eventId now final) :
    final.event.items = d.lines.map CartLine.toLineItem := by
  rw [finalized.event]
  rfl

theorem sound (finalized : d.Finalized number eventId now final) : d.IsSound number :=
  check_event_iff.mp (finalized.event ▸ finalized.checked)

/-- The amount of every line is that of its price and quantity. -/
theorem priced (finalized : d.Finalized number eventId now final) :
    ∀ l ∈ d.lines, lineTotal l.unitPrice l.quantity = some l.subtotal := by
  obtain ⟨totals, total, computed, -⟩ := finalized.sound.amounts
  exact (totals?_eq_some_iff.mp computed).1

/-- The amount of the event is the sum of the amounts of its lines. -/
theorem total (finalized : d.Finalized number eventId now final) :
    Decimal.sum (d.lines.map CartLine.subtotal) = some final.event.subtotal := by
  obtain ⟨totals, total, computed, sum⟩ := finalized.sound.amounts
  obtain ⟨-, rfl⟩ := totals?_eq_some_iff.mp computed
  rw [finalized.event, total_event sum, sum]

end CheckoutDraft.Finalized

/-- The event tells of the sale. The time at which it came about may be written differently. -/
def Sale.Tells [EmailCheck] (s : Sale) (e : OrderCreated) : Prop :=
  ∃ final, s.Becomes final ∧ e = { final.event with timestamp := e.timestamp }

/-- The order is that of the sale in every field, and its amount is the sum of the amounts of its
lines. -/
structure Order.StemsFrom (order : Order) (s : Sale) : Prop where
  id : order.id = s.draft.orderId
  number : order.number = s.outcome.response.orderNumber
  cart : order.cartId = s.draft.cartId
  correlation : order.correlationId = s.draft.correlationId
  customer : order.customer = s.draft.customer
  lines : order.lines.map (·.line) = s.draft.lines.map CartLine.toLineItem
  priced : ∀ l ∈ s.draft.lines, lineTotal l.unitPrice l.quantity = some l.subtotal
  total : Decimal.sum (s.draft.lines.map CartLine.subtotal) = some order.subtotal

/-- The order that is entered for a sale is the order of that sale. -/
theorem Sale.Tells.stems {s : Sale} {e : OrderCreated} (tells : s.Tells e) {lineIds : List Uuid}
    (enough : lineIds.length = e.items.length) (now : Instant) :
    (Order.ofEvent e lineIds now).StemsFrom s := by
  obtain ⟨final, ⟨number, eventId, finalized, outcome⟩, shape⟩ := tells
  have lines : (Order.ofEvent e lineIds now).lines.map (·.line) = e.items := by
    refine List.ext_getElem ?_ fun n _ _ => ?_
    · simp [Order.ofEvent, enough]
    · simp [Order.ofEvent]
  have items : e.items = s.draft.lines.map CartLine.toLineItem := by
    rw [shape]
    exact finalized.items
  have total : Decimal.sum (s.draft.lines.map CartLine.subtotal) = some e.subtotal := by
    rw [shape]
    exact finalized.total
  refine ⟨?_, ?_, ?_, ?_, ?_, lines.trans items, finalized.priced, total⟩
  · show e.orderId = _
    rw [shape, finalized.event]
    rfl
  · show e.orderNumber = _
    rw [← outcome, finalized.outcome, shape, finalized.event]
    rfl
  · show e.cartId = _
    rw [shape, finalized.event]
    rfl
  · show e.correlationId = _
    rw [shape, finalized.event]
    rfl
  · show e.customer = _
    rw [shape, finalized.event]
    rfl

/-- Whatever becomes of its status, an order is the order of its sale. -/
theorem Order.StemsFrom.becomes {order order' : Order} {s : Sale} (stems : order.StemsFrom s)
    (becomes : order.Becomes order') : order'.StemsFrom s := by
  rcases becomes with rfl | ⟨status, time, rfl⟩
  · exact stems
  · exact ⟨stems.id, stems.number, stems.cart, stems.correlation, stems.customer, stems.lines,
      stems.priced, stems.total⟩

end OrderFlow
