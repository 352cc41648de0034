import OrderFlow.Proofs.Order.Accounts
import OrderFlow.Proofs.Payment.Moves

/-!
What the gateway is asked for. The payment of an order is over the amount of the order, however the
book changes (`OrderBook.Change.priced`), so an attempt to pay asks for what the order costs and for
nothing else (`Payment.Move.bills`).
-/
namespace OrderFlow

/-- What the gateway is to be asked for an order. -/
def Order.bill (o : Order) : ChargeRequest := ⟨o.id, o.number, o.subtotal, "USD"⟩

theorem Order.Becomes.bill {order order' : Order} (becomes : order.Becomes order') :
    order'.bill = order.bill := by
  rcases becomes with rfl | ⟨_, _, rfl⟩ <;> rfl

namespace OrderBook

/-- The request is the bill of an order in the book. -/
def Bills (b : OrderBook) (r : ChargeRequest) : Prop :=
  ∃ order, b.findOrder r.orderId = some order ∧ r = order.bill

/-- Every order is kept under its own identifier, and its payment is over its amount. -/
structure IsPriced (b : OrderBook) : Prop where
  named : ∀ x order, b.findOrder x = some order → order.id = x
  bill : ∀ x order tx, b.findOrder x = some order → b.findPayment x = some tx →
    Payment.chargeRequest order tx = order.bill

variable {now : Instant} {o? : Option PaymentOutcome} {e? : Option OrderCreated}
  {b b' : OrderBook} {r : ChargeRequest}

/-- A bill stays a bill. -/
theorem Change.bills (change : Change now o? e? b b') (bills : b.Bills r) : b'.Bills r := by
  obtain ⟨order, found, same⟩ := bills
  obtain ⟨order', found', becomes⟩ := change.order_stays found
  exact ⟨order', found', same.trans becomes.bill.symm⟩

theorem Change.priced (change : Change now o? e? b b') (priced : b.IsPriced) : b'.IsPriced := by
  refine ⟨fun x order found => ?_, fun x order tx ofOrder ofPayment => ?_⟩
  · rcases change.order_before found with ⟨order', before, becomes⟩ | ⟨_, _, _, _, _, named⟩
    · exact becomes.id.trans (priced.named x order' before)
    · exact named
  · cases change.effect with
    | stays orders payments =>
      exact priced.bill x order tx ((orders x).symm.trans ofOrder)
        ((payments x).symm.trans ofPayment)
    | creates _ _ _ created =>
      rw [created.findOrder] at ofOrder
      rw [created.findPayment] at ofPayment
      split at ofOrder
      · next same =>
        rw [if_pos same] at ofPayment
        cases ofOrder
        cases ofPayment
        rfl
      · next other =>
        rw [if_neg other] at ofPayment
        exact priced.bill x order tx ofOrder ofPayment
    | @moves _ before _ found _ _ written =>
      rw [written, findOrder_put] at ofOrder
      rw [written, findPayment_put] at ofPayment
      split at ofOrder
      · next same =>
        cases ofOrder
        exact priced.bill x before tx (same ▸ found) ofPayment
      · exact priced.bill x order tx ofOrder ofPayment
    | @settles o before tx' _ _ settled =>
      rw [settled.findOrder] at ofOrder
      rw [settled.findPayment] at ofPayment
      split at ofOrder
      · next same =>
        rw [if_pos same] at ofPayment
        cases ofOrder
        cases ofPayment
        have bill := priced.bill x before tx' (same ▸ settled.ofOrder) (same ▸ settled.ofPayment)
        have becomes := before.becomes_after o now
        have same : Payment.chargeRequest (before.after o now) tx =
            Payment.chargeRequest before tx' := by
          rw [settled.transaction]
          rcases becomes with stays | ⟨_, _, moved⟩
          · rw [stays]
            rfl
          · rw [moved]
            rfl
        rw [same, bill, becomes.bill]
      · next other =>
        rw [if_neg other] at ofPayment
        exact priced.bill x order tx ofOrder ofPayment

end OrderBook

namespace Payment
variable {cfg : Config} {d d' : OrderDesk} {p p' : Phase} {c : Charge}

/-- What an attempt asks the gateway for, if it comes to that. -/
def Phase.request? : Phase → Option ChargeRequest
  | .readingPayment _ order => some order.bill
  | .claiming order payment => some (chargeRequest order payment)
  | .asking c | .pausing c _ | .calling c .. | .hanging c _ => some c.request
  | _ => none

theorem Phase.request?_of_asks (asks : p.asks? = some c) : p.request? = some c.request := by
  cases p <;> cases asks <;> rfl

theorem Phase.request?_of_awaits (awaits : p.awaits? = some c) : p.request? = some c.request := by
  cases p <;> cases awaits <;> rfl

theorem Phase.request?_of_isFresh (fresh : p.isFresh = true) : p.request? = none := by
  cases p <;> first | rfl | cases fresh

/-- **An attempt asks for what an order in the book costs.** -/
theorem Move.bills (move : Move cfg d d' p p') (priced : d.book.IsPriced)
    (bills : ∀ r, p.request? = some r → d.book.Bills r) :
    ∀ r, p'.request? = some r → d.book.Bills r := by
  cases move with
  | quits | expires | refused | confirmed | givesUp | breaksOff | settled | waitsToSettle
  | failsToSettle | rests => exact fun r asks => nomatch asks
  | @finds purpose id order found =>
    intro r asks
    cases asks
    have named := priced.named id order found
    exact ⟨order, (congrArg d.book.findOrder named).trans found, rfl⟩
  | @prepares order payment found =>
    intro r asks
    cases asks
    obtain ⟨current, ofOrder, same⟩ := bills _ rfl
    have bill := priced.bill order.id current payment ofOrder found
    refine ⟨current, ofOrder, ?_⟩
    rw [← bill]
    have id : order.id = current.id := congrArg (·.orderId) same
    have number : order.number = current.number := congrArg (·.orderNumber) same
    rw [chargeRequest, chargeRequest, id, number]
  | claims => exact bills
  | @calls p c _ asks =>
    intro r same
    cases same
    exact bills c.request (Phase.request?_of_asks asks)
  | hangs => exact bills
  | @pauses p c _ _ awaits =>
    intro r same
    cases same
    exact bills c.request (Phase.request?_of_awaits awaits)

/-- The gateway gets no request but that of the attempt. -/
theorem Move.requests (move : Move cfg d d' p p') (plain : d.gateway.IsPlain)
    {call : Gateway.LoggedCall} (logged : call ∈ d'.gateway.calls) :
    call ∈ d.gateway.calls ∨ p.request? = some call.request := by
  rcases move.does with ⟨_, writes⟩ | ⟨c, _, asks, calls⟩
  · rw [writes.gateway] at logged
    exact .inl logged
  · have started := (plain.start c.request d.around.now).2.2
    rw [calls.started] at started
    rw [show d'.gateway.calls = _ from started] at logged
    rcases List.mem_append.mp logged with old | new
    · exact .inl old
    · rw [List.mem_singleton.mp new]
      exact .inr (Phase.request?_of_asks asks)

end Payment

end OrderFlow
