import OrderFlow.Proofs.Order.Index

/-!
The life of an order. Any change of the book leaves an order as it is, or takes it one step further
as the table of steps has it, or settles it with the outcome of its payment, straight from `pending`
if it has to (`Change.steps`). An order in a final state takes no step at all. What is done for one
order spares all others (`OrderBook.Spares`).
-/
namespace OrderFlow

/-- What one change at `now` may make of an order. -/
inductive Order.Steps (now : Instant) (o? : Option PaymentOutcome) (order : Order) :
    Order → Prop where
  | stays : Steps now o? order order
  | goes {next : OrderStatus} (may : order.status.mayBecome next = true) :
      Steps now o? order (order.withStatus next now)
  /-- The order is settled while it is pending and passes through `processing` on the way. -/
  | passes {o : PaymentOutcome} (mine : o? = some o) (own : o.orderId = order.id)
      (pending : order.status = .pending) :
      Steps now o? order (order.withStatus (if o.isSuccess then .paid else .failed) now)

/-- The steps of the table, and those two that settle an order that is still pending. -/
def OrderStatus.Leads (s s' : OrderStatus) : Prop :=
  s.mayBecome s' = true ∨
    s = .pending ∧ OrderStatus.pending.mayBecome .processing = true ∧
      OrderStatus.processing.mayBecome s' = true ∧ (s' = .paid ∨ s' = .failed)

theorem OrderStatus.not_mayBecome_of_isFinal {s : OrderStatus} (final : s.isFinal = true)
    (s' : OrderStatus) : s.mayBecome s' = false := by
  cases s <;> cases s' <;> first | rfl | cases final

namespace Order.Steps
variable {now : Instant} {o? : Option PaymentOutcome} {order order' : Order}

/-- An outcome takes an order that can be settled to `paid` or `failed`, and leaves any other. -/
theorem after {o : PaymentOutcome} (mine : o? = some o) (own : o.orderId = order.id)
    (now : Instant) : order.Steps now o? (order.after o now) := by
  unfold Order.after
  dsimp only
  split
  · exact .stays
  · next changes =>
    have settles (s : OrderStatus) (before : order.status = s) :
        order.Steps now o? (order.withStatus (order.status.afterPayment o.isSuccess) now) := by
      cases s with
      | pending =>
        have next : order.status.afterPayment o.isSuccess =
            if o.isSuccess then .paid else .failed := by
          rw [before]
          cases o.isSuccess <;> rfl
        rw [next]
        exact .passes mine own before
      | processing =>
        refine .goes ?_
        rw [before]
        cases o.isSuccess <;> rfl
      | paid | fulfilled | cancelled | failed =>
        refine absurd ?_ changes
        rw [before]
        cases o.isSuccess <;> rfl
    exact settles _ rfl

/-- A status that changes is led to. -/
theorem leads (steps : order.Steps now o? order') :
    order' = order ∨ order.status.Leads order'.status := by
  cases steps with
  | stays => exact .inl rfl
  | goes may => exact .inr (.inl may)
  | @passes o _ _ pending =>
    refine .inr (.inr ⟨pending, rfl, ?_⟩)
    simp only [Order.withStatus]
    split
    · exact ⟨rfl, .inl rfl⟩
    · exact ⟨rfl, .inr rfl⟩

/-- **An order in a final state stays as it is.** -/
theorem of_isFinal (steps : order.Steps now o? order') (final : order.status.isFinal = true) :
    order' = order := by
  cases steps with
  | stays => rfl
  | goes may =>
    rw [OrderStatus.not_mayBecome_of_isFinal final] at may
    cases may
  | passes _ _ pending =>
    rw [pending] at final
    cases final

end Order.Steps

namespace OrderBook
variable {now : Instant} {o? : Option PaymentOutcome} {e? : Option OrderCreated}
  {b b' b'' : OrderBook} {x : Uuid}

/-- **A change takes an order one step further at most.** -/
theorem Change.steps (change : Change now o? e? b b') (indexed : b.IsIndexed) {order order' : Order}
    (before : b.findOrder x = some order) (after : b'.findOrder x = some order') :
    order.Steps now o? order' := by
  have stays (same : b.findOrder x = some order') : order.Steps now o? order' := by
    cases before.symm.trans same
    exact .stays
  cases change.effect with
  | stays orders => exact stays ((orders x).symm.trans after)
  | creates _ _ _ created =>
    rw [created.findOrder] at after
    split at after
    · next same =>
      rw [← same, created.newOrder] at before
      cases before
    · exact stays after
  | moves found may _ written =>
    rw [written, findOrder_put] at after
    split at after
    · next same =>
      rw [same, before] at found
      cases found
      cases after
      exact .goes may
    · exact stays after
  | settles mine settled =>
    rw [settled.findOrder] at after
    split at after
    · next same =>
      have found := settled.ofOrder
      rw [same, before] at found
      cases found
      cases after
      exact .after mine (same.trans (indexed.ofOrder x order before).symm) now
    · exact stays after

/-- No change touches an order in a final state. -/
theorem Change.final_stays (change : Change now o? e? b b') (indexed : b.IsIndexed) {order : Order}
    (found : b.findOrder x = some order) (final : order.status.isFinal = true) :
    b'.findOrder x = some order := by
  obtain ⟨order', after, -⟩ := change.order_stays found
  exact (change.steps indexed found after).of_isFinal final ▸ after

/-- An order that a change has brought into the book is pending. -/
theorem Change.begins (change : Change now o? e? b b') {order : Order}
    (before : b.findOrder x = none) (after : b'.findOrder x = some order) :
    order.status = .pending := by
  rcases change.order_before after with ⟨_, found, _⟩ | ⟨_, _, _, _, rfl, _⟩
  · rw [before] at found
    cases found
  · rfl

/-! ## What is left alone -/

/-- The order `x` and its payment are what they were. -/
structure Spares (b b' : OrderBook) (x : Uuid) : Prop where
  order : b'.findOrder x = b.findOrder x
  payment : b'.findPayment x = b.findPayment x

theorem Spares.refl (b : OrderBook) (x : Uuid) : b.Spares b x := ⟨rfl, rfl⟩

theorem Spares.symm (spared : b.Spares b' x) : b'.Spares b x :=
  ⟨spared.order.symm, spared.payment.symm⟩

theorem Spares.trans {b'' : OrderBook} (first : b.Spares b' x) (second : b'.Spares b'' x) :
    b.Spares b'' x :=
  ⟨second.order.trans first.order, second.payment.trans first.payment⟩

theorem spares_put {id : Uuid} (other : id ≠ x) (order : Order) : b.Spares (b.put id order) x :=
  ⟨by rw [findOrder_put, if_neg other], rfl⟩

theorem spares_create {order : Order} {payment : PaymentTransaction} {eventId : Uuid}
    (entered : b.create order payment eventId now = .ok (.created, b')) (other : order.id ≠ x) :
    b.Spares b' x := by
  have created := create_created entered
  exact ⟨by rw [created.findOrder, if_neg other], by rw [created.findPayment, if_neg other]⟩

theorem spares_finalize {o : PaymentOutcome} {s : Settlement}
    (applied : b.finalize o now = .ok (s, b')) (other : o.orderId ≠ x) : b.Spares b' x := by
  rcases finalize_cases applied with ⟨order, tx, tx', settled⟩ | rfl | ⟨_, _, _, rfl⟩
  · exact ⟨by rw [settled.findOrder, if_neg other], by rw [settled.findPayment, if_neg other]⟩
  · exact .refl _ x
  · exact ⟨rfl, rfl⟩

end OrderBook

end OrderFlow
