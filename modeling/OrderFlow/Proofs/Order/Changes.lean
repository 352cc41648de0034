import OrderFlow.Order.Book
import OrderFlow.Proofs.Order.Calls
import OrderFlow.Proofs.Outbox.Moves

/-!
How the order book changes. Whatever the services do, the book changes in one of four ways
(`Change`): rows of its outbox are worked on, an order is entered, an order takes a step that no
payment is needed for, or an outcome is applied; `Change.effect` says what becomes of the orders and
the payments then. What never changes is read off from it: an order keeps everything but its status
(`Change.order_stays`), leaves `pending` for good (`Change.leaves_pending`), and a payment that is
settled keeps everything (`Change.settled_stays`).
-/
namespace OrderFlow

/-- The order after an outcome of its payment. One that can no longer be settled stays as it is. -/
def Order.after (order : Order) (o : PaymentOutcome) (now : Instant) : Order :=
  let next := order.status.afterPayment o.isSuccess
  if next = order.status then order else order.withStatus next now

/-- The order `order'` is the order `order`, but perhaps for its status. -/
def Order.Becomes (order order' : Order) : Prop :=
  order' = order ∨ ∃ status time, order' = order.withStatus status time

theorem Order.becomes_after (order : Order) (o : PaymentOutcome) (now : Instant) :
    order.Becomes (order.after o now) := by
  unfold Order.after
  dsimp only
  split
  · exact .inl rfl
  · exact .inr ⟨_, now, rfl⟩

theorem Order.after_status (order : Order) (o : PaymentOutcome) (now : Instant) :
    (order.after o now).status = order.status.afterPayment o.isSuccess := by
  unfold Order.after
  dsimp only
  split
  · next stays => exact stays.symm
  · rfl

theorem OrderStatus.mayBecome_pending (s : OrderStatus) : s.mayBecome .pending = false := by
  cases s <;> rfl

theorem OrderStatus.afterPayment_ne_pending (s : OrderStatus) (succeeded : Bool) :
    s.afterPayment succeeded ≠ .pending := by
  cases s <;> cases succeeded <;> decide

namespace OrderBook

/-- The book `b'` may come about from `b` at `now`; `o?` is the outcome that is there to be
applied, and `e?` is the event whose order is there to be entered. -/
inductive Change (now : Instant) (o? : Option PaymentOutcome) (e? : Option OrderCreated)
    (b : OrderBook) : OrderBook → Prop where
  | posts {t : Outbox.Table} (same : t.postings = b.outbox.postings) :
      Change now o? e? b { b with outbox := t }
  | creates {event : OrderCreated} {order : Order} {lineIds : List Uuid} {id : Uuid}
      {b' : OrderBook} (mine : e? = some event) (enough : lineIds.length = event.items.length)
      (shape : order = .ofEvent event lineIds now)
      (entered : b.create order (.pendingFor order id now) event.eventId now =
        .ok (.created, b')) : Change now o? e? b b'
  | moves {id : Uuid} {order : Order} {next : OrderStatus} (found : b.findOrder id = some order)
      (may : order.status.mayBecome next = true) (unpaid : next ≠ .paid ∧ next ≠ .failed) :
      Change now o? e? b (b.put id (order.withStatus next now))
  | applies {o : PaymentOutcome} {s : Settlement} {b' : OrderBook} (mine : o? = some o)
      (applied : b.finalize o now = .ok (s, b')) : Change now o? e? b b'

variable {now : Instant} {o? : Option PaymentOutcome} {e? : Option OrderCreated}
  {b b' : OrderBook} {x : Uuid}

theorem Change.refl (now : Instant) (o? : Option PaymentOutcome) (e? : Option OrderCreated)
    (b : OrderBook) : Change now o? e? b b :=
  .posts rfl

/-- An order that was entered is new, and so is its number. -/
structure Created (b b' : OrderBook) (order : Order) (payment : PaymentTransaction)
    (eventId : Uuid) (now : Instant) : Prop where
  unknown : b.isProcessed eventId = false
  newOrder : b.findOrder order.id = none
  newNumber : b.numbers.find? order.number = none
  entered : b' = { b with
    orders := b.orders.insert order.id order
    numbers := b.numbers.insert order.number order.id
    payments := b.payments.insert order.id payment
    processed := b.processed.insert eventId ⟨.orderCreated, now⟩ }

theorem create_created {order : Order} {payment : PaymentTransaction} {eventId : Uuid}
    (entered : b.create order payment eventId now = .ok (.created, b')) :
    Created b b' order payment eventId now := by
  unfold create at entered
  split at entered
  · cases entered
  · next unknown =>
    split at entered
    · cases entered
    · next new =>
      cases entered
      simp only [not_or, Assoc.has, Bool.not_eq_true, Option.isSome_eq_false_iff,
        Option.isNone_iff_eq_none] at new
      exact ⟨by simpa using unknown, new.1, new.2, rfl⟩

/-- The outcome `o` settles the payment `tx` of the order `order`. -/
structure Settled (b b' : OrderBook) (o : PaymentOutcome) (now : Instant) (order : Order)
    (tx tx' : PaymentTransaction) : Prop where
  ofPayment : b.findPayment o.orderId = some tx
  pending : tx.status = .pending
  ofOrder : b.findOrder o.orderId = some order
  settles : tx.settle? o now = some tx'
  written : b' = { (b.noteOutcome o now) with
    payments := b.payments.insert o.orderId tx'
    orders := b.orders.insert o.orderId (order.after o now)
    outbox := tell b.outbox o (order.after o now) tx' now }

/-- An outcome settles a payment that is pending. Otherwise at most its event is noted. -/
theorem finalize_cases {o : PaymentOutcome} {s : Settlement}
    (applied : b.finalize o now = .ok (s, b')) :
    (∃ order tx tx', Settled b b' o now order tx tx') ∨ b' = b ∨
      ∃ tx, b.findPayment o.orderId = some tx ∧ tx.status ≠ .pending ∧
        b' = b.noteOutcome o now := by
  unfold finalize at applied
  split at applied
  · cases applied
    exact .inr (.inl rfl)
  · split at applied
    · cases applied
    · next tx payment =>
      split at applied
      · next settled =>
        cases applied
        exact .inr (.inr ⟨tx, payment, settled, rfl⟩)
      · next waits =>
        split at applied
        · cases applied
        · next order found =>
          unfold settle at applied
          split at applied
          · cases applied
          · next tx' settles =>
            cases applied
            exact .inl ⟨order, tx, tx', payment, by simpa using waits, found, settles, rfl⟩

/-! ## What is found afterwards -/

@[simp] theorem findOrder_put (id : Uuid) (order : Order) :
    (b.put id order).findOrder x = if id = x then some order else b.findOrder x :=
  Assoc.find?_insert ..

@[simp] theorem findPayment_put (id : Uuid) (order : Order) :
    (b.put id order).findPayment x = b.findPayment x :=
  rfl

namespace Created
variable {order : Order} {payment : PaymentTransaction} {eventId : Uuid}

theorem findOrder (created : Created b b' order payment eventId now) (x : Uuid) :
    b'.findOrder x = if order.id = x then some order else b.findOrder x := by
  rw [created.entered]
  exact Assoc.find?_insert ..

theorem findPayment (created : Created b b' order payment eventId now) (x : Uuid) :
    b'.findPayment x = if order.id = x then some payment else b.findPayment x := by
  rw [created.entered]
  exact Assoc.find?_insert ..

end Created

namespace Settled
variable {o : PaymentOutcome} {order : Order} {tx tx' : PaymentTransaction}

theorem findPayment (settled : Settled b b' o now order tx tx') (x : Uuid) :
    b'.findPayment x = if o.orderId = x then some tx' else b.findPayment x := by
  rw [settled.written]
  exact Assoc.find?_insert ..

theorem findOrder (settled : Settled b b' o now order tx tx') (x : Uuid) :
    b'.findOrder x = if o.orderId = x then some (order.after o now) else b.findOrder x := by
  rw [settled.written]
  exact Assoc.find?_insert ..

theorem transaction (settled : Settled b b' o now order tx tx') :
    tx' = { tx with
      status := .ofResult o.result, externalTransactionId := o.externalTransactionId
      failureReason := o.failureReason, attempts := tx.attempts + o.attempts
      updatedAt := now, completedAt := some now } := by
  have settles := settled.settles
  unfold PaymentTransaction.settle? at settles
  dsimp only at settles
  split at settles
  · exact (Option.some.inj settles).symm
  · cases settles

theorem not_pending (settled : Settled b b' o now order tx tx') : tx'.status ≠ .pending := by
  rw [settled.transaction]
  cases o.result <;> exact nofun

end Settled

/-! ## What never changes -/

/-- What a change does to the orders, the payments and the postings: nothing, or one of three things
to one order. -/
inductive Effect (now : Instant) (o? : Option PaymentOutcome) (e? : Option OrderCreated)
    (b b' : OrderBook) : Prop where
  | stays (orders : ∀ x, b'.findOrder x = b.findOrder x)
      (payments : ∀ x, b'.findPayment x = b.findPayment x)
      (postings : b'.outbox.postings = b.outbox.postings)
  | creates {event : OrderCreated} {order : Order} {lineIds : List Uuid} {id : Uuid}
      (mine : e? = some event) (enough : lineIds.length = event.items.length)
      (shape : order = .ofEvent event lineIds now)
      (created : Created b b' order (.pendingFor order id now) event.eventId now)
  | moves {id : Uuid} {order : Order} {next : OrderStatus} (found : b.findOrder id = some order)
      (may : order.status.mayBecome next = true) (unpaid : next ≠ .paid ∧ next ≠ .failed)
      (written : b' = b.put id (order.withStatus next now))
  | settles {o : PaymentOutcome} {order : Order} {tx tx' : PaymentTransaction}
      (mine : o? = some o) (settled : Settled b b' o now order tx tx')

theorem Change.effect (change : Change now o? e? b b') : Effect now o? e? b b' := by
  cases change with
  | posts same => exact .stays (fun _ => rfl) (fun _ => rfl) same
  | creates mine enough shape entered => exact .creates mine enough shape (create_created entered)
  | moves found may unpaid => exact .moves found may unpaid rfl
  | applies mine applied =>
    rcases finalize_cases applied with ⟨order, tx, tx', settled⟩ | rfl | ⟨_, _, _, rfl⟩
    · exact .settles mine settled
    · exact .stays (fun _ => rfl) (fun _ => rfl) rfl
    · exact .stays (fun _ => rfl) (fun _ => rfl) rfl

/-- An order keeps everything but its status. -/
theorem Change.order_stays (change : Change now o? e? b b') {order : Order}
    (found : b.findOrder x = some order) :
    ∃ order', b'.findOrder x = some order' ∧ order.Becomes order' := by
  cases change.effect with
  | stays orders => exact ⟨order, (orders x).trans found, .inl rfl⟩
  | creates _ _ _ created =>
    rw [created.findOrder]
    split
    · next same =>
      rw [← same, created.newOrder] at found
      cases found
    · exact ⟨order, found, .inl rfl⟩
  | moves found' _ _ written =>
    rw [written, findOrder_put]
    split
    · next same =>
      rw [← same, found'] at found
      cases found
      exact ⟨_, rfl, .inr ⟨_, now, rfl⟩⟩
    · exact ⟨order, found, .inl rfl⟩
  | @settles o _ _ _ _ settled =>
    rw [settled.findOrder]
    split
    · next same =>
      rw [← same, settled.ofOrder] at found
      cases found
      exact ⟨_, rfl, order.becomes_after o now⟩
    · exact ⟨order, found, .inl rfl⟩

/-- An order in the book was there before, or it is the order of the event that was there to be
entered. -/
theorem Change.order_before (change : Change now o? e? b b') {order' : Order}
    (found : b'.findOrder x = some order') :
    (∃ order, b.findOrder x = some order ∧ order.Becomes order') ∨
      ∃ event lineIds, e? = some event ∧ lineIds.length = event.items.length ∧
        order' = .ofEvent event lineIds now ∧ order'.id = x := by
  cases change.effect with
  | stays orders => exact .inl ⟨order', (orders x).symm.trans found, .inl rfl⟩
  | creates mine enough shape created =>
    rw [created.findOrder] at found
    split at found
    · next same =>
      cases found
      exact .inr ⟨_, _, mine, enough, shape, same⟩
    · exact .inl ⟨order', found, .inl rfl⟩
  | @moves _ order _ ofOrder _ _ written =>
    rw [written, findOrder_put] at found
    split at found
    · next same =>
      cases found
      exact .inl ⟨order, same ▸ ofOrder, .inr ⟨_, now, rfl⟩⟩
    · exact .inl ⟨order', found, .inl rfl⟩
  | @settles o order _ _ _ settled =>
    rw [settled.findOrder] at found
    split at found
    · next same =>
      cases found
      exact .inl ⟨order, same ▸ settled.ofOrder, order.becomes_after o now⟩
    · exact .inl ⟨order', found, .inl rfl⟩

/-- No order comes back to `pending`. -/
theorem Change.leaves_pending (change : Change now o? e? b b') {order order' : Order}
    (before : b.findOrder x = some order) (after : b'.findOrder x = some order')
    (left : order.status ≠ .pending) : order'.status ≠ .pending := by
  have stays (same : b.findOrder x = some order') : order'.status ≠ .pending := by
    rw [before] at same
    cases same
    exact left
  cases change.effect with
  | stays orders => exact stays ((orders x).symm.trans after)
  | creates _ _ _ created =>
    rw [created.findOrder] at after
    split at after
    · next same =>
      rw [← same, created.newOrder] at before
      cases before
    · exact stays after
  | @moves _ _ next _ may _ written =>
    rw [written, findOrder_put] at after
    split at after
    · cases after
      intro back
      rw [show next = .pending from back, OrderStatus.mayBecome_pending] at may
      cases may
    · exact stays after
  | settles _ settled =>
    rw [settled.findOrder] at after
    split at after
    · next same =>
      rw [← same, settled.ofOrder] at before
      cases before
      cases after
      rw [Order.after_status]
      exact OrderStatus.afterPayment_ne_pending _ _
    · exact stays after

/-- Every payment is the payment of an order in the book. -/
def IsPaired (b : OrderBook) : Prop := ∀ x, b.findOrder x = none → b.findPayment x = none

theorem Change.paired (change : Change now o? e? b b') (paired : b.IsPaired) : b'.IsPaired := by
  intro x unknown
  cases change.effect with
  | stays orders payments => exact (payments x).trans (paired x ((orders x).symm.trans unknown))
  | creates _ _ _ created =>
    rw [created.findOrder] at unknown
    rw [created.findPayment]
    split at unknown
    · cases unknown
    · next other => rw [if_neg other, paired x unknown]
  | moves _ _ _ written =>
    rw [written, findOrder_put] at unknown
    rw [written, findPayment_put]
    split at unknown
    · cases unknown
    · exact paired x unknown
  | settles _ settling =>
    rw [settling.findOrder] at unknown
    rw [settling.findPayment]
    split at unknown
    · cases unknown
    · next other => rw [if_neg other, paired x unknown]

/-- A payment that is settled keeps everything. -/
theorem Change.settled_stays (change : Change now o? e? b b') (paired : b.IsPaired)
    {tx : PaymentTransaction} (found : b.findPayment x = some tx) (settled : tx.status ≠ .pending) :
    b'.findPayment x = some tx := by
  cases change.effect with
  | stays _ payments => exact (payments x).trans found
  | creates _ _ _ created =>
    rw [created.findPayment]
    split
    · next same =>
      rw [← same, paired _ created.newOrder] at found
      cases found
    · exact found
  | moves _ _ _ written =>
    rw [written, findPayment_put]
    exact found
  | settles _ settling =>
    rw [settling.findPayment]
    split
    · next same =>
      rw [← same, settling.ofPayment] at found
      cases found
      exact absurd settling.pending settled
    · exact found

end OrderBook

end OrderFlow
