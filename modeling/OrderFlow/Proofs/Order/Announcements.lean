import OrderFlow.Proofs.Event.RoundTrip
import OrderFlow.Proofs.Order.Origins
import OrderFlow.Proofs.Order.Searches
import OrderFlow.Proofs.Time.Calendar

/-!
What the order service announces. When it settles a payment it posts the event of the outcome, and
notes the event in the same step; so it knows each of its own events before anybody can send it
back. Such an event has to pass the check that every event passes: its names come from an order that
was checked when it was entered, and the outcome has to be complete (`PaymentOutcome.check_event`).
-/
namespace OrderFlow

variable {_ : EmailCheck}

/-- An outcome that says what its event has to say: a success its transaction, a failure its
reason. -/
def PaymentOutcome.IsComplete (o : PaymentOutcome) : Prop :=
  match o.result with
  | .success => o.externalTransactionId.isSome = true
  | .failed => o.failureReason.isSome = true

/-- An order with everything that its events name. -/
structure Order.IsNamed (order : Order) : Prop where
  correlation : 1 ≤ order.correlationId.length
  number : 1 ≤ order.number.length

/-- An order that is entered for an event in order is named. -/
theorem Order.IsNamed.ofEvent {e : OrderCreated} (fine : e.check = .ok ()) (lineIds : List Uuid)
    (now : Instant) : (Order.ofEvent e lineIds now).IsNamed := by
  have proper := (OrderCreated.check_eq_ok_iff.mp fine).1
  exact ⟨proper.correlation, proper.number⟩

theorem Order.IsNamed.becomes {order order' : Order} (named : order.IsNamed)
    (becomes : order.Becomes order') : order'.IsNamed := by
  rcases becomes with rfl | ⟨status, time, rfl⟩
  · exact named
  · exact ⟨named.correlation, named.number⟩

/-- **The event of a complete outcome passes its check.** -/
theorem PaymentOutcome.check_event {o : PaymentOutcome} {order : Order} {tx : PaymentTransaction}
    (complete : o.IsComplete) (named : order.IsNamed) (method : 1 ≤ tx.method.length)
    (now : Instant) : (o.event order tx now).check = .ok () := by
  have kept : (o.event order tx now).violations = [] := by
    simp only [PaymentCompleted.violations, List.append_eq_nil_iff, Violation.length_eq_nil_iff]
    exact ⟨⟨named.correlation, named.number⟩, method⟩
  unfold IsComplete at complete
  unfold PaymentCompleted.check
  rw [kept]
  cases result : o.result with
  | success =>
    obtain ⟨transaction, named⟩ := Option.isSome_iff_exists.mp (by simpa [result] using complete)
    simp [event, result, named, pure, Except.pure]
  | failed =>
    obtain ⟨reason, given⟩ := Option.isSome_iff_exists.mp (by simpa [result] using complete)
    simp [event, result, given, pure, Except.pure]

namespace OrderBook
variable {now : Instant} {o? : Option PaymentOutcome} {e? : Option OrderCreated}
  {b b' : OrderBook} {x : Uuid}

/-- What is posted is the end of a payment, in order, and the book knows it. -/
def Announces (b : OrderBook) (p : Outbox.Posting) : Prop :=
  ∃ e, p = .ofPaymentCompleted e ∧ e.check = .ok () ∧ e.timestamp.IsReal ∧
    b.isProcessed e.eventId = true

/-- What comes back is an event that the book knows. -/
theorem Announces.received {r : Outbox.Row} {m : Message} (announces : b.Announces r.posting)
    (carries : Incoming.Carries m r) :
    ∃ e, Incoming.ofMessage m = .ok (.paymentCompleted e) ∧ b.isProcessed e.eventId = true := by
  obtain ⟨e, shape, fine, real, known⟩ := announces
  obtain ⟨topic, payload⟩ := carries.of_posting shape
  exact ⟨e, Incoming.ofMessage_paymentCompleted fine real topic payload, known⟩

/-- A book whose orders and payments have everything that events name, and that knows whatever it
has posted. -/
structure IsCandid (b : OrderBook) : Prop where
  orders : ∀ x order, b.findOrder x = some order → order.IsNamed
  payments : ∀ x tx, b.findPayment x = some tx → 1 ≤ tx.method.length
  posted : ∀ p ∈ b.outbox.postings, b.Announces p

theorem Change.orders_named (change : Change now o? e? b b') (candid : b.IsCandid)
    (fine : ∀ e, e? = some e → e.check = .ok ()) {order : Order}
    (found : b'.findOrder x = some order) : order.IsNamed := by
  rcases change.order_before found with ⟨before, ofOrder, becomes⟩ | ⟨e, ids, enters, -, rfl, -⟩
  · exact (candid.orders x before ofOrder).becomes becomes
  · exact .ofEvent (fine e enters) ids now

/-- A payment keeps its method. -/
theorem Settled.method {o : PaymentOutcome} {order : Order} {tx tx' : PaymentTransaction}
    (settled : Settled b b' o now order tx tx') : tx'.method = tx.method := by
  rw [settled.transaction]

theorem Change.payments_named (change : Change now o? e? b b') (candid : b.IsCandid)
    {tx : PaymentTransaction} (found : b'.findPayment x = some tx) : 1 ≤ tx.method.length := by
  cases change.effect with
  | stays _ payments => exact candid.payments x tx ((payments x).symm.trans found)
  | creates _ _ _ created =>
    rw [created.findPayment] at found
    split at found
    · cases found
      exact (by decide : 1 ≤ "MOCK".length)
    · exact candid.payments x tx found
  | moves _ _ _ written =>
    rw [written, findPayment_put] at found
    exact candid.payments x tx found
  | settles _ settled =>
    rw [settled.findPayment] at found
    split at found
    · cases found
      exact settled.method ▸ candid.payments _ _ settled.ofPayment
    · exact candid.payments x tx found

/-- **What is posted is noted.** -/
theorem Change.announced (change : Change now o? e? b b') (candid : b.IsCandid)
    (inside : now.inCalendar = true)
    (complete : ∀ o, o? = some o → o.publish = true → o.IsComplete) :
    ∀ p ∈ b'.outbox.postings, b'.Announces p := by
  have kept {p : Outbox.Posting} (posted : p ∈ b.outbox.postings) : b'.Announces p := by
    obtain ⟨e, shape, fine, real, known⟩ := candid.posted p posted
    exact ⟨e, shape, fine, real, change.isProcessed_stays known⟩
  intro p posted
  cases change.effect with
  | stays _ _ postings =>
    rw [postings] at posted
    exact kept posted
  | creates _ _ _ created =>
    rw [created.entered] at posted
    exact kept posted
  | moves _ _ _ written =>
    rw [written] at posted
    exact kept posted
  | @settles o order tx tx' mine settled =>
    -- The names in the event are those of the order and the payment that the book had before.
    have tells : b'.outbox = tell b.outbox o (order.after o now) tx' now := by
      rw [settled.written]
    rw [tells, tell] at posted
    split at posted
    · next publish =>
      rw [Outbox.Table.postings_insert] at posted
      rcases List.mem_append.mp posted with old | new
      · exact kept old
      · have named : (order.after o now).IsNamed :=
          (candid.orders _ _ settled.ofOrder).becomes (order.becomes_after o now)
        have method : 1 ≤ tx'.method.length :=
          settled.method ▸ candid.payments _ _ settled.ofPayment
        refine ⟨_, List.mem_singleton.mp new, ?_, Timestamp.isReal_ofInstant inside, ?_⟩
        · exact PaymentOutcome.check_event (complete o mine publish) named method now
        · exact (settled.isProcessed o.eventId).trans (if_pos rfl)
    · exact kept posted

theorem IsCandid.change (candid : b.IsCandid) (change : Change now o? e? b b')
    (inside : now.inCalendar = true)
    (complete : ∀ o, o? = some o → o.publish = true → o.IsComplete)
    (fine : ∀ e, e? = some e → e.check = .ok ()) : b'.IsCandid where
  orders _ _ := change.orders_named candid fine
  payments _ _ := change.payments_named candid
  posted := change.announced candid inside complete

end OrderBook

end OrderFlow
