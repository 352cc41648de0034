import OrderFlow.Proofs.Payment.Sweeping

/-!
What becomes of an attempt that is open when it begins, where nothing hinders it and nobody else is
about. It stays open until it takes the order up, and it holds the order until it has settled the
payment (`Phase.Pursues.step`), so in the end the book shows its outcome (`OrderBook.Shows`). An
attempt to give up a payment never calls the gateway (`Phase.Expires.step`).
-/
namespace OrderFlow

namespace OrderBook
variable {b b' : OrderBook} {x : Uuid}

/-- There is something to do for an attempt to pay for the order `x`. -/
def IsOpen (b : OrderBook) (purpose : Payment.Purpose) (x : Uuid) : Prop :=
  ∃ order tx, b.findOrder x = some order ∧ b.findPayment x = some tx ∧
    Payment.isOpen purpose order tx = true

theorem IsOpen.spared {purpose : Payment.Purpose} (stands : b.IsOpen purpose x)
    (spared : b.Spares b' x) : b'.IsOpen purpose x := by
  obtain ⟨order, tx, ofOrder, ofPayment, unpaid⟩ := stands
  exact ⟨order, tx, spared.order.trans ofOrder, spared.payment.trans ofPayment, unpaid⟩

/-- The book shows the outcome `o` for an order that was in process: the order is paid or has
failed, and the payment tells what has come of it. -/
def Shows (b : OrderBook) (o : PaymentOutcome) : Prop :=
  ∃ order tx, b.findOrder o.orderId = some order ∧ b.findPayment o.orderId = some tx ∧
    order.status = OrderStatus.processing.afterPayment o.isSuccess ∧
    tx.status = .ofResult o.result ∧ tx.externalTransactionId = o.externalTransactionId ∧
    tx.failureReason = o.failureReason ∧ tx.attempts = o.attempts

theorem Shows.spared {o : PaymentOutcome} (shows : b.Shows o) (spared : b.Spares b' o.orderId) :
    b'.Shows o := by
  obtain ⟨order, tx, ofOrder, ofPayment, shown⟩ := shows
  exact ⟨order, tx, spared.order.trans ofOrder, spared.payment.trans ofPayment, shown⟩

theorem Shows.isSettled {o : PaymentOutcome} (shows : b.Shows o) : b.IsSettled o.orderId := by
  obtain ⟨_, tx, _, ofPayment, _, status, _⟩ := shows
  exact ⟨tx, ofPayment, status ▸ PaymentStatus.ofResult_ne_pending _⟩

theorem Settled.shows {o : PaymentOutcome} {now : Instant} {order : Order}
    {tx tx' : PaymentTransaction} (settled : Settled b b' o now order tx tx')
    (processing : order.status = .processing) (untried : tx.attempts = 0) : b'.Shows o := by
  refine ⟨order.after o now, tx', ?_, ?_, ?_, ?_⟩
  · rw [settled.findOrder, if_pos rfl]
  · rw [settled.findPayment, if_pos rfl]
  · rw [Order.after_status, processing]
  · rw [settled.transaction]
    exact ⟨rfl, rfl, rfl, by simp [untried]⟩

end OrderBook

namespace Payment
open OrderDesk Surroundings
variable {cfg : Config} {d d' : OrderDesk} {p p' : Phase} {x : Uuid}

/-! ## What an attempt comes to -/

/-- Where an attempt stands that is made for the order `x` and comes to an outcome. -/
def Phase.Pursues (x : Uuid) (d : OrderDesk) : Phase → Prop
  | .reading purpose id => id = x ∧ d.book.IsOpen purpose x
  | .readingPayment purpose order => order.id = x ∧ d.book.IsOpen purpose x
  | .claiming order _ => order.id = x ∧ d.book.findOrder x = some order
  | .done r => ∃ o, r = .ok (some o) ∧ o.orderId = x ∧ d.book.Shows o
  | p => p.holds? = some x

theorem Phase.Pursues.order (pursues : p.Pursues x d) (running : p.isDone = false) :
    p.order? = some x := by
  cases p with
  | done => cases running
  | reading | readingPayment | claiming => exact congrArg some pursues.1
  | _ => exact pursues

/-- Where nobody else is about, an order that was found to be pending is moved. -/
theorem Phase.claims_quiet {order : Order} (payment : PaymentTransaction)
    (quiet : d.around.IsQuiet) (found : d.book.findOrder order.id = some order) :
    Yields ((Phase.claiming order payment).step cfg) d fun p' _ => p'.isDone = false := by
  have won : Yields (swapStatus order.id order.status .processing) d fun r _ => r = .ok true := by
    refine (lift_mishap_quiet .updateStatus quiet).bind ?_
    rintro _ d' ⟨rfl, same⟩
    subst same
    refine (write_quiet _ quiet).mono fun r _ ⟨_, answer⟩ => ?_
    rw [answer, OrderBook.updateStatus, found]
    simp [Except.map]
  refine won.bind ?_
  rintro _ d' rfl
  exact .returned rfl

section
variable {a₀ : Surroundings} {b₀ : OrderBook}

/-- **An attempt that is open comes to an outcome**, and the book shows it. -/
theorem Phase.Pursues.step (pursues : p.Pursues x d) (tended : Tended a₀ b₀ d p.holds?)
    (tends : p.Tends a₀ d) (drawable : cfg.policy.retry.IsDrawable)
    (running : p.isDone = false) (move : Move cfg d d' p p')
    (free : Unhindered d.book d.around.now p p')
    (wins : ∀ order payment, p = .claiming order payment →
      d.book.findOrder order.id = some order → p'.isDone = false) : p'.Pursues x d' := by
  cases move with
  | quits early _ _ =>
    -- What is open is gone on with.
    cases p with
    | reading =>
      obtain ⟨rfl, order, tx, found, -⟩ := pursues
      cases free.finds _ _ _ rfl found
    | readingPayment purpose order =>
      obtain ⟨rfl, order', tx, found, ofPayment, unpaid⟩ := pursues
      cases found.symm.trans tends
      cases free.opens _ _ _ rfl ofPayment unpaid
    | claiming order payment =>
      obtain ⟨rfl, found⟩ := pursues
      cases wins _ _ rfl found
    | _ => cases early
  | @finds purpose id order found aside =>
    obtain ⟨rfl, stands⟩ := pursues
    exact ⟨tended.indexed.ofOrder id order found, stands.spared (aside.spares id)⟩
  | @prepares order payment _ _ aside =>
    obtain ⟨rfl, -⟩ := pursues
    exact ⟨rfl, (aside.spares order.id).order.trans tends⟩
  | expires | claims => exact congrArg some pursues.1
  | calls asks | refused asks => exact (Phase.holds?_of_asks asks).symm.trans (by
      cases p <;> cases asks <;> exact pursues)
  | confirmed awaits | pauses awaits | givesUp awaits =>
    exact (Phase.holds?_of_awaits awaits).symm.trans (by
      cases p <;> cases awaits <;> exact pursues)
  | breaksOff _ _ _ left undrawn =>
    obtain ⟨draw, undrawn⟩ := undrawn
    cases (drawable _ left draw).symm.trans undrawn
  | hangs => exact pursues
  | settled settles does =>
    obtain ⟨⟨order, tx, unsettled⟩, -⟩ := tends.settles settles
    obtain ⟨s, book, order', tx', tx'', applied, settled⟩ := tended.settles tends settles
    cases settled.ofOrder.symm.trans unsettled.ofOrder
    cases settled.ofPayment.symm.trans unsettled.ofPayment
    refine ⟨_, rfl, ?_, ?_⟩
    · have own := Phase.holds?_of_settles settles
      cases p <;> cases settles <;> exact Option.some.inj (own.symm.trans pursues)
    · rw [(does.written applied).book]
      exact settled.shows unsettled.processing (tended.untried unsettled)
  | waitsToSettle settles =>
    obtain ⟨s, b', order, tx, tx', applied, settled⟩ := tended.settles tends settles
    cases free.settles _ _ _ settles applied
  | failsToSettle settles =>
    obtain ⟨s, b', order, tx, tx', applied, settled⟩ := tended.settles tends settles
    cases free.settles _ _ _ settles applied
  | rests => cases running

/-- An attempt to pay for the order `x` that was begun with the book `b`, with nobody else about. -/
structure Phase.IsPursuing (cfg : Config) (a₀ : Surroundings) (b₀ b : OrderBook) (x : Uuid)
    (p : Phase) (d : OrderDesk) : Prop where
  tended : Tended a₀ b₀ d p.holds?
  tends : p.Tends a₀ d
  pursues : p.Pursues x d
  spares : ∀ y, y ≠ x → b.Spares d.book y

theorem Phase.IsPursuing.begins {purpose : Purpose} (tended : Tended a₀ b₀ d none)
    (stands : d.book.IsOpen purpose x) :
    (Phase.reading purpose x).IsPursuing cfg a₀ b₀ d.book x d :=
  ⟨tended, trivial, ⟨rfl, stands⟩, fun y _ => .refl _ y⟩

/-- Time passes while an attempt waits, and nothing else. -/
theorem Phase.IsPursuing.waits {b : OrderBook} (pursuing : p.IsPursuing cfg a₀ b₀ b x d)
    (now : Instant) :
    p.IsPursuing cfg a₀ b₀ b x { d with around := { d.around with now } } := by
  obtain ⟨tended, tends, pursues, spares⟩ := pursuing
  refine ⟨tended.atTime now, ?_, ?_, spares⟩
  · cases p <;> exact tends
  · cases p <;> exact pursues

/-- **One phase of such an attempt.** -/
theorem Phase.IsPursuing.step {final : Surroundings} {b : OrderBook}
    (pursuing : p.IsPursuing cfg a₀ b₀ b x d) (running : p.isDone = false) (sound : p.IsSound)
    (drawable : cfg.policy.retry.IsDrawable) (distinct : final.IsDistinct)
    (unknown : ∀ id, Fresh a₀ final id → b₀.isProcessed id = false) :
    Yields (p.step cfg) d fun p' d' => d'.around.Precedes final →
      p'.IsPursuing cfg a₀ b₀ b x d' ∧ p'.left cfg.policy < p.left cfg.policy := by
  obtain ⟨tended, tends, pursues, spares⟩ := pursuing
  have wins : Yields (p.step cfg) d fun p' _ => ∀ order payment, p = .claiming order payment →
      d.book.findOrder order.id = some order → p'.isDone = false := by
    rintro order payment rfl found
    exact Phase.claims_quiet payment tended.quiet found
  refine ((Phase.tended_yields tended tends running sound drawable distinct unknown).and
    wins).mono ?_
  rintro p' d' ⟨⟨move, free, goesOn⟩, wins⟩ before
  obtain ⟨tended', tends', shorter⟩ := goesOn before
  have pursues' := pursues.step tended tends drawable running move free wins
  refine ⟨⟨tended', tends', pursues', fun y other => ?_⟩, shorter⟩
  exact (spares y other).trans (move.spares fun own =>
    other (Option.some.inj (own.symm.trans (pursues.order running))))

end

/-! ## Attempts that give up -/

/-- The outcome of a payment that was given up, without a call of the gateway. -/
def IsExpiry (o : PaymentOutcome) : Prop :=
  o.result = .failed ∧ o.failureReason = some expiryReason ∧ o.attempts = 0

/-- An attempt that can only give up. -/
def Phase.Expires : Phase → Prop
  | .reading purpose _ | .readingPayment purpose _ => purpose = .expire
  | .settling o _ | .pausingToSettle o _ _ => IsExpiry o
  | .done r => ∀ o, outcome? r = some o → IsExpiry o
  | _ => False

/-- **An attempt that gives up does not call the gateway.** -/
theorem Phase.Expires.step (expires : p.Expires) (move : Move cfg d d' p p') :
    p'.Expires ∧ d'.gateway = d.gateway := by
  cases move with
  | quits _ nothing aside =>
    refine ⟨fun o shown => ?_, aside.gateway⟩
    rw [nothing] at shown
    cases shown
  | finds _ aside => exact ⟨expires, aside.gateway⟩
  | prepares => cases expires
  | expires _ _ _ aside => exact ⟨⟨rfl, rfl, rfl⟩, aside.gateway⟩
  | claims | hangs => exact expires.elim
  | calls asks | refused asks => cases p <;> cases asks <;> exact expires.elim
  | confirmed awaits | pauses awaits | givesUp awaits | breaksOff awaits =>
    cases p <;> cases awaits <;> exact expires.elim
  | settled settles does =>
    obtain ⟨_, writes⟩ := does.writes
    refine ⟨fun o shown => ?_, writes.gateway⟩
    cases shown
    cases p <;> cases settles <;> exact expires
  | waitsToSettle settles does =>
    obtain ⟨_, writes⟩ := does.writes
    exact ⟨by cases p <;> cases settles <;> exact expires, writes.gateway⟩
  | failsToSettle settles does =>
    obtain ⟨_, writes⟩ := does.writes
    exact ⟨fun o shown => (by cases shown), writes.gateway⟩
  | rests aside => exact ⟨expires, aside.gateway⟩

end Payment
end OrderFlow
