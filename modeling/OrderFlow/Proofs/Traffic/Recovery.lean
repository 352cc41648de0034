import OrderFlow.Email
import OrderFlow.Proofs.Event.RoundTrip
import OrderFlow.Proofs.Payment.Sweeping
import OrderFlow.Proofs.Shop.Waiting
import OrderFlow.Proofs.Traffic.Charging

/-!
Recovery in traffic. A sweep that goes through the shop late enough and without mishaps settles an
order that was left in process (`Shop.recover_settles`); no sweep touches an order that is open to
no attempt (`Shop.recover_spares`). An order for which the gateway was called and whose payment is
pending is in process or cancelled (`charged_waits`), and which of the two it is decides what
becomes of the charge (`charges_settled_unless_cancelled`, `stranded_for_good`).
-/
namespace OrderFlow

namespace Shop
open Surroundings Payment
variable {cfg : Config} {s : Shop} {x : Uuid} {order : Order} {tx : PaymentTransaction}

theorem orderDesk_withOrderDesk {d : OrderDesk} (none : d.dispatched = []) :
    (s.withOrderDesk d).orderDesk = d := by
  obtain ⟨around, book, broker, gateway, breaker, notified, dispatched⟩ := d
  cases none
  rfl

/-- A sweep in a shop in which nothing else goes on. -/
structure IsSweeping (w : Sweep) (s : Shop) : Prop where
  sound : ∀ p, w.attempt? = some p → p.IsSound
  gateway : s.gateway.IsPlain
  idle : s.tasks = []

/-- A phase of a sweep. -/
theorem IsSweeping.step {w : Sweep} (sweeping : IsSweeping w s) {P : Sweep → OrderDesk → Prop}
    (does : Yields (w.step cfg.payment cfg.recovery) s.orderDesk P) :
    Yields (atOrders (w.step cfg.payment cfg.recovery)) s fun w' s' =>
      IsSweeping w' s' ∧ Sweep.Move cfg.payment s.orderDesk s'.orderDesk w w' ∧
        P w' s'.orderDesk := by
  have moves := (w.step_moves cfg.payment cfg.recovery sweeping.sound s.orderDesk).and does
  refine (atOrders_yields moves).mono ?_
  rintro w' _ ⟨d, rfl, move, does⟩
  obtain ⟨sound, plain, dispatched⟩ := move.sound sweeping.gateway
  have none : d.dispatched = [] := dispatched
  rw [orderDesk_withOrderDesk none]
  refine ⟨⟨sound, plain, ?_⟩, move, does⟩
  simp only [withOrderDesk, none, List.map_nil, List.append_nil]
  exact sweeping.idle

/-- A sweep that has begun in `s`, in the midst of its work for the order `x`. -/
def IsMending (cfg : Config) (s : Shop) (x : Uuid) (order : Order) (tx : PaymentTransaction)
    (w : Sweep) (s' : Shop) : Prop :=
  w.Mends cfg.payment s.around s.book x order tx s'.orderDesk

/-- A sweep comes to its end, and has its work done then. -/
theorem follow_sweep {final : Surroundings} {fuel : Nat}
    (enough : Sweep.left cfg.payment.policy s.book.orders.length .seekingStalled < fuel)
    (sweeping : IsSweeping .seekingStalled s)
    (begins : IsMending cfg s x order tx .seekingStalled s)
    (reaches : cfg.recovery.Reaches s.around.now s.book order)
    (drawable : cfg.payment.policy.retry.IsDrawable) (distinct : final.IsDistinct)
    (unknown : ∀ id, Fresh s.around final id → s.book.isProcessed id = false) :
    Yields (follow cfg Sweep.until? Sweep.isDone (·.step cfg.payment cfg.recovery) fuel
      .seekingStalled) s fun w s' =>
        s'.around.Precedes final → IsMending cfg s x order tx w s' ∧ w.isDone = true := by
  have indexed : s.book.IsIndexed := begins.tended.indexed
  have filed : s.book.IsFiled := begins.tended.filed
  refine follow_ends (J := IsSweeping) (I := IsMending cfg s x order tx)
    (fun _ _ sweeping => sweeping.idle) (fun w s' wake now until_ sweeping => ?_)
    (fun w s' sweeping running => ?_) enough sweeping begins
  · exact ⟨⟨sweeping.sound, sweeping.gateway, sweeping.idle⟩, fun mends => mends.waits until_ now⟩
  · have does : Yields (w.step cfg.payment cfg.recovery) s'.orderDesk fun w' d' =>
        IsMending cfg s x order tx w s' → d'.around.Precedes final →
          w'.Mends cfg.payment s.around s.book x order tx d' ∧
            w'.left cfg.payment.policy s.book.orders.length <
              w.left cfg.payment.policy s.book.orders.length :=
      fun mends => Sweep.Mends.step mends running sweeping.sound reaches indexed filed drawable
        distinct unknown
    exact (sweeping.step does).mono fun w' s'' ⟨sweeping, move, goesOn⟩ =>
      ⟨sweeping, move.follows.precedes, goesOn⟩

/-- **A sweep that nothing hinders settles an order that was left behind long enough ago.** -/
theorem recover_settles (plain : s.gateway.IsPlain) (idle : s.tasks = [])
    (quiet : s.around.IsQuiet) (indexed : s.book.IsIndexed) (filed : s.book.IsFiled)
    (accounts : ∀ x, ∃ applied, s.book.Account x applied)
    (unsettled : s.book.IsUnsettled x order tx)
    (reaches : cfg.recovery.Reaches s.around.now s.book order)
    (drawable : cfg.payment.policy.retry.IsDrawable) :
    Yields (recover cfg) s fun r s' =>
      s'.around.IsDistinct → (∀ id, Fresh s.around s'.around id → s.book.isProcessed id = false) →
        (∃ n, r = .ok n) ∧ s'.book.IsSettled x := by
  have sweeping : IsSweeping .seekingStalled s := ⟨(fun _ under => nomatch under), plain, idle⟩
  have begins : IsMending cfg s x order tx .seekingStalled s :=
    ⟨⟨quiet, .refl _, indexed, filed, accounts, rfl, fun _ _ _ _ => id, fun _ => .inl⟩,
      (fun _ under => nomatch under), rfl, unsettled⟩
  unfold recover
  refine .seen (Yields.bind (P := fun w s' => s'.around.IsDistinct →
    (∀ id, Fresh s.around s'.around id → s.book.isProcessed id = false) →
      IsMending cfg s x order tx w s' ∧ w.isDone = true)
    (fun distinct unknown => ?_) fun w s' ends => ?_)
  · exact follow_sweep (Nat.lt_succ_self _) sweeping begins reaches drawable distinct unknown
      (.refl _)
  · cases w with
    | done result =>
      refine .returned fun distinct unknown => ?_
      obtain ⟨⟨_, _, answered⟩, -⟩ := ends distinct unknown
      exact answered
    | _ => exact .returned fun distinct unknown => nomatch (ends distinct unknown).2

/-- **No sweep touches an order that is open to no attempt**, whatever it meets. -/
theorem recover_spares (plain : s.gateway.IsPlain) (idle : s.tasks = [])
    (indexed : s.book.IsIndexed) (found : s.book.findOrder x = some order)
    (closed : ∀ purpose tx, isOpen purpose order tx = false) :
    Yields (recover cfg) s fun _ s' => s.book.Spares s'.book x := by
  have followed (fuel : Nat) : Yields (follow cfg Sweep.until? Sweep.isDone
      (·.step cfg.payment cfg.recovery) fuel .seekingStalled) s fun w s' =>
        IsSweeping w s' ∧ s'.book.IsIndexed ∧ s.book.Spares s'.book x ∧
          ∀ p, w.attempt? = some p → p.Leaves x order := by
    refine follow_keeps (P := fun w s' => IsSweeping w s' ∧ s'.book.IsIndexed ∧
        s.book.Spares s'.book x ∧ ∀ p, w.attempt? = some p → p.Leaves x order)
      (fun _ _ holds => holds.1.idle) (fun w s' _ _ ⟨sweeping, rest⟩ _ =>
        ⟨⟨sweeping.sound, sweeping.gateway, sweeping.idle⟩, rest⟩)
      (fun w s' ⟨sweeping, indexed, spared, leaves⟩ _ => ?_) fuel
      ⟨⟨(fun _ under => nomatch under), plain, idle⟩, indexed, .refl _ x,
        fun _ under => nomatch under⟩
    refine (sweeping.step (P := fun _ _ => True) trivial).mono fun w' s'' ⟨sweeping, move, _⟩ => ?_
    obtain ⟨spared', leaves'⟩ :=
      Sweep.leaves_step leaves indexed (spared.order.trans found) closed move
    exact ⟨sweeping, indexed.change move.changes, spared.trans spared', leaves'⟩
  unfold recover
  refine .seen ((followed _).bind fun w s' holds => ?_)
  cases w <;> exact .returned holds.2.2.1

end Shop

namespace Traffic
open Payment Surroundings
variable {cfg : Shop.Config} {t t' : Traffic} {e : Event}

theorem run_isFiled [EmailCheck] (cfg : Shop.Config) (around : Surroundings)
    (stock : Assoc Uuid Int) (sequences : Assoc CalendarDay Int) (events : List Event) :
    ((opening around stock sequences).run cfg events).shop.book.IsFiled := by
  refine run_keeps_all (P := fun t => t.shop.book.IsFiled) (opening_isSound around stock sequences)
    OrderBook.isFiled_empty ?_
  rintro t e t' - filed step
  obtain ⟨_, _, change⟩ := step.book
  exact filed.change change

/-- Whoever has called the gateway for an order has moved it, and it waits for its payment in
process or was cancelled. -/
theorem charged_waits (chronicled : t.IsChronicled cfg) {x : Uuid}
    {applied : List (PaymentOutcome × Instant)} (account : t.shop.book.Account x applied)
    {call : Gateway.LoggedCall} (called : call ∈ t.shop.gateway.calls)
    (own : call.request.orderId = x) {tx : PaymentTransaction}
    (found : t.shop.book.findPayment x = some tx) (pending : tx.status = .pending) :
    ∃ order, t.shop.book.findOrder x = some order ∧
      (order.status = .cancelled ∨ order.status = .processing) := by
  rw [chronicled.logged] at called
  obtain ⟨h, past, charged⟩ := List.mem_flatMap.mp called
  obtain ⟨c, before, -, claims⟩ := chronicled.claimed past charged
  rw [own] at claims
  obtain ⟨order, ofOrder, left⟩ := chronicled.left c before x claims
  refine ⟨order, ofOrder, ?_⟩
  cases account with
  | unknown noOrder => cases noOrder.symm.trans ofOrder
  | waiting ofOrder' _ _ _ _ agrees =>
    cases ofOrder'.symm.trans ofOrder
    revert left agrees
    cases order.status <;> simp [OrderStatus.agrees]
  | settled _ ofPayment _ _ result =>
    cases ofPayment.symm.trans found
    exact absurd (result.symm.trans pending) (PaymentStatus.ofResult_ne_pending _)

theorem isPlain_over (w : Weather) (s : Shop) : (w.over s).gateway.IsPlain := by
  intro entry member
  obtain ⟨_, _, rfl⟩ := List.mem_map.mp member
  rfl

/-- No sweep touches an order that was cancelled, whatever the weather. -/
theorem recover_spares_cancelled (cfg : Shop.Config) (sound : t.IsSound)
    (indexed : t.shop.book.IsIndexed) {x : Uuid} {order : Order}
    (found : t.shop.book.findOrder x = some order) (cancelled : order.status = .cancelled)
    (w : Weather) :
    t.shop.book.Spares ((Shop.recover cfg).run (w.over t.shop)).2.book x := by
  have closed (purpose : Purpose) (tx : PaymentTransaction) : isOpen purpose order tx = false := by
    cases purpose <;> simp [isOpen, cancelled]
  exact Shop.recover_spares (s := w.over t.shop) (isPlain_over w _) sound.tasks indexed found closed

/-! ## A charge whose end is not noted -/

/-- The event of an order. -/
def placed : OrderCreated :=
  ⟨.ofNat 1, .orderCreated, eventVersion, ⟨⟨2025, 1, 1⟩, 10, 0, 0, 0⟩, "checkout-0", .ofNat 2,
    Samples.number, Samples.customer,
    [⟨.ofNat 3, "SKU-001", "Mechanical Keyboard", 2, Samples.price, Samples.amount⟩],
    Samples.amount, .ofNat 4⟩

/-- The message that carries it. -/
def placedMessage : Message where
  topic := EventKind.orderCreated.topic
  payload := Octets.ofText placed.toJson.ordered.render

/-- A shop that tries three times whatever fails, and counts payments as stuck after a minute. -/
def minutely : Shop.Config where
  keep := 60000000000
  cleanupInterval := .zero
  outbox := ⟨.zero, 1, 1, {}, .ofSeconds 30⟩
  payment := ⟨⟨.ofSeconds 5, .withMaxAttempts 3⟩, default⟩
  recovery := ⟨.ofSeconds 30, 60000000000, 60000000000, 10⟩
  delivery := default

theorem minutely_isDrawable : minutely.payment.policy.retry.IsDrawable :=
  RetryPolicy.isDrawable_of_unspread (by decide)

/-- The next payment cannot be settled at the store. -/
def outOfReach (now : Instant) : Event :=
  .change { now, mishaps := [(.finalizePayment, .fails (.store .noConnection))] }

/-- Once the message has been read, the order is entered; the gateway is called for it and confirms,
and the store is out of reach whenever this is about to be noted, until the attempt gives up. -/
def forgotten : List Event :=
  [.advance 0, .advance 0, .advance 1, .advance 1, .advance 1, .advance 1, .advance 1,
    outOfReach ⟨0⟩, .advance 1, outOfReach ⟨1000000000⟩, .advance 1,
    outOfReach ⟨3000000000⟩, .advance 1]

/-- A shop that has done nothing but read a message. -/
def arrived (around : Surroundings) (m : Message) (e : OrderCreated) : Traffic :=
  let start := opening around [] []
  { start with
    doings := [.delivery m (.checking e {})]
    past := [⟨0, 0, .delivery m .reading, .delivery m (.checking e {}), start.shop, start.shop⟩] }

theorem run_arrived [EmailCheck] (cfg : Shop.Config) (around : Surroundings) (events : List Event)
    {m : Message} {e : OrderCreated} (received : Incoming.ofMessage m = .ok (.orderCreated e)) :
    (opening around [] []).run cfg (.call (.deliver m) :: .advance 0 :: events) =
      (arrived around m e).run cfg events := by
  have reads := step_reads cfg 0
    (t := { opening around [] [] with doings := [.delivery m .reading] }) rfl received
  exact congrArg (·.run cfg events) reads

theorem received_placed : Incoming.ofMessage placedMessage = .ok (.orderCreated placed) :=
  Incoming.ofMessage_orderCreated (by decide +kernel)
    ⟨by decide, by decide, by decide, by decide, by decide, by decide⟩ rfl (by rw [placedMessage])

/-- The shop after all that. -/
def neglected : Traffic :=
  (opening { now := ⟨0⟩ } [] []).run minutely
    (.call (.deliver placedMessage) :: .advance 0 :: forgotten)

-- Evaluation begins when the message has been read: the payload is not to be taken apart octet by
-- octet.
theorem neglected_eq :
    neglected = (arrived { now := ⟨0⟩ } placedMessage placed).run minutely forgotten := by
  rw [neglected, run_arrived _ _ _ received_placed]

/-- A sweep on the next day. -/
def nextDay : Weather where
  now := .ofMillis 86403000

/-- What it answers, and the shop after it. -/
def mended : Except OrderError Nat × Shop :=
  (Shop.recover minutely).run (nextDay.over neglected.shop)

/-- What happens where the order is cancelled before that. -/
def cancelling : List Event :=
  [.call (.change placed.orderId .cancel), .advance 2, .advance 2, .advance 2]

/-- The shop after the order was cancelled. -/
def stranded : Traffic := neglected.run minutely cancelling

/-! ## What becomes of a charge -/

/-- **A charge that was never settled is settled by a later sweep, unless the order was cancelled
meanwhile.** Where nothing hinders it, no wait that cannot be drawn either, a sweep that comes late
enough for the order and has room for all that are in process ends well and leaves the payment
settled; a cancelled order no sweep touches, whatever its weather. The identifiers that the sweep
draws are new. -/
theorem charges_settled_unless_cancelled [EmailCheck] (cfg : Shop.Config) (around : Surroundings)
    (stock : Assoc Uuid Int) (sequences : Assoc CalendarDay Int) (events : List Event) (x : Uuid)
    (tx : PaymentTransaction) :
    let t := (opening around stock sequences).run cfg events
    (∃ call ∈ t.shop.gateway.calls, call.request.orderId = x) →
    t.shop.book.findPayment x = some tx → tx.status = .pending →
    ∃ order, t.shop.book.findOrder x = some order ∧
      ((order.status = .cancelled ∧ ∀ w : Weather,
        let later := (Shop.recover cfg).run (w.over t.shop)
        later.2.book.findPayment x = some tx) ∨
       (order.status = .processing ∧ ∀ w : Weather, w.mishaps = [] →
        cfg.payment.policy.retry.IsDrawable → cfg.recovery.Reaches w.now t.shop.book order →
        let later := (Shop.recover cfg).run (w.over t.shop)
        later.2.around.IsDistinct →
        (∀ id, Fresh t.shop.around later.2.around id → t.shop.book.isProcessed id = false) →
        (∃ n, later.1 = .ok n) ∧ later.2.book.IsSettled x)) := by
  rintro t ⟨call, called, own⟩ found pending
  have sound : t.IsSound := (opening_isSound around stock sequences).run events
  have indexed := (run_isEntered cfg around stock sequences events).indexed
  have accounts := run_accounts cfg around stock sequences events
  have chronicled : t.IsChronicled cfg := run_isChronicled cfg around stock sequences events
  obtain ⟨order, ofOrder, left⟩ := charged_waits chronicled (accounts x) called own found pending
  refine ⟨order, ofOrder, ?_⟩
  rcases left with cancelled | processing
  · refine .inl ⟨cancelled, fun w => ?_⟩
    exact (recover_spares_cancelled cfg sound indexed ofOrder cancelled w).payment.trans found
  · refine .inr ⟨processing, fun w quiet drawable reaches => ?_⟩
    exact Shop.recover_settles (isPlain_over w _) sound.tasks quiet indexed
      (run_isFiled cfg around stock sequences events) (fun x => ⟨_, accounts x⟩)
      ⟨ofOrder, processing, found, pending⟩ reaches drawable

/-- A charge whose end was not noted is given up by a sweep on the next day. -/
theorem neglected_and_given_up :
    ∃ order tx, neglected.shop.book.IsUnsettled placed.orderId order tx ∧
      (∃ call ∈ neglected.shop.gateway.calls, call.request.orderId = placed.orderId) ∧
      minutely.recovery.Reaches nextDay.now neglected.shop.book order ∧
      mended.2.around.IsDistinct ∧
      (∀ id, Fresh neglected.shop.around mended.2.around id →
        neglected.shop.book.isProcessed id = false) ∧
      (∃ n, mended.1 = .ok n) ∧ mended.2.book.IsSettled placed.orderId := by
  have mended_eq : mended = (Shop.recover minutely).run (nextDay.over
      ((arrived { now := ⟨0⟩ } placedMessage placed).run minutely forgotten).shop) := by
    rw [mended, neglected_eq]
  have called : ∃ call ∈ neglected.shop.gateway.calls, call.request.orderId = placed.orderId := by
    rw [neglected_eq]
    decide +kernel
  have charged :
      (neglected.shop.book.findPayment placed.orderId).any (·.status = .pending) = true := by
    rw [neglected_eq]
    decide +kernel
  have late : (neglected.shop.book.findOrder placed.orderId).all (fun order =>
      order.status = .processing ∧
        order.updatedAt ≤ nextDay.now.shift (-minutely.recovery.unsettledAfter)) = true := by
    rw [neglected_eq]
    decide +kernel
  have room : (neglected.shop.book.adrift
      (nextDay.now.shift (-minutely.recovery.unsettledAfter))).length ≤
        minutely.recovery.batchSize.toNat := by
    rw [neglected_eq]
    decide +kernel
  have distinct : mended.2.around.IsDistinct := by
    rw [IsDistinct, mended_eq]
    decide +kernel
  have unknown : ∀ n < mended.2.around.issued,
      neglected.shop.book.isProcessed (neglected.shop.around.ids.ordered n) = false := by
    rw [mended_eq, neglected_eq]
    decide +kernel
  have new (id : Uuid) (fresh : Fresh neglected.shop.around mended.2.around id) :
      neglected.shop.book.isProcessed id = false := by
    obtain ⟨n, -, below, same⟩ := fresh
    rw [same]
    exact unknown n below
  have settles := charges_settled_unless_cancelled minutely { now := ⟨0⟩ } [] []
    (.call (.deliver placedMessage) :: .advance 0 :: forgotten) placed.orderId
  rw [← neglected] at settles
  obtain ⟨tx, ofPayment, pending⟩ := (Option.any_eq_true _ _).mp charged
  have pending : tx.status = .pending := of_decide_eq_true pending
  obtain ⟨order, ofOrder, outcome⟩ := settles tx called ofPayment pending
  rw [ofOrder] at late
  obtain ⟨processing, late⟩ := of_decide_eq_true late
  have reaches : minutely.recovery.Reaches nextDay.now neglected.shop.book order :=
    ⟨by decide, late, room⟩
  rcases outcome with ⟨cancelled, -⟩ | ⟨-, settles⟩
  · cases cancelled.symm.trans processing
  · have settles := settles nextDay rfl minutely_isDrawable reaches
    rw [← mended] at settles
    exact ⟨order, tx, ⟨ofOrder, processing, ofPayment, pending⟩, called, reaches, distinct, new,
      settles distinct new⟩

/-- The gateway was called for an order that was cancelled before its payment was settled: no
attempt is under way any more, and every sweep leaves the payment pending, whatever its settings and
its weather. -/
theorem stranded_for_good :
    (∃ call ∈ stranded.shop.gateway.calls, call.request.orderId = placed.orderId) ∧
      (∀ d ∈ stranded.doings, d.attempt?.all (·.isDone) = true) ∧
      ∃ tx, stranded.shop.book.findPayment placed.orderId = some tx ∧ tx.status = .pending ∧
        ∀ (cfg : Shop.Config) (w : Weather),
          let later := (Shop.recover cfg).run (w.over stranded.shop)
          later.2.book.findPayment placed.orderId = some tx := by
  have called : ∃ call ∈ stranded.shop.gateway.calls, call.request.orderId = placed.orderId := by
    rw [stranded, neglected_eq]
    decide +kernel
  have idle : ∀ d ∈ stranded.doings, d.attempt?.all (·.isDone) = true := by
    rw [stranded, neglected_eq]
    decide +kernel
  have charged :
      (stranded.shop.book.findPayment placed.orderId).any (·.status = .pending) = true := by
    rw [stranded, neglected_eq]
    decide +kernel
  have withdrawn :
      (stranded.shop.book.findOrder placed.orderId).any (·.status = .cancelled) = true := by
    rw [stranded, neglected_eq]
    decide +kernel
  obtain ⟨tx, ofPayment, pending⟩ := (Option.any_eq_true _ _).mp charged
  obtain ⟨order, ofOrder, cancelled⟩ := (Option.any_eq_true _ _).mp withdrawn
  have events : stranded = (opening { now := ⟨0⟩ } [] []).run minutely
      (.call (.deliver placedMessage) :: .advance 0 :: forgotten ++ cancelling) := by
    rw [stranded, neglected]
    exact List.foldl_append.symm
  have sound : stranded.IsSound := events ▸ (opening_isSound _ _ _).run _
  have indexed : stranded.shop.book.IsIndexed := events ▸ (run_isEntered minutely _ _ _ _).indexed
  refine ⟨called, idle, tx, ofPayment, of_decide_eq_true pending, fun cfg w => ?_⟩
  have spares :=
    recover_spares_cancelled cfg sound indexed ofOrder (of_decide_eq_true cancelled) w
  exact spares.payment.trans ofPayment

end Traffic

end OrderFlow
