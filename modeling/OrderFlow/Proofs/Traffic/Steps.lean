import OrderFlow.Proofs.Checkout.Moves
import OrderFlow.Proofs.Delivery.Moves
import OrderFlow.Proofs.Order.Moves
import OrderFlow.Proofs.Outbox.Moves
import OrderFlow.Proofs.Traffic.Basic

/-!
What one event can do to the traffic. Each thing that is under way moves as its own service has it
(`Doing.Move`), on the desk that the shop has for that service; `Traffic.step_cases` puts this
together with the other events, so that an invariant is kept by every event as soon as it is kept by
every move and by every change of the weather (`Traffic.run_keeps`).
-/
namespace OrderFlow

variable {_ : EmailCheck}

namespace Shop

/-- The desk of the checkout service. -/
def checkoutDesk (s : Shop) : CheckoutDesk := ⟨s.around, s.ledger, s.carts, s.checkoutNotified⟩

/-- The shop with another desk of the checkout service. -/
def withCheckoutDesk (s : Shop) (d : CheckoutDesk) : Shop :=
  { s with
    around := d.around, ledger := d.ledger, carts := d.carts, checkoutNotified := d.notified }

/-- The desk of the order service. -/
def orderDesk (s : Shop) : OrderDesk :=
  ⟨s.around, s.book, s.broker, s.gateway, s.breaker, s.ordersNotified, []⟩

/-- The shop with another desk of the order service. -/
def withOrderDesk (s : Shop) (d : OrderDesk) : Shop :=
  { s with
    around := d.around, book := d.book, broker := d.broker, gateway := d.gateway
    breaker := d.breaker, ordersNotified := d.notified
    tasks := s.tasks ++ d.dispatched.map (.reading .charge) }

/-- The outbox of a service. -/
def outbox (s : Shop) : Side → Outbox.Table
  | .checkout => s.ledger.outbox
  | .orders => s.book.outbox

/-- The desk of the publisher of a service. -/
def outboxDesk (s : Shop) : Side → Outbox.Desk
  | .checkout => ⟨s.around, s.ledger.outbox, s.broker, s.checkoutNotified⟩
  | .orders => ⟨s.around, s.book.outbox, s.broker, s.ordersNotified⟩

/-- The shop with another desk of the publisher of a service. -/
def withOutboxDesk (s : Shop) (d : Outbox.Desk) : Side → Shop
  | .checkout =>
    { s with
      around := d.around, ledger := { s.ledger with outbox := d.table }, broker := d.broker
      checkoutNotified := d.notified }
  | .orders =>
    { s with
      around := d.around, book := { s.book with outbox := d.table }, broker := d.broker
      ordersNotified := d.notified }

variable {α : Type} {s : Shop}

theorem atCheckout_yields {f : StateM CheckoutDesk α} {P : α → CheckoutDesk → Prop}
    (yields : Yields f s.checkoutDesk P) :
    Yields (atCheckout f) s fun a s' => ∃ d, s' = s.withCheckoutDesk d ∧ P a d :=
  ⟨_, rfl, yields⟩

theorem atOrders_yields {f : StateM OrderDesk α} {P : α → OrderDesk → Prop}
    (yields : Yields f s.orderDesk P) :
    Yields (atOrders f) s fun a s' => ∃ d, s' = s.withOrderDesk d ∧ P a d :=
  ⟨_, rfl, yields⟩

theorem atCheckoutOutbox_yields {f : StateM Outbox.Desk α} {P : α → Outbox.Desk → Prop}
    (yields : Yields f (s.outboxDesk .checkout) P) :
    Yields (atCheckoutOutbox f) s fun a s' => ∃ d, s' = s.withOutboxDesk d .checkout ∧ P a d :=
  ⟨_, rfl, yields⟩

theorem atOrderOutbox_yields {f : StateM Outbox.Desk α} {P : α → Outbox.Desk → Prop}
    (yields : Yields f (s.outboxDesk .orders) P) :
    Yields (atOrderOutbox f) s fun a s' => ∃ d, s' = s.withOutboxDesk d .orders ∧ P a d :=
  ⟨_, rfl, yields⟩

end Shop

namespace Doing

/-- What something under way may do next: what it becomes, and the shop that it leaves behind. -/
inductive Move [EmailCheck] (cfg : Shop.Config) (s : Shop) : Doing → Doing → Shop → Prop where
  | checkout {key : String} {request : CheckoutRequest} {p p' : Checkout.Phase} {d : CheckoutDesk}
      (move : Checkout.Move cfg.keep s.checkoutDesk d p p') :
      Move cfg s (.checkout key request p) (.checkout key request p') (s.withCheckoutDesk d)
  | cleans {d : CheckoutDesk}
      (does : Checkout.Aside s.checkoutDesk d ∨
        s.checkoutDesk.Writes d (s.ledger.sweep s.around.now).2) :
      Move cfg s .cleaning .gone (s.withCheckoutDesk d)
  | batch {side : Side} {b b' : Outbox.Batch} {d : Outbox.Desk}
      (move : Outbox.Move cfg.outbox (s.outboxDesk side) d b b') :
      Move cfg s (.batch side b) (.batch side b') (s.withOutboxDesk d side)
  | delivery {m : Message} {p p' : Delivery.Phase} {d : OrderDesk}
      (move : Delivery.Move m s.orderDesk d p p') :
      Move cfg s (.delivery m p) (.delivery m p') (s.withOrderDesk d)
  | attempt {p p' : Payment.Phase} {d : OrderDesk}
      (move : Payment.Move cfg.payment s.orderDesk d p p') :
      Move cfg s (.attempt p) (.attempt p') (s.withOrderDesk d)
  | sweep {w w' : Payment.Sweep} {d : OrderDesk}
      (move : Payment.Sweep.Move cfg.payment s.orderDesk d w w') :
      Move cfg s (.sweep w) (.sweep w') (s.withOrderDesk d)
  | change {id : Uuid} {wish : Wish} {p p' : OrderService.Phase} {d : OrderDesk}
      (move : OrderService.Move id wish.target s.orderDesk d p p') :
      Move cfg s (.change id wish p) (.change id wish p') (s.withOrderDesk d)
  | applies {o : PaymentOutcome} {d : OrderDesk} {r : Except OrderError Settlement}
      (does : s.orderDesk.Settles d o r) : Move cfg s (.applying o) .gone (s.withOrderDesk d)
  | rests : Move cfg s .gone .gone s

/-- Something that asks of the orders only what they may become. -/
def IsSound : Doing → Prop
  | attempt p => p.IsSound
  | sweep w => ∀ p, w.attempt? = some p → p.IsSound
  | change _ wish p => p.IsSound wish.target
  | _ => True

theorem step_moves (cfg : Shop.Config) {d : Doing} (sound : d.IsSound) (s : Shop) :
    Yields (d.step cfg) s fun d' s' => Move cfg s d d' s' := by
  cases d with
  | checkout key request p =>
    refine (Shop.atCheckout_yields (p.step_moves cfg.keep _)).bind ?_
    rintro p' _ ⟨d, rfl, move⟩
    exact .returned (.checkout move)
  | cleaning =>
    refine (Shop.atCheckout_yields (Checkout.sweep_yields _)).bind ?_
    rintro n _ ⟨d, rfl, does⟩
    exact .returned (.cleans does)
  | batch side b =>
    cases side with
    | checkout =>
      refine (Shop.atCheckoutOutbox_yields (b.step_moves cfg.outbox _)).bind ?_
      rintro b' _ ⟨d, rfl, move⟩
      exact .returned (.batch move)
    | orders =>
      refine (Shop.atOrderOutbox_yields (b.step_moves cfg.outbox _)).bind ?_
      rintro b' _ ⟨d, rfl, move⟩
      exact .returned (.batch move)
  | delivery m p =>
    refine (Shop.atOrders_yields (p.step_moves cfg.delivery m _)).bind ?_
    rintro p' _ ⟨d, rfl, move⟩
    exact .returned (.delivery move)
  | attempt p =>
    refine (Shop.atOrders_yields (p.step_moves cfg.payment sound _)).bind ?_
    rintro p' _ ⟨d, rfl, move⟩
    exact .returned (.attempt move)
  | sweep w =>
    refine (Shop.atOrders_yields (w.step_moves cfg.payment cfg.recovery sound _)).bind ?_
    rintro w' _ ⟨d, rfl, move⟩
    exact .returned (.sweep move)
  | change id wish p =>
    refine (Shop.atOrders_yields (p.step_moves id sound _)).bind ?_
    rintro p' _ ⟨d, rfl, move⟩
    exact .returned (.change move)
  | applying o =>
    refine (Shop.atOrders_yields (OrderDesk.finalize_yields o _)).bind ?_
    rintro r _ ⟨d, rfl, does⟩
    exact .returned (.applies does)
  | gone => exact .returned .rests

theorem plain_of_same {s : Shop} {d : OrderDesk} (plain : s.gateway.IsPlain)
    (same : d.gateway = s.orderDesk.gateway) : (s.withOrderDesk d).gateway.IsPlain := by
  show Gateway.IsPlain d.gateway
  rw [same]
  exact plain

/-- A move leaves something sound behind and a plain gateway; what it dispatches begins at the
beginning. -/
theorem Move.sound {cfg : Shop.Config} {s s' : Shop} {d d' : Doing} (move : d.Move cfg s d' s')
    (plain : s.gateway.IsPlain) :
    d'.IsSound ∧ s'.gateway.IsPlain ∧
      ∀ p ∈ s'.tasks, p ∈ s.tasks ∨ ∃ id, p = .reading .charge id := by
  have none_new {d : OrderDesk} (dispatched : d.dispatched = []) (p : Payment.Phase)
      (task : p ∈ (s.withOrderDesk d).tasks) : p ∈ s.tasks ∨ ∃ id, p = .reading .charge id := by
    simp only [Shop.withOrderDesk, dispatched, List.map_nil, List.append_nil] at task
    exact .inl task
  cases move with
  | checkout | cleans | rests => exact ⟨trivial, plain, fun _ task => .inl task⟩
  | @batch side => cases side <;> exact ⟨trivial, plain, fun _ task => .inl task⟩
  | delivery move =>
    refine ⟨trivial, plain_of_same plain move.gateway, fun p task => ?_⟩
    simp only [Shop.withOrderDesk, List.mem_append, List.mem_map] at task
    exact task.imp_right fun ⟨id, _, same⟩ => ⟨id, same.symm⟩
  | attempt move =>
    obtain ⟨sound, plain, dispatched⟩ := move.sound plain
    exact ⟨sound, plain, none_new dispatched⟩
  | sweep move =>
    obtain ⟨sound, plain, dispatched⟩ := move.sound plain
    exact ⟨sound, plain, none_new dispatched⟩
  | change move =>
    obtain ⟨_, writes⟩ := move.writes
    exact ⟨move.sound, plain_of_same plain writes.gateway, none_new writes.dispatched⟩
  | applies does =>
    obtain ⟨_, writes⟩ := does.writes
    exact ⟨trivial, plain_of_same plain writes.gateway, none_new writes.dispatched⟩

/-- Time stands still while something moves. -/
theorem Move.follows {cfg : Shop.Config} {s s' : Shop} {d d' : Doing}
    (move : d.Move cfg s d' s') : s.around.Follows s'.around := by
  cases move with
  | checkout move => exact move.follows
  | cleans does => exact does.elim (·.around) (·.around)
  | @batch side _ _ _ move => cases side <;> exact move.follows
  | delivery move => exact move.follows
  | attempt move => exact move.follows
  | sweep move => exact move.follows
  | change move =>
    obtain ⟨_, writes⟩ := move.writes
    exact writes.around
  | applies does =>
    obtain ⟨_, writes⟩ := does.writes
    exact writes.around
  | rests => exact .refl _

end Doing

namespace Traffic
variable {cfg : Shop.Config} {t t' : Traffic} {e : Event}

/-- What becomes of the traffic when a doing has done its next thing. -/
def acted (t : Traffic) (doer : Nat) (d d' : Doing) (later : Shop) : Traffic where
  shop := { later with tasks := [] }
  doings := t.doings.set doer d' ++ later.tasks.map .attempt
  past := t.past ++ [⟨doer, t.runOf doer d, d, d', t.shop, later⟩]

/-- What is under way after a doing has done its next thing: what it has become, what was under way
before, and what it has dispatched. -/
theorem doings_acted {doer m : Nat} {d d' e : Doing} {later : Shop}
    (under : (t.acted doer d d' later).doings[m]? = some e) :
    (m = doer ∧ e = d') ∨ (m ≠ doer ∧ t.doings[m]? = some e) ∨
      ∃ p ∈ later.tasks, e = .attempt p := by
  have under : (t.doings.set doer d' ++ later.tasks.map Doing.attempt)[m]? = some e := under
  rw [List.getElem?_append] at under
  split at under
  · rw [List.getElem?_set] at under
    split at under
    · next same =>
      split at under
      · exact .inl ⟨same.symm, (Option.some.inj under).symm⟩
      · cases under
    · next other => exact .inr (.inl ⟨Ne.symm other, under⟩)
  · obtain ⟨p, task, rfl⟩ := List.mem_map.mp (List.mem_of_getElem? under)
    exact .inr (.inr ⟨p, task, rfl⟩)

theorem mem_doings_acted {doer : Nat} {d d' e : Doing} {later : Shop}
    (member : e ∈ (t.acted doer d d' later).doings) :
    e ∈ t.doings ∨ e = d' ∨ ∃ p ∈ later.tasks, e = .attempt p := by
  obtain ⟨m, under⟩ := List.mem_iff_getElem?.mp member
  rcases doings_acted under with ⟨-, same⟩ | ⟨-, before⟩ | dispatched
  · exact .inr (.inl same)
  · exact .inl (List.mem_of_getElem? before)
  · exact .inr (.inr dispatched)

theorem forall_begun {P : Doing → Prop} {doings : List Doing} (kept : ∀ d ∈ doings, P d) {c : Call}
    (begun : P c.doing) : ∀ d ∈ doings ++ [c.doing], P d :=
  List.forall_mem_append.mpr ⟨kept, List.forall_mem_singleton.mpr begun⟩

theorem forall_ended {P : Doing → Prop} {doings : List Doing} (kept : ∀ d ∈ doings, P d)
    (gone : P .gone) (doer : Nat) : ∀ d ∈ doings.set doer .gone, P d := by
  intro d member
  rcases List.mem_or_eq_of_mem_set member with old | rfl
  · exact kept d old
  · exact gone

/-- A delivery reads its message. -/
theorem step_reads (cfg : Shop.Config) (doer : Nat) {m : Message} {event : Incoming}
    (under : t.doings[doer]? = some (.delivery m .reading))
    (received : Incoming.ofMessage m = .ok event) :
    t.step cfg (.advance doer) =
      t.acted doer (.delivery m .reading) (.delivery m (.trying {} event)) t.shop := by
  have reads : ((Doing.delivery m .reading).step cfg).run t.shop =
      (.delivery m (.trying {} event), { t.shop with tasks := t.shop.tasks ++ [] }) := by
    simp only [Doing.step, Delivery.Phase.step, received]
    rfl
  rw [List.append_nil] at reads
  have ready : (Doing.delivery m .reading).isReady t.shop.around.now = true := rfl
  simp only [step, under, if_pos ready, act, reads]
  rfl

/-- What one event may do. -/
inductive Step [EmailCheck] (cfg : Shop.Config) (t : Traffic) : Event → Traffic → Prop where
  | rests (doer : Nat) : Step cfg t (.advance doer) t
  | begins (c : Call) : Step cfg t (.call c) { t with doings := t.doings ++ [c.doing] }
  | ends (doer : Nat) : Step cfg t (.abandon doer) { t with doings := t.doings.set doer .gone }
  | weather (w : Weather) : Step cfg t (.change w) { t with shop := w.over t.shop }
  | acts {doer : Nat} {d d' : Doing} {later : Shop} (under : t.doings[doer]? = some d)
      (ready : d.isReady t.shop.around.now = true) (move : d.Move cfg t.shop d' later) :
      Step cfg t (.advance doer) (t.acted doer d d' later)

/-- Traffic in which everything asks of the orders only what they may become. -/
structure IsSound (t : Traffic) : Prop where
  gateway : t.shop.gateway.IsPlain
  doings : ∀ d ∈ t.doings, d.IsSound
  tasks : t.shop.tasks = []

/-- What a move dispatches begins at the beginning. -/
theorem IsSound.dispatched (sound : t.IsSound) {d d' : Doing} {later : Shop}
    (move : d.Move cfg t.shop d' later) {p : Payment.Phase} (task : p ∈ later.tasks) :
    ∃ id, p = .reading .charge id := by
  refine ((move.sound sound.gateway).2.2 p task).resolve_left fun old => ?_
  rw [sound.tasks] at old
  cases old

theorem step_cases (cfg : Shop.Config) (sound : t.IsSound) (e : Event) :
    Step cfg t e (t.step cfg e) := by
  cases e with
  | call c => exact .begins c
  | abandon doer => exact .ends doer
  | change w => exact .weather w
  | advance doer =>
    simp only [step]
    split
    · exact .rests doer
    · next d under =>
      split
      · next ready =>
        have sound := sound.doings d (List.mem_of_getElem? under)
        exact .acts under ready (Doing.step_moves cfg sound t.shop)
      · exact .rests doer

/-- Sound traffic stays sound. -/
theorem IsSound.step (sound : t.IsSound) (step : Step cfg t e t') : t'.IsSound := by
  cases step with
  | rests => exact sound
  | begins c =>
    refine ⟨sound.gateway, forall_begun sound.doings ?_, sound.tasks⟩
    cases c with
    | recover => exact fun p under => nomatch under
    | _ => trivial
  | ends doer => exact ⟨sound.gateway, forall_ended sound.doings trivial doer, sound.tasks⟩
  | weather w =>
    refine ⟨fun entry member => ?_, sound.doings, sound.tasks⟩
    obtain ⟨_, _, rfl⟩ := List.mem_map.mp member
    rfl
  | @acts doer d d' later under ready move =>
    obtain ⟨moved, plain, -⟩ := move.sound sound.gateway
    refine ⟨plain, fun e member => ?_, rfl⟩
    rcases mem_doings_acted member with old | rfl | ⟨p, task, rfl⟩
    · exact sound.doings e old
    · exact moved
    · obtain ⟨id, rfl⟩ := sound.dispatched move task
      trivial

theorem opening_isSound (around : Surroundings) (stock : Assoc Uuid Int)
    (sequences : Assoc CalendarDay Int) : (opening around stock sequences).IsSound :=
  ⟨(fun _ member => nomatch member), (fun _ member => nomatch member), rfl⟩

/-- A condition holds of every event of a run, in the traffic in which it happens. -/
def Along [EmailCheck] (cfg : Shop.Config) (Q : Traffic → Event → Prop) :
    Traffic → List Event → Prop
  | _, [] => True
  | t, e :: events => Q t e ∧ Along cfg Q (t.step cfg e) events

instance decidableAlong [EmailCheck] (cfg : Shop.Config) {Q : Traffic → Event → Prop}
    [∀ t e, Decidable (Q t e)] : ∀ t events, Decidable (Along cfg Q t events)
  | _, [] => .isTrue trivial
  | t, e :: events =>
    have := decidableAlong cfg (Q := Q) (t.step cfg e) events
    inferInstanceAs (Decidable (Q t e ∧ Along cfg Q (t.step cfg e) events))

theorem along_of_forall {cfg : Shop.Config} {Q : Event → Prop} {events : List Event} {t : Traffic}
    (holds : ∀ e ∈ events, Q e) : Along cfg (fun _ e => Q e) t events := by
  induction events generalizing t with
  | nil => trivial
  | cons e events ih =>
    obtain ⟨here, later⟩ := List.forall_mem_cons.mp holds
    exact ⟨here, ih later⟩

theorem along_append {cfg : Shop.Config} {Q : Traffic → Event → Prop} {t : Traffic}
    (events more : List Event) : Along cfg Q t (events ++ more) ↔
      Along cfg Q t events ∧ Along cfg Q (t.run cfg events) more := by
  induction events generalizing t with
  | nil => exact (true_and _).to_iff.symm
  | cons e events ih =>
    show Q t e ∧ Along cfg Q (t.step cfg e) (events ++ more) ↔ (Q t e ∧ _) ∧ _
    rw [ih, and_assoc]
    rfl

/-- What every event keeps holds after every run. -/
theorem run_keeps {P : Traffic → Prop} {Q : Traffic → Event → Prop} {events : List Event}
    (sound : t.IsSound) (holds : P t) (along : Along cfg Q t events)
    (keeps : ∀ t e t', t.IsSound → P t → Q t e → Step cfg t e t' → P t') :
    P (t.run cfg events) := by
  induction events generalizing t with
  | nil => exact holds
  | cons e events ih =>
    have step : Step cfg t e (t.step cfg e) := step_cases cfg sound e
    exact ih (sound.step step) (keeps t e _ sound holds along.1 step) along.2

/-- What every step keeps holds after every run. -/
theorem run_keeps_all {P : Traffic → Prop} {events : List Event} (sound : t.IsSound) (holds : P t)
    (keeps : ∀ t e t', t.IsSound → P t → Step cfg t e t' → P t') : P (t.run cfg events) := by
  induction events generalizing t with
  | nil => exact holds
  | cons e events ih =>
    have step : Step cfg t e (t.step cfg e) := step_cases cfg sound e
    exact ih (sound.step step) (keeps t e _ sound holds step)

theorem IsSound.run (sound : t.IsSound) (events : List Event) : (t.run cfg events).IsSound :=
  run_keeps_all sound sound fun _ _ _ sound _ step => sound.step step

end Traffic

end OrderFlow
