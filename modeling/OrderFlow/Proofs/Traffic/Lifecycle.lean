import Mathlib.Data.List.Chain
import OrderFlow.Proofs.Order.Lifecycle
import OrderFlow.Proofs.Traffic.Entries

/-!
The lives of the orders in traffic. However the doings come between each other, the statuses of an
order begin with `pending` and follow each other as the table of steps has it, only an outcome of
its own payment takes it two steps at once, and what is done for one order leaves all others and
their payments alone (`orders_live_by_the_table`).
-/
namespace OrderFlow

variable {_ : EmailCheck}

/-- The order that an event is about. -/
def Incoming.orderId : Incoming → Uuid
  | .orderCreated e => e.orderId
  | .paymentCompleted e => e.orderId

namespace OrderDesk
variable {d d' : OrderDesk} {x : Uuid}

theorem Writes.spares (aside : Aside d d') (x : Uuid) : d.book.Spares d'.book x :=
  aside.book ▸ .refl _ x

theorem Settles.spares {o : PaymentOutcome} {r : Except OrderError Settlement}
    (does : Settles d d' o r) (other : o.orderId ≠ x) : d.book.Spares d'.book x := by
  rcases does with ⟨_, aside⟩ | ⟨s, book, applied, _, writes⟩
  · exact aside.spares x
  · rw [writes.book]
    exact OrderBook.spares_finalize applied other

end OrderDesk

namespace Payment

/-- The order that an attempt is made for. -/
def Phase.order? : Phase → Option Uuid
  | .reading _ id => some id
  | .readingPayment _ order | .claiming order _ => some order.id
  | .asking c | .pausing c _ | .calling c .. | .hanging c _ => some c.request.orderId
  | .settling o _ | .pausingToSettle o _ _ => some o.orderId
  | .done _ => none

variable {cfg : Config} {d d' : OrderDesk} {p p' : Phase} {x y : Uuid}

theorem Phase.order?_of_asks {c : Charge} (asks : p.asks? = some c) :
    p.order? = some c.request.orderId := by
  cases p <;> cases asks <;> rfl

theorem Phase.order?_of_awaits {c : Charge} (awaits : p.awaits? = some c) :
    p.order? = some c.request.orderId := by
  cases p <;> cases awaits <;> rfl

theorem Phase.order?_of_settles {o : PaymentOutcome} (settles : p.settles? = some o) :
    p.order? = some o.orderId := by
  cases p <;> cases settles <;> rfl

theorem Move.spares (move : Move cfg d d' p p') (other : p.order? ≠ some x) :
    d.book.Spares d'.book x := by
  cases move with
  | quits _ _ aside | finds _ aside | prepares _ _ aside | expires _ _ _ aside | refused _ _ aside
  | hangs _ aside | confirmed _ _ _ aside | pauses _ _ _ _ aside | givesUp _ _ _ aside
  | breaksOff _ _ _ _ _ aside | rests aside => exact aside.spares x
  | claims _ _ writes =>
    rw [writes.book]
    exact OrderBook.spares_put (fun same => other (congrArg some same)) _
  | calls _ calls =>
    rw [calls.book]
    exact .refl _ x
  | settled settles does | waitsToSettle settles does | failsToSettle settles does =>
    rw [Phase.order?_of_settles settles] at other
    exact does.spares fun same => other (congrArg some same)

/-- An attempt stays with its order. -/
theorem Move.order (move : Move cfg d d' p p') (indexed : d.book.IsIndexed)
    (own : p.order? = some x) (next : p'.order? = some y) : y = x := by
  have kept (same : p'.order? = p.order?) : y = x :=
    Option.some.inj ((next.symm.trans same).trans own)
  cases move with
  | quits | breaksOff | settled | failsToSettle | rests => cases next
  | @finds purpose id order found =>
    exact kept (congrArg some (indexed.ofOrder id order found))
  | prepares | expires | claims | hangs => exact kept rfl
  | calls asks | refused asks => exact kept (Phase.order?_of_asks asks).symm
  | confirmed awaits | pauses awaits | givesUp awaits =>
    exact kept (Phase.order?_of_awaits awaits).symm
  | waitsToSettle settles => exact kept (Phase.order?_of_settles settles).symm

end Payment

theorem OrderService.Move.spares {id x : Uuid} {target : OrderStatus} {d d' : OrderDesk}
    {p p' : OrderService.Phase} (move : OrderService.Move id target d d' p p') (other : id ≠ x) :
    d.book.Spares d'.book x := by
  cases move with
  | reads _ _ aside | refuses aside | loses aside | fails aside | shows aside | tells aside
  | rests aside => exact aside.spares x
  | swaps _ _ writes =>
    rw [writes.book]
    exact OrderBook.spares_put other _

namespace Delivery

/-- The order that the event of a delivery is about, as soon as it has been read. -/
def Phase.order? (p : Phase) : Option Uuid := p.event?.map (·.orderId)

variable {m : Message} {d d' : OrderDesk} {p p' : Phase} {x y : Uuid}

theorem Move.spares (move : Move m d d' p p') (other : p.order? ≠ some x) :
    d.book.Spares d'.book x := by
  cases move with
  | reads _ aside | misreads _ aside | knows _ aside | goesOn aside | repeats aside
  | fails _ _ aside | wakes aside | rests aside => exact aside.spares x
  | enters enters =>
    obtain ⟨lineIds, id, _, rfl, entered⟩ := enters.entered
    exact OrderBook.spares_create entered fun same => other (congrArg some same)
  | reconciles does | failsToReconcile _ does =>
    exact does.spares fun same => other (congrArg some same)
  | buries _ sends =>
    rw [sends.book]
    exact .refl _ x

/-- A delivery stays with its event. -/
theorem Move.order (move : Move m d d' p p') (own : p.order? = some x)
    (next : p'.order? = some y) : y = x := by
  obtain ⟨event, deals, rfl⟩ := Option.map_eq_some_iff.mp own
  obtain ⟨event', deals', rfl⟩ := Option.map_eq_some_iff.mp next
  have kept (same : p.event? = some event') : event'.orderId = event.orderId := by
    cases deals.symm.trans same
    rfl
  cases move with
  | reads | buries => cases deals
  | misreads | knows | enters | repeats | reconciles | rests => cases deals'
  | goesOn => exact kept deals'
  | fails _ next => exact kept (next _ deals')
  | failsToReconcile next => exact kept (congrArg some (next _ deals').symm)
  | @wakes event failures => cases event <;> exact kept deals'

end Delivery

namespace Doing

/-- The order that is dealt with. -/
def order? : Doing → Option Uuid
  | attempt p => p.order?
  | sweep w => w.attempt?.bind (·.order?)
  | delivery _ p => p.order?
  | change id .. => some id
  | applying o => some o.orderId
  | checkout .. | cleaning | batch .. | gone => none

variable {cfg : Shop.Config} {s s' : Shop} {d d' : Doing} {x y : Uuid}

/-- **What is done for one order leaves all others alone.** -/
theorem Move.spares (move : d.Move cfg s d' s') (other : d.order? ≠ some x) :
    s.book.Spares s'.book x := by
  cases move with
  | checkout | cleans | rests => exact .refl _ x
  | @batch side => cases side <;> exact ⟨rfl, rfl⟩
  | delivery move => exact move.spares other
  | attempt move => exact move.spares other
  | sweep move =>
    cases move with
    | attempts under running move =>
      simp only [order?, under, Option.bind_some] at other
      exact move.spares other
    | turns ended idle aside => exact aside.spares x
  | change move => exact move.spares fun same => other (congrArg some same)
  | applies does => exact does.spares fun same => other (congrArg some same)

/-- What is begun for an order is not for another one later on. -/
theorem Move.order (move : d.Move cfg s d' s') (indexed : s.book.IsIndexed)
    (own : d.order? = some x) (next : d'.order? = some y) : y = x := by
  cases move with
  | checkout | cleans | batch | rests => cases own
  | delivery move => exact move.order own next
  | attempt move => exact move.order indexed own next
  | @sweep w w' _ move =>
    cases move with
    | @attempts p p' under running move =>
      have after := Payment.Sweep.attempt?_with under p'
      simp only [order?, under, after, Option.bind_some] at own next
      exact move.order indexed own next
    | turns ended idle aside =>
      obtain ⟨p, under, ofAttempt⟩ := Option.bind_eq_some_iff.mp own
      obtain ⟨result, rfl⟩ := p.isDone_iff.mp (ended p under)
      cases ofAttempt
  | change => exact Option.some.inj (next.symm.trans own)
  | applies => cases next

end Doing

/-- The status that something done has stored for an order, if that is another one than before. -/
def Happening.status? (x : Uuid) (h : Happening) : Option OrderStatus :=
  let before := (h.earlier.book.findOrder x).map (·.status)
  let after := (h.later.book.findOrder x).map (·.status)
  if after = before then none else after

/-- The statuses of an order, given what the book holds of it at the end: none as long as it is
unknown, and otherwise a way along the table from `pending` to the last one. -/
def Lived (statuses : List OrderStatus) : Option Order → Prop
  | none => statuses = []
  | some order => statuses.head? = some .pending ∧ statuses.getLast? = some order.status ∧
      statuses.IsChain OrderStatus.Leads

/-- One more thing is done. -/
theorem Lived.snoc {statuses : List OrderStatus} {h : Happening} {x : Uuid} {now : Instant}
    {o? : Option PaymentOutcome} {e? : Option OrderCreated}
    (lived : Lived statuses (h.earlier.book.findOrder x)) (indexed : h.earlier.book.IsIndexed)
    (change : OrderBook.Change now o? e? h.earlier.book h.later.book) :
    Lived (statuses ++ (h.status? x).toList) (h.later.book.findOrder x) := by
  unfold Happening.status?
  cases before : h.earlier.book.findOrder x with
  | none =>
    rw [before] at lived
    have lived : statuses = [] := lived
    rw [lived]
    cases after : h.later.book.findOrder x with
    | none => rfl
    | some order' =>
      have begins := change.begins before after
      exact ⟨congrArg some begins, rfl, .singleton _⟩
  | some order =>
    rw [before] at lived
    obtain ⟨first, last, chain⟩ := lived
    obtain ⟨order', after, _⟩ := change.order_stays before
    have steps := change.steps indexed before after
    simp only [after, Option.map_some, Option.some.injEq]
    split
    · next same =>
      rw [Option.toList_none, List.append_nil]
      exact ⟨first, same ▸ last, chain⟩
    · next changed =>
      have leads : order.status.Leads order'.status :=
        steps.leads.resolve_left fun same => changed (congrArg Order.status same)
      refine ⟨by rw [List.head?_append, first]; rfl, List.getLast?_append_cons .., ?_⟩
      refine List.isChain_append.mpr ⟨chain, .singleton _, fun s member s' member' => ?_⟩
      rw [last] at member
      cases member
      cases member'
      exact leads

namespace Traffic
variable {cfg : Shop.Config} {t t' : Traffic} {e : Event} {x : Uuid}

/-- The statuses that an order has had, the first one first. -/
def statuses (t : Traffic) (x : Uuid) : List OrderStatus := t.past.filterMap (·.status? x)

theorem statuses_acted (doer : Nat) (d d' : Doing) (later : Shop) :
    (t.acted doer d d' later).statuses x =
      t.statuses x ++ (Happening.status? x (t.news doer d d' later)).toList := by
  rw [statuses, acted, List.filterMap_append, List.filterMap_cons]
  cases Happening.status? x _ <;> rfl

/-- In every run all orders live by the table. -/
theorem run_lived [EmailCheck] (cfg : Shop.Config) (around : Surroundings) (stock : Assoc Uuid Int)
    (sequences : Assoc CalendarDay Int) (events : List Event) (x : Uuid) :
    let t := (opening around stock sequences).run cfg events
    Lived (t.statuses x) (t.shop.book.findOrder x) := by
  refine (run_keeps_all (t := opening around stock sequences)
    (P := fun t => t.shop.book.IsIndexed ∧ Lived (t.statuses x) (t.shop.book.findOrder x))
    (opening_isSound around stock sequences) ⟨OrderBook.isIndexed_empty, rfl⟩ ?_).2
  rintro t e t' - ⟨indexed, lived⟩ step
  cases step with
  | rests | begins | ends | weather => exact ⟨indexed, lived⟩
  | @acts doer d d' later under ready move =>
    refine ⟨indexed.change move.changes, ?_⟩
    rw [statuses_acted]
    exact lived.snoc (h := t.news doer d d' later) indexed move.changes

/-- Whatever is done later, an order in a final state stays as it is. -/
theorem run_final_stays (sound : t.IsSound) (indexed : t.shop.book.IsIndexed) (events : List Event)
    {order : Order} (found : t.shop.book.findOrder x = some order)
    (final : order.status.isFinal = true) :
    (t.run cfg events).shop.book.findOrder x = some order := by
  refine (run_keeps_all (t := t)
    (P := fun t => t.shop.book.IsIndexed ∧ t.shop.book.findOrder x = some order)
    sound ⟨indexed, found⟩ ?_).2
  rintro t e t' - ⟨indexed, found⟩ step
  obtain ⟨o?, e?, change⟩ := step.book
  exact ⟨indexed.change change, change.final_stays indexed found final⟩

/-- Whatever is done later, an order that has left `pending` does not come back to it. -/
theorem run_leaves_pending (sound : t.IsSound) (events : List Event) {order order' : Order}
    (found : t.shop.book.findOrder x = some order) (left : order.status ≠ .pending)
    (later : (t.run cfg events).shop.book.findOrder x = some order') :
    order'.status ≠ .pending := by
  have kept : ∃ order, (t.run cfg events).shop.book.findOrder x = some order ∧
      order.status ≠ .pending := by
    refine run_keeps_all (P := fun t => ∃ order, t.shop.book.findOrder x = some order ∧
      order.status ≠ .pending) sound ⟨order, found, left⟩ ?_
    rintro t e t' - ⟨order, found, left⟩ step
    obtain ⟨o?, e?, change⟩ := step.book
    obtain ⟨order', after, _⟩ := change.order_stays found
    exact ⟨order', after, change.leaves_pending found after left⟩
  obtain ⟨order'', found', left'⟩ := kept
  cases later.symm.trans found'
  exact left'

/-- **Orders live by the table of steps.** The statuses of an order begin with `pending` and end
with the one that it has. Whatever is done takes an order one step further, or settles it with the
outcome that is being applied, straight from `pending` if it has to; what is done for one order
leaves every other and its payment alone, and nothing that is under way turns from one order to
another. Later on an order has changed in nothing but its status and the time of its last change, in
nothing at all if it was in a final state, and it has not come back to `pending`. -/
theorem orders_live_by_the_table [EmailCheck] (cfg : Shop.Config) (around : Surroundings)
    (stock : Assoc Uuid Int) (sequences : Assoc CalendarDay Int) (events : List Event) :
    let t := (opening around stock sequences).run cfg events
    (∀ x, Lived (t.statuses x) (t.shop.book.findOrder x)) ∧
    (∀ h ∈ t.past, ∀ x,
      (∀ order order', h.earlier.book.findOrder x = some order →
        h.later.book.findOrder x = some order' →
        order.Steps h.earlier.around.now h.before.outcome? order') ∧
      (h.before.order? ≠ some x → h.earlier.book.Spares h.later.book x) ∧
      ∀ y, h.before.order? = some x → h.after.order? = some y → y = x) ∧
    ∀ more x order, t.shop.book.findOrder x = some order →
      ∃ order', (t.run cfg more).shop.book.findOrder x = some order' ∧ order.Becomes order' ∧
        (order.status.isFinal = true → order' = order) ∧
        (order.status ≠ .pending → order'.status ≠ .pending) := by
  intro t
  have entered : t.IsEntered := run_isEntered cfg around stock sequences events
  have continuous : t.IsContinuous cfg := run_isContinuous cfg around stock sequences events
  have sound : t.IsSound := (opening_isSound around stock sequences).run events
  refine ⟨run_lived cfg around stock sequences events, fun h member x => ?_,
    fun more x order found => ?_⟩
  · have moved := continuous.moved h member
    have indexed := entered.always h member
    exact ⟨fun order order' => moved.changes.steps indexed, moved.spares,
      fun y => moved.order indexed⟩
  · obtain ⟨order', later, becomes⟩ := (run_kept sound entered.indexed more).1 x order found
    refine ⟨order', later, becomes, fun final => ?_,
      fun left => run_leaves_pending sound more found left later⟩
    exact Option.some.inj
      (later.symm.trans (run_final_stays sound entered.indexed more found final))

end Traffic

end OrderFlow
