import OrderFlow.Proofs.Order.Searches
import OrderFlow.Proofs.Payment.Quiet
import OrderFlow.Proofs.Retry.Waits
import OrderFlow.Proofs.Traffic.Lifecycle

/-!
What an attempt leaves behind where nothing hinders it and nobody else is about. `Tended` says what
was made of the book so far: no order has been left in process with its payment pending, apart from
the one that the attempt has taken up, and what was dealt with meanwhile is its own. Every phase
keeps this (`Tended.step`), leaves an order alone for which it has nothing to do
(`Phase.Leaves.step`), and comes to settle the order that it heads for (`Phase.Heads.step`).
-/
namespace OrderFlow

namespace Payment
open OrderDesk Surroundings
variable {cfg : Config} {d d' : OrderDesk} {p p' : Phase} {x : Uuid}

/-- As long as an attempt does not have to settle again, its end comes nearer. -/
theorem Move.left_lt (move : Move cfg d d' p p') (running : p.isDone = false) :
    p'.left cfg.policy < p.left cfg.policy ∨
      ∃ o retries wake, p' = .pausingToSettle o retries wake := by
  cases move with
  | quits early => exact .inl (by cases p <;> first | exact Nat.succ_pos _ | cases early)
  | finds | prepares => exact .inl (by simp only [Phase.left]; omega)
  | expires | claims => exact .inl (by simp only [Phase.left, chargingLeft]; omega)
  | calls asks => exact .inl (by cases p <;> cases asks <;> simp only [Phase.left] <;> omega)
  | refused asks =>
    exact .inl (by cases p <;> cases asks <;> simp only [Phase.left, chargingLeft] <;> omega)
  | hangs => exact .inl (by simp only [Phase.left]; omega)
  | confirmed awaits | givesUp awaits | breaksOff awaits =>
    exact .inl (by cases p <;> cases awaits <;> simp only [Phase.left, chargingLeft] <;> omega)
  | pauses awaits _ _ left =>
    exact .inl (by cases p <;> cases awaits <;> simp only [Phase.left, chargingLeft] <;> omega)
  | settled settles | failsToSettle settles =>
    exact .inl (by cases p <;> cases settles <;> simp only [Phase.left, settlingLeft] <;> omega)
  | waitsToSettle => exact .inr ⟨_, _, _, rfl⟩
  | rests => cases running

/-! ## Without mishaps -/

/-- The order that an attempt has taken up and not settled yet. -/
def Phase.holds? : Phase → Option Uuid
  | .asking c | .pausing c _ | .calling c .. | .hanging c _ => some c.request.orderId
  | .settling o _ | .pausingToSettle o _ _ => some o.orderId
  | .reading .. | .readingPayment .. | .claiming .. | .done _ => none

/-- What a sweep that has begun with the book `b₀` in the surroundings `a₀` has made of them, apart
from the order that it has taken up: nothing is left in process that was not so before. -/
structure Tended (a₀ : Surroundings) (b₀ : OrderBook) (d : OrderDesk) (held? : Option Uuid) :
    Prop where
  quiet : d.around.IsQuiet
  precedes : a₀.Precedes d.around
  indexed : d.book.IsIndexed
  filed : d.book.IsFiled
  accounts : ∀ x, ∃ applied, d.book.Account x applied
  length : d.book.orders.length = b₀.orders.length
  old : ∀ x order tx, held? ≠ some x → d.book.IsUnsettled x order tx → b₀.IsUnsettled x order tx
  known : ∀ id, d.book.isProcessed id = true →
    b₀.isProcessed id = true ∨ Fresh a₀ d.around id

/-- An order in the book `b` is in process and its payment pending. -/
def IsHeld (b : OrderBook) (x : Uuid) : Prop := ∃ order tx, b.IsUnsettled x order tx

/-- What holds at the desk while an attempt stands in a phase, if there is nobody else. -/
def Phase.Tends (a₀ : Surroundings) (d : OrderDesk) : Phase → Prop
  | .reading .. | .claiming .. => True
  | .readingPayment _ order => d.book.findOrder order.id = some order
  | .asking c | .pausing c _ | .calling c .. | .hanging c _ => IsHeld d.book c.request.orderId
  | .settling o _ =>
    IsHeld d.book o.orderId ∧ d.book.isProcessed o.eventId = false ∧
      Fresh a₀ d.around o.eventId ∧ -2 ^ 31 ≤ o.attempts ∧ o.attempts < 2 ^ 31
  | .pausingToSettle .. => False
  | p@(.done _) => p.isInRange = true

section
variable {a₀ : Surroundings} {b₀ : OrderBook} {held? : Option Uuid}

theorem Tended.change {now : Instant} {o? : Option PaymentOutcome} {held?' : Option Uuid}
    (tended : Tended a₀ b₀ d held?) (change : OrderBook.Change now o? none d.book d'.book)
    (follows : d.around.Follows d'.around) (quiet : d'.around.IsQuiet)
    (old : ∀ x order tx, held?' ≠ some x → d'.book.IsUnsettled x order tx →
      b₀.IsUnsettled x order tx)
    (known : ∀ id, d'.book.isProcessed id = true →
      d.book.isProcessed id = true ∨ Fresh a₀ d'.around id) :
    Tended a₀ b₀ d' held?' where
  quiet
  precedes := tended.precedes.trans follows.precedes
  indexed := tended.indexed.change change
  filed := tended.filed.change change
  accounts x := by
    choose applied accounts using tended.accounts
    exact ⟨_, OrderBook.Account.change accounts change x⟩
  length := by
    rcases change.keys with ⟨orders, -⟩ | ⟨_, _, _, enters, -⟩
    · have same := congrArg List.length orders
      simp only [Assoc.keys, List.length_map] at same
      exact same.trans tended.length
    · cases enters
  old := old
  known id dealt := by
    rcases known id dealt with before | fresh
    · exact (tended.known id before).imp_right fun fresh =>
        (Precedes.refl _).fresh fresh follows.precedes
    · exact .inr fresh

/-- Where the book stays as it is, everything is tended as before. -/
theorem Tended.unwritten {held?' : Option Uuid} (tended : Tended a₀ b₀ d held?)
    (unwritten : d'.book = d.book) (follows : d.around.Follows d'.around)
    (quiet : d'.around.IsQuiet) (held : ∀ x, held? = some x → held?' = some x) :
    Tended a₀ b₀ d' held?' := by
  have unchanged : OrderBook.Change d.around.now none none d.book d'.book := by
    rw [unwritten]
    exact .refl _ _ _ _
  refine tended.change unchanged follows quiet ?_ ?_
  · rw [unwritten]
    exact fun x order tx other => tended.old x order tx fun same => other (held x same)
  · rw [unwritten]
    exact fun id => .inl

/-- Whatever the time is, everything is tended as before. -/
theorem Tended.atTime (tended : Tended a₀ b₀ d held?) (now : Instant) :
    Tended a₀ b₀ { d with around := { d.around with now } } held? :=
  ⟨tended.quiet, ⟨tended.precedes.ids, tended.precedes.issued⟩, tended.indexed, tended.filed,
    tended.accounts, tended.length, tended.old, tended.known⟩

/-- A pending order that is taken up is the only one that is in process now and was not before. -/
theorem Tended.claimed {order : Order} {tx : PaymentTransaction} (tended : Tended a₀ b₀ d none)
    (found : d.book.findOrder x = some order) (pending : order.status = .pending)
    (ofPayment : d.book.findPayment x = some tx) (waits : tx.status = .pending)
    (written : d'.book = d.book.put x (order.withStatus .processing d.around.now))
    (follows : d.around.Follows d'.around) (quiet : d'.around.IsQuiet) :
    Tended a₀ b₀ d' (some x) ∧ IsHeld d'.book x := by
  have change : OrderBook.Change d.around.now none none d.book d'.book := by
    rw [written]
    exact .moves found (by rw [pending]; rfl) ⟨by decide, by decide⟩
  have claimed : d'.book.IsUnsettled x (order.withStatus .processing d.around.now) tx := by
    rw [written]
    exact ⟨by rw [OrderBook.findOrder_put, if_pos rfl], rfl, ofPayment, waits⟩
  refine ⟨tended.change change follows quiet ?_ ?_, _, _, claimed⟩
  · intro y order' tx' other unsettled
    have spared : d.book.Spares d'.book y :=
      written ▸ OrderBook.spares_put (fun same => other (congrArg some same)) _
    exact tended.old y order' tx' (Option.some_ne_none y).symm (unsettled.spared spared.symm)
  · rw [written]
    exact fun id => .inl

/-- The payment of an order that is not settled was never tried. -/
theorem Tended.untried (tended : Tended a₀ b₀ d held?) {x : Uuid} {order : Order}
    {tx : PaymentTransaction} (unsettled : d.book.IsUnsettled x order tx) : tx.attempts = 0 := by
  obtain ⟨_, account⟩ := tended.accounts x
  cases account with
  | unknown noOrder => cases noOrder.symm.trans unsettled.ofOrder
  | waiting _ ofPayment _ _ untried =>
    cases ofPayment.symm.trans unsettled.ofPayment
    exact untried
  | settled _ ofPayment _ _ result =>
    cases ofPayment.symm.trans unsettled.ofPayment
    exact absurd (result.symm.trans unsettled.pending) (PaymentStatus.ofResult_ne_pending _)

/-- An order that is pending has a payment that is pending. -/
theorem Tended.pending (tended : Tended a₀ b₀ d held?) {x : Uuid} {order : Order}
    (found : d.book.findOrder x = some order) (pending : order.status = .pending) :
    ∃ tx, d.book.findPayment x = some tx ∧ tx.status = .pending := by
  obtain ⟨_, account⟩ := tended.accounts x
  cases account with
  | unknown noOrder => cases noOrder.symm.trans found
  | waiting _ ofPayment _ waits => exact ⟨_, ofPayment, waits⟩
  | @settled _ _ o _ ofOrder _ _ _ result _ _ _ agrees =>
    cases ofOrder.symm.trans found
    rw [pending, result] at agrees
    revert agrees
    cases o.result <;> exact nofun

/-! ## One phase of an attempt -/

theorem Phase.Tends.asks {c : Charge} (tends : p.Tends a₀ d) (asks : p.asks? = some c) :
    IsHeld d.book c.request.orderId := by
  cases p <;> cases asks <;> exact tends

theorem Phase.Tends.awaits {c : Charge} (tends : p.Tends a₀ d) (awaits : p.awaits? = some c) :
    IsHeld d.book c.request.orderId := by
  cases p <;> cases awaits <;> exact tends

theorem Phase.Tends.settles {o : PaymentOutcome} (tends : p.Tends a₀ d)
    (settles : p.settles? = some o) :
    IsHeld d.book o.orderId ∧ d.book.isProcessed o.eventId = false ∧ Fresh a₀ d.around o.eventId ∧
      -2 ^ 31 ≤ o.attempts ∧ o.attempts < 2 ^ 31 := by
  cases p <;> cases settles <;> first | exact tends | exact tends.elim

theorem Phase.Tends.inRange {result : Result} (tends : (Phase.done result).Tends a₀ d) :
    Sweep.isOverflow result = false := by
  simpa [Phase.Tends, Phase.isInRange] using tends

theorem Phase.holds?_of_early (early : p.isEarly = true) : p.holds? = none := by
  cases p <;> first | rfl | cases early

theorem Phase.holds?_of_asks {c : Charge} (asks : p.asks? = some c) :
    p.holds? = some c.request.orderId := by
  cases p <;> cases asks <;> rfl

theorem Phase.holds?_of_awaits {c : Charge} (awaits : p.awaits? = some c) :
    p.holds? = some c.request.orderId := by
  cases p <;> cases awaits <;> rfl

theorem Phase.holds?_of_settles {o : PaymentOutcome} (settles : p.settles? = some o) :
    p.holds? = some o.orderId := by
  cases p <;> cases settles <;> rfl

/-- The outcome that an attempt has come to can be applied. -/
theorem Tended.settles (tended : Tended a₀ b₀ d held?) (tends : p.Tends a₀ d)
    {o : PaymentOutcome} (settles : p.settles? = some o) :
    ∃ s b' order tx tx', d.book.finalize o d.around.now = .ok (s, b') ∧
      OrderBook.Settled d.book b' o d.around.now order tx tx' := by
  obtain ⟨⟨order, tx, unsettled⟩, new, -, counted⟩ := tends.settles settles
  obtain ⟨s, b', tx', finalized⟩ :=
    unsettled.finalize (tended.untried unsettled) new counted d.around.now
  exact ⟨s, b', order, tx, tx', finalized⟩

/-- A payment that has been settled is out of the way. -/
theorem Tended.settled (tended : Tended a₀ b₀ d p.holds?) (tends : p.Tends a₀ d)
    {o : PaymentOutcome} (settles : p.settles? = some o) {s : Settlement}
    (does : Settles d d' o (.ok s)) (quiet : d'.around.IsQuiet) : Tended a₀ b₀ d' none := by
  obtain ⟨s', book, order, tx, tx', applied, settled⟩ := tended.settles tends settles
  have written := does.written applied
  refine tended.change does.changes written.around quiet ?_ ?_
  · rw [written.book]
    intro x order' tx'' _ unsettled
    by_cases same : o.orderId = x
    · have ofPayment := unsettled.ofPayment
      rw [settled.findPayment, if_pos same] at ofPayment
      cases ofPayment
      exact absurd unsettled.pending settled.not_pending
    · refine tended.old x order' tx'' ?_ ⟨?_, unsettled.processing, ?_, unsettled.pending⟩
      · rw [Phase.holds?_of_settles settles]
        exact fun held => same (Option.some.inj held)
      · rw [← unsettled.ofOrder, settled.findOrder, if_neg same]
      · rw [← unsettled.ofPayment, settled.findPayment, if_neg same]
  · intro id known
    obtain ⟨-, -, fresh, -⟩ := tends.settles settles
    rw [written.book, settled.isProcessed] at known
    split at known
    · next same =>
      subst same
      exact .inr ((Precedes.refl _).fresh fresh written.around.precedes)
    · exact .inl known

/-- **One phase of an attempt leaves nothing behind**, where nothing hinders it. -/
theorem Tended.step (tended : Tended a₀ b₀ d p.holds?) (tends : p.Tends a₀ d)
    (move : Move cfg d d' p p') (free : Unhindered d.book d.around.now p p')
    (quiet : d'.around.IsQuiet) (drawable : cfg.policy.retry.IsDrawable)
    (new : ∀ id, Fresh d.around d'.around id → d.book.isProcessed id = false) :
    Tended a₀ b₀ d' p'.holds? ∧ p'.Tends a₀ d' := by
  have aside (aside : Aside d d') (held : ∀ x, p.holds? = some x → p'.holds? = some x) :=
    tended.unwritten aside.book aside.around quiet held
  have idle (same : Aside d d') (nothing : p.holds? = none) : Tended a₀ b₀ d' p'.holds? := by
    refine aside same fun x held => ?_
    rw [nothing] at held
    cases held
  have concluded {o : PaymentOutcome} {n : Nat} (aside : Aside d d')
      (held : IsHeld d.book o.orderId) (fresh : Fresh d.around d'.around o.eventId)
      (counted : o.attempts = counter n) : (Phase.settling o 0).Tends a₀ d' := by
    show IsHeld d'.book o.orderId ∧ d'.book.isProcessed o.eventId = false ∧ _
    rw [aside.book, counted]
    exact ⟨held, new _ fresh, tended.precedes.fresh fresh (.refl _), counter_range n⟩
  -- The outcome that an attempt comes to can be applied, so it is applied at the first try.
  cases move with
  | quits early _ same =>
    exact ⟨idle same (Phase.holds?_of_early early), free.inRange early⟩
  | @finds purpose id order found same =>
    refine ⟨idle same rfl, ?_⟩
    have named := tended.indexed.ofOrder id order found
    show d'.book.findOrder order.id = some order
    rw [same.book, named, found]
  | prepares _ _ same => exact ⟨idle same rfl, trivial⟩
  | @expires order payment eventId found unpaid fresh same =>
    simp only [isOpen, Bool.and_eq_true, decide_eq_true_eq] at unpaid
    have held : IsHeld d.book order.id := ⟨order, payment, tends, unpaid.2, found, unpaid.1⟩
    exact ⟨idle same rfl, concluded same held fresh (counter_of_lt (by decide)).symm⟩
  | @claims order current payment found pending writes =>
    obtain ⟨tx, ofPayment, waits⟩ := tended.pending found pending
    obtain ⟨claimed, held⟩ :=
      tended.claimed found pending ofPayment waits writes.book writes.around quiet
    exact ⟨claimed, held⟩
  | calls asks calls =>
    have unwritten : d'.book = d.book := calls.book
    refine ⟨tended.unwritten unwritten calls.around quiet fun x => ?_, ?_⟩
    · exact (Phase.holds?_of_asks asks).symm.trans
    · have held := tends.asks asks
      rw [← unwritten] at held
      exact held
  | refused asks fresh same =>
    refine ⟨aside same fun x => (Phase.holds?_of_asks asks).symm.trans, ?_⟩
    exact concluded same (tends.asks asks) fresh rfl
  | hangs _ same =>
    refine ⟨aside same fun x => id, ?_⟩
    show IsHeld d'.book _
    rw [same.book]
    exact tends
  | confirmed awaits _ fresh same | givesUp awaits _ fresh same =>
    refine ⟨aside same fun x => (Phase.holds?_of_awaits awaits).symm.trans, ?_⟩
    exact concluded same (tends.awaits awaits) fresh rfl
  | pauses awaits _ _ _ same =>
    refine ⟨aside same fun x => (Phase.holds?_of_awaits awaits).symm.trans, ?_⟩
    have held := tends.awaits awaits
    rw [← same.book] at held
    exact held
  | breaksOff _ _ _ left undrawn =>
    obtain ⟨draw, undrawn⟩ := undrawn
    cases (drawable _ left draw).symm.trans undrawn
  | settled settles does => exact ⟨tended.settled tends settles does quiet, rfl⟩
  | waitsToSettle settles =>
    obtain ⟨s, b', order, tx, tx', applied, settled⟩ := tended.settles tends settles
    cases free.settles _ _ _ settles applied
  | failsToSettle settles =>
    obtain ⟨s, b', order, tx, tx', applied, settled⟩ := tended.settles tends settles
    cases free.settles _ _ _ settles applied
  | rests same => exact ⟨idle same rfl, tends⟩

end

/-! ## What an attempt leaves alone -/

/-- An attempt that has nothing to do for the order `x`, which is `order` in the book. -/
def Phase.Leaves (x : Uuid) (order : Order) : Phase → Prop
  | .reading purpose id => id = x → ∀ tx, isOpen purpose order tx = false
  | .readingPayment purpose order' => order'.id = x → ∀ tx, isOpen purpose order' tx = false
  | .claiming order' _ => order'.id ≠ x
  | p => p.holds? ≠ some x

theorem Phase.Leaves.holds {order : Order} {y : Uuid} (leaves : p.Leaves x order)
    (holds : p.holds? = some y) : y ≠ x := by
  rintro rfl
  cases p <;> first | exact leaves holds | cases holds

/-- **An attempt that has nothing to do for an order does nothing to it.** -/
theorem Phase.Leaves.step {order : Order} (leaves : p.Leaves x order) (indexed : d.book.IsIndexed)
    (found : d.book.findOrder x = some order) (move : Move cfg d d' p p') :
    d.book.Spares d'.book x ∧ p'.Leaves x order := by
  have others {y : Uuid} (other : y ≠ x) : some y ≠ some x := fun same =>
    other (Option.some.inj same)
  cases move with
  | quits _ _ aside | rests aside => exact ⟨aside.spares x, nofun⟩
  | @finds purpose id order' found' aside =>
    refine ⟨aside.spares x, fun same tx => ?_⟩
    have named : x = id := same.symm.trans (indexed.ofOrder id order' found')
    subst named
    cases found.symm.trans found'
    exact leaves rfl tx
  | prepares _ unpaid aside =>
    refine ⟨aside.spares x, fun same => ?_⟩
    rw [leaves same] at unpaid
    cases unpaid
  | expires _ unpaid _ aside =>
    refine ⟨aside.spares x, others fun same => ?_⟩
    rw [leaves same] at unpaid
    cases unpaid
  | claims _ _ writes =>
    rw [writes.book]
    exact ⟨OrderBook.spares_put leaves _, others leaves⟩
  | calls asks calls =>
    have other := leaves.holds (holds?_of_asks asks)
    rw [calls.book]
    exact ⟨.refl _ x, others other⟩
  | refused asks _ aside => exact ⟨aside.spares x, others (leaves.holds (holds?_of_asks asks))⟩
  | hangs _ aside => exact ⟨aside.spares x, leaves⟩
  | confirmed awaits _ _ aside | pauses awaits _ _ _ aside | givesUp awaits _ _ aside =>
    have other := leaves.holds (holds?_of_awaits awaits)
    exact ⟨aside.spares x, others other⟩
  | breaksOff _ _ _ _ _ aside => exact ⟨aside.spares x, nofun⟩
  | settled settles does | failsToSettle settles does =>
    exact ⟨does.spares (leaves.holds (holds?_of_settles settles)), nofun⟩
  | waitsToSettle settles does =>
    have other := leaves.holds (holds?_of_settles settles)
    exact ⟨does.spares other, others other⟩

/-! ## What an attempt does for the order that it is made for -/

/-- An attempt that goes to settle the order `x`, which is `order` in the book and in process. -/
def Phase.Heads (x : Uuid) (order : Order) : Phase → Prop
  | .reading purpose id => purpose = .expire ∧ id = x
  | .readingPayment purpose order' => purpose = .expire ∧ order' = order
  | .settling o _ => o.orderId = x
  | _ => False

section
variable {a₀ : Surroundings} {b₀ : OrderBook} {order : Order} {tx : PaymentTransaction}

/-- **An attempt that heads for an order settles it in the end.** -/
theorem Phase.Heads.step (heads : p.Heads x order) (tended : Tended a₀ b₀ d p.holds?)
    (tends : p.Tends a₀ d) (unsettled : d.book.IsUnsettled x order tx) (move : Move cfg d d' p p')
    (free : Unhindered d.book d.around.now p p') :
    d'.book.IsSettled x ∨ d'.book.IsUnsettled x order tx ∧ p'.Heads x order := by
  cases p with
  | reading purpose id =>
    obtain ⟨rfl, rfl⟩ := heads
    have next := free.finds _ _ _ rfl unsettled.ofOrder
    subst next
    cases move with
    | finds _ aside => exact .inr ⟨unsettled.spared (aside.spares id), rfl, rfl⟩
  | readingPayment purpose order' =>
    obtain ⟨rfl, rfl⟩ := heads
    have named := tended.indexed.ofOrder x order' unsettled.ofOrder
    have goes := free.opens _ _ tx rfl (named ▸ unsettled.ofPayment)
      (by simp [isOpen, unsettled.pending, unsettled.processing])
    cases move with
    | quits => cases goes
    | expires _ _ _ aside => exact .inr ⟨unsettled.spared (aside.spares x), named⟩
    | calls asks | refused asks => cases asks
    | confirmed awaits | pauses awaits | givesUp awaits | breaksOff awaits => cases awaits
    | settled settles | waitsToSettle settles | failsToSettle settles => cases settles
  | settling o retries =>
    obtain ⟨s, book, _, _, _, applied, settled⟩ := tended.settles tends rfl
    have next := free.settles _ _ _ rfl applied
    subst next
    cases move with
    | quits early => cases early
    | settled settles does =>
      cases settles
      rw [(does.written applied).book, ← show o.orderId = x from heads]
      exact .inl settled.isSettled
  | _ => exact heads.elim

end

end Payment
end OrderFlow
