import OrderFlow.Email
import OrderFlow.Proofs.Order.Wishes
import OrderFlow.Proofs.Traffic.Doers
import OrderFlow.Proofs.Traffic.Lifecycle
import OrderFlow.Proofs.Traffic.Recovery

/-!
Wishes in traffic. Any number of callers may want to cancel or fulfil the same order at the same
time, among attempts to pay, outcomes and sweeps. A call reads, swaps and looks again, and only the
swap can change anything; so the whole call takes place where its swap does. Both statuses that can
be wished for are final, so of all calls for an order one at most is granted, and what it has made
of the order is still there when it looks again (`wishes_granted_once`).
-/
namespace OrderFlow
open OrderService

namespace Happening
variable {cfg : Shop.Config} {h : Happening} {x : Uuid} {wish wish' : Wish} {p : Phase}

/-- A call swaps the status of its order and thereby changes the order. -/
def Grants (h : Happening) (x : Uuid) (wish : Wish) : Prop :=
  (∃ order, h.before = .change x wish (.swapping order)) ∧
    h.later.book.findOrder x ≠ h.earlier.book.findOrder x

/-- If a call asks the store here, then no mishap is to come. -/
def IsCalm (h : Happening) : Prop :=
  ∀ x wish p, h.before = .change x wish p → h.earlier.around.IsQuiet

theorem not_grants_of_same (same : h.later = h.earlier) : ¬ h.Grants x wish :=
  fun grants => grants.2 (by rw [same])

/-- How a call goes on at a store that answers. -/
theorem IsActual.goes [EmailCheck] (actual : h.IsActual cfg) (calm : h.IsCalm)
    (before : h.before = .change x wish p) :
    ∃ p' b, h.after = .change x wish p' ∧ h.later = { h.earlier with book := b } ∧
      Goes x wish.target h.earlier.around.now h.earlier.book p p' b := by
  have quiet : h.earlier.orderDesk.around.IsQuiet := calm x wish p before
  have goes : Yields ((Doing.change x wish p).step cfg) h.earlier fun a s => ∃ p' b,
      a = .change x wish p' ∧ s = { h.earlier with book := b } ∧
        Goes x wish.target h.earlier.around.now h.earlier.book p p' b := by
    refine (Shop.atOrders_yields (p.step_goes x wish.target quiet)).bind ?_
    rintro p' _ ⟨_, rfl, b, rfl, goes⟩
    refine .returned ⟨p', b, rfl, ?_, goes⟩
    simp [Shop.withOrderDesk, Shop.orderDesk]
  unfold Yields at goes
  rw [← before, show (h.before.step cfg).run h.earlier = _ from actual] at goes
  exact goes

end Happening

/-- What a wish makes of an order is final. -/
theorem Wish.isFinal_target (wish : Wish) : wish.target.isFinal = true := by
  cases wish <;> rfl

namespace Wishes
variable {_ : EmailCheck}
variable {x : Uuid} {wish : Wish} {hs : List Happening} {h : Happening} {b : OrderBook}
  {p : Phase} {r : Except OrderError Order}

/-- Nothing in the shop was changed. -/
def Spared (hs : List Happening) : Prop := ∀ h ∈ hs, h.later = h.earlier

/-- A call was granted. -/
def Granted (x : Uuid) (wish : Wish) (hs : List Happening) : Prop := ∃ h ∈ hs, h.Grants x wish

/-- What the answer of a call tells of what the call has done. -/
structure Answered (x : Uuid) (wish : Wish) (hs : List Happening)
    (r : Except OrderError Order) : Prop where
  granted : (∃ order, r = .ok order) ↔ Granted x wish hs
  /-- The order that is shown has the status that was wished for. -/
  shown : ∀ order, r = .ok order → order.id = x ∧ order.status = wish.target
  spared : ∀ e, r = .error e → Spared hs

/-- A step of a call that swaps or has lost is as it should be: the swap changes the order, unless
the order has another status by then, and the call that has lost tells the status that it finds. -/
structure IsFair (h : Happening) : Prop where
  swaps : ∀ x wish order, h.before = .change x wish (.swapping order) →
    (h.Grants x wish ∧ h.after = .change x wish .showing) ∨
      ∃ current, h.earlier.book.findOrder x = some current ∧ current.status ≠ order.status ∧
        h.after = .change x wish .lost ∧ h.later = h.earlier
  tells : ∀ x wish, h.before = .change x wish .lost →
    ∃ current, h.earlier.book.findOrder x = some current ∧
      h.after = .change x wish (.done (.error (.shared
        (.illegalTransition current.status.name wish.target.name))))

/-- The phases of a call in which others may have come before it. -/
def isContested : Phase → Bool
  | .swapping _ | .lost => true
  | _ => false

/-- What a call for the order `x` has done so far that stands in a phase. -/
def Stands (x : Uuid) (wish : Wish) (hs : List Happening) (b : OrderBook) : Phase → Prop
  | .reading => hs = []
  | .swapping order => hs.length = 1 ∧ Spared hs ∧ order.status.mayBecome wish.target = true ∧
      ∃ current, b.findOrder x = some current
  | .showing => hs.length = 2 ∧ Granted x wish hs ∧
      ∃ order, b.findOrder x = some order ∧ order.status = wish.target
  | .lost => hs.length = 2 ∧ Spared hs ∧ ∃ current, b.findOrder x = some current
  | .done r => Answered x wish hs r

theorem Spared.snoc (spared : Spared hs) (same : h.later = h.earlier) : Spared (hs ++ [h]) :=
  List.forall_mem_append.mpr ⟨spared, List.forall_mem_singleton.mpr same⟩

theorem Spared.not_granted (spared : Spared hs) : ¬ Granted x wish hs :=
  fun ⟨h, member, grants⟩ => h.not_grants_of_same (spared h member) grants

theorem Spared.answered (spared : Spared hs) (e : OrderError) : Answered x wish hs (.error e) where
  granted := iff_of_false (fun ⟨_, impossible⟩ => nomatch impossible) spared.not_granted
  shown _ impossible := nomatch impossible
  spared _ _ := spared

theorem granted_snoc : Granted x wish (hs ++ [h]) ↔ Granted x wish hs ∨ h.Grants x wish := by
  simp [Granted, or_and_right, exists_or]

theorem Answered.snoc (answered : Answered x wish hs r) (same : h.later = h.earlier) :
    Answered x wish (hs ++ [h]) r where
  granted := by
    rw [answered.granted, granted_snoc, or_iff_left (h.not_grants_of_same same)]
  shown := answered.shown
  spared e fails := (answered.spared e fails).snoc same

/-- What others do to the book does not harm a call. -/
theorem Stands.later {now : Instant} {o? : Option PaymentOutcome} {e? : Option OrderCreated}
    {b' : OrderBook} (stands : Stands x wish hs b p) (indexed : b.IsIndexed)
    (change : OrderBook.Change now o? e? b b') : Stands x wish hs b' p := by
  have stays (there : ∃ current, b.findOrder x = some current) :
      ∃ current, b'.findOrder x = some current := by
    obtain ⟨current, found⟩ := there
    obtain ⟨current', found', -⟩ := change.order_stays found
    exact ⟨current', found'⟩
  cases p with
  | reading | done => exact stands
  | swapping =>
    obtain ⟨length, spared, may, there⟩ := stands
    exact ⟨length, spared, may, stays there⟩
  | lost =>
    obtain ⟨length, spared, there⟩ := stands
    exact ⟨length, spared, stays there⟩
  | showing =>
    obtain ⟨length, granted, order, found, status⟩ := stands
    have final : order.status.isFinal = true := status ▸ wish.isFinal_target
    exact ⟨length, granted, order, change.final_stays indexed found final, status⟩

/-- A swap that succeeds changes the order. -/
theorem grants_of_swaps {order current : Order}
    (before : h.before = .change x wish (.swapping order))
    (may : order.status.mayBecome wish.target = true)
    (found : h.earlier.book.findOrder x = some current) (same : current.status = order.status)
    (later : h.later.book.findOrder x =
      some (current.withStatus wish.target h.earlier.around.now)) :
    h.Grants x wish := by
  refine ⟨⟨order, before⟩, fun unchanged => ?_⟩
  rw [later, found, Option.some_inj] at unchanged
  have status : wish.target = current.status := congrArg (·.status) unchanged
  rw [← same, ← status, OrderStatus.not_mayBecome_of_isFinal wish.isFinal_target] at may
  cases may

/-- Where nobody may have come before, there is nothing to be fair about. -/
theorem isFair_of_uncontested (before : h.before = .change x wish p)
    (alone : isContested p = false) : IsFair h := by
  refine ⟨fun y wish' order before' => ?_, fun y wish' before' => ?_⟩ <;>
  · cases before.symm.trans before'
    cases alone

/-- In a step that swaps, only the swap has to be fair. -/
theorem isFair_of_swap {order : Order} (before : h.before = .change x wish (.swapping order))
    (fair : (h.Grants x wish ∧ h.after = .change x wish .showing) ∨
      ∃ current, h.earlier.book.findOrder x = some current ∧ current.status ≠ order.status ∧
        h.after = .change x wish .lost ∧ h.later = h.earlier) : IsFair h := by
  refine ⟨fun y wish' order' before' => ?_, fun y wish' before' => ?_⟩
  · cases before.symm.trans before'
    exact fair
  · cases before.symm.trans before'

/-- In a step that looks again, only what it tells has to be fair. -/
theorem isFair_of_lost (before : h.before = .change x wish .lost)
    (fair : ∃ current, h.earlier.book.findOrder x = some current ∧
      h.after = .change x wish (.done (.error (.shared
        (.illegalTransition current.status.name wish.target.name))))) : IsFair h := by
  refine ⟨fun y wish' order before' => ?_, fun y wish' before' => ?_⟩
  · cases before.symm.trans before'
  · cases before.symm.trans before'
    exact fair

/-- **A call goes on with its story.** -/
theorem Stands.goes {p' : Phase} (stands : Stands x wish hs h.earlier.book p)
    (indexed : h.earlier.book.IsIndexed) (before : h.before = .change x wish p)
    (after : h.after = .change x wish p') (later : h.later = { h.earlier with book := b })
    (goes : Goes x wish.target h.earlier.around.now h.earlier.book p p' b) :
    Stands x wish (hs ++ [h]) h.later.book p' ∧ IsFair h := by
  cases goes with
  | misses | refuses =>
    obtain rfl : hs = [] := stands
    have spared : Spared ([] ++ [h]) := List.forall_mem_singleton.mpr later
    exact ⟨spared.answered _, isFair_of_uncontested before rfl⟩
  | @reads order found may =>
    obtain rfl : hs = [] := stands
    refine ⟨⟨rfl, List.forall_mem_singleton.mpr later, may, order, ?_⟩,
      isFair_of_uncontested before rfl⟩
    rw [later]
    exact found
  | @swaps order current found same =>
    obtain ⟨length, -, may, -⟩ := stands
    have now : h.later.book.findOrder x =
        some (current.withStatus wish.target h.earlier.around.now) := by
      rw [later]
      exact (OrderBook.findOrder_put x _).trans (if_pos rfl)
    have grants := grants_of_swaps before may found same now
    exact ⟨⟨by simp [length], granted_snoc.mpr (.inr grants), _, now, rfl⟩,
      isFair_of_swap before (.inl ⟨grants, after⟩)⟩
  | @loses order other =>
    obtain ⟨length, spared, -, current, found⟩ := stands
    have found' : h.later.book.findOrder x = some current := by
      rw [later]
      exact found
    exact ⟨⟨by simp [length], spared.snoc later, current, found'⟩,
      isFair_of_swap before (.inr ⟨current, found, other current found, after, later⟩)⟩
  | shows =>
    obtain ⟨-, granted, order, found, status⟩ := stands
    rw [found] at after ⊢
    refine ⟨⟨iff_of_true ⟨order, rfl⟩ (granted_snoc.mpr (.inl granted)), ?_, nofun⟩,
      isFair_of_uncontested before rfl⟩
    rintro _ ⟨⟩
    exact ⟨indexed.ofOrder x order found, status⟩
  | @tells current found =>
    obtain ⟨-, spared, -⟩ := stands
    exact ⟨(spared.snoc later).answered _, isFair_of_lost before ⟨current, found, after⟩⟩
  | vanishes missing =>
    obtain ⟨-, -, current, found⟩ := stands
    cases missing.symm.trans found
  | rests => exact ⟨Answered.snoc stands later, isFair_of_uncontested before rfl⟩

/-- What is told of a call: how it stands, that it was fair in every step, and that its answer is
the last thing that it does. -/
structure Tells (hs : List Happening) (b : OrderBook) (d : Doing) : Prop where
  stands : ∀ x wish p, d = .change x wish p → Stands x wish hs b p
  fair : ∀ h ∈ hs, IsFair h
  ends : ∀ h ∈ hs, ∀ x wish r, h.after = .change x wish (.done r) →
    Answered x wish hs r ∧ (d = .change x wish (.done r) ∨ d = .gone)

/-- The phase of a call. -/
def phase? : Doing → Option Phase
  | .change _ _ p => some p
  | _ => none

/-- A call that begins has done nothing yet. -/
theorem tells_fresh {d : Doing} (fresh : ∀ p, phase? d = some p → p = .reading) :
    Tells [] b d where
  stands x wish p same := by
    obtain rfl := fresh p (by rw [same, phase?])
    rfl
  fair _ member := nomatch member
  ends _ member := nomatch member

/-- What is no step of a call is fair. -/
theorem isFair_of_other (other : ∀ x wish p, h.before ≠ .change x wish p) : IsFair h :=
  ⟨fun x wish _ same => absurd same (other x wish _),
    fun x wish same => absurd same (other x wish _)⟩

/-- Only a call goes on as a call. -/
theorem change_before {cfg : Shop.Config} {s s' : Shop} {d : Doing} {p' : Phase}
    (move : d.Move cfg s (.change x wish p') s') : ∃ p, d = .change x wish p := by
  cases move
  exact ⟨_, rfl⟩

/-- A call that is done, or was broken off, changes nothing any more. -/
theorem rests {cfg : Shop.Config} (actual : h.IsActual cfg)
    (move : h.before.Move cfg h.earlier h.after h.later) (calm : h.IsCalm)
    (ended : h.before = .change x wish (.done r) ∨ h.before = .gone) :
    h.after = h.before ∧ h.later = h.earlier := by
  rcases ended with ended | gone
  · obtain ⟨p', b, after, later, goes⟩ := actual.goes calm ended
    cases goes
    exact ⟨after.trans ended.symm, later⟩
  · rw [gone] at move ⊢
    generalize h.after = after at move ⊢
    generalize h.later = later at move ⊢
    cases move
    exact ⟨rfl, rfl⟩

theorem Tells.goes {cfg : Shop.Config} (tells : Tells hs h.earlier.book h.before)
    (actual : h.IsActual cfg) (move : h.before.Move cfg h.earlier h.after h.later)
    (calm : h.IsCalm) (indexed : h.earlier.book.IsIndexed) :
    Tells (hs ++ [h]) h.later.book h.after := by
  have stands : ∀ x wish p, h.after = .change x wish p →
      Stands x wish (hs ++ [h]) h.later.book p := by
    intro x wish p' after
    obtain ⟨p, before⟩ := change_before (after ▸ move)
    obtain ⟨p'', b, after', later, goes⟩ := actual.goes calm before
    cases after.symm.trans after'
    exact ((tells.stands x wish p before).goes indexed before after later goes).1
  refine ⟨stands, ?_, fun h' member x wish r ended => ?_⟩
  · refine List.forall_mem_append.mpr ⟨tells.fair, List.forall_mem_singleton.mpr ?_⟩
    by_cases call : ∃ x wish p, h.before = .change x wish p
    · obtain ⟨x, wish, p, before⟩ := call
      obtain ⟨p', b, after, later, goes⟩ := actual.goes calm before
      exact ((tells.stands x wish p before).goes indexed before after later goes).2
    · exact isFair_of_other fun x wish p before => call ⟨x, wish, p, before⟩
  · rcases List.mem_append.mp member with old | new
    · obtain ⟨answered, place⟩ := tells.ends h' old x wish r ended
      obtain ⟨same, still⟩ := rests actual move calm place
      exact ⟨answered.snoc still, same ▸ place⟩
    · cases List.mem_singleton.mp new
      exact ⟨stands x wish (.done r) ended, .inl ended⟩

/-- What is told of calls is told whatever else goes on. -/
theorem tells_lasting (cfg : Shop.Config) : Lasting cfg Happening.IsCalm Tells where
  begins c _ := by
    refine tells_fresh fun p same => ?_
    cases c <;> cases same
    rfl
  dispatched _ _ := tells_fresh fun _ same => nomatch same
  goes actual move calm indexed tells := tells.goes actual move calm indexed
  others indexed change tells :=
    ⟨fun x wish p same => (tells.stands x wish p same).later indexed change, tells.fair, tells.ends⟩
  gone tells := {
    stands := fun x wish p same => by cases same
    fair := tells.fair
    ends := fun h member x wish r ended => ⟨(tells.ends h member x wish r ended).1, .inr rfl⟩ }

/-- A wish is granted only for an order that has not come to its end, and takes it there. -/
theorem grants_move {cfg : Shop.Config}
    (move : h.before.Move cfg h.earlier h.after h.later) (grants : h.Grants x wish) :
    ∃ order, h.earlier.book.findOrder x = some order ∧ order.status.isFinal = false ∧
      ∃ order', h.later.book.findOrder x = some order' ∧ order'.status = wish.target := by
  obtain ⟨⟨order, before⟩, changed⟩ := grants
  rw [before] at move
  generalize h.after = after at move
  generalize h.later = later at move changed
  cases move with
  | change move =>
    cases move with
    | @swaps _ current found may writes =>
      refine ⟨current, found, ?_, _, (congrArg (·.findOrder x) writes.book).trans
        ((OrderBook.findOrder_put x _).trans (if_pos rfl)), rfl⟩
      cases final : current.status.isFinal with
      | false => rfl
      | true =>
        rw [OrderStatus.not_mayBecome_of_isFinal final] at may
        cases may
    | loses aside | fails aside =>
      exact absurd (congrArg (·.findOrder x) aside.book) changed

end Wishes

namespace Traffic
open Wishes
variable {cfg : Shop.Config} {t t' : Traffic} {e : Event}

/-- What was granted stays, and nothing else is granted for that order. -/
structure IsGranting (t : Traffic) : Prop where
  indexed : t.shop.book.IsIndexed
  granted : ∀ h ∈ t.past, ∀ x wish, h.Grants x wish →
    ∃ order, t.shop.book.findOrder x = some order ∧ order.status = wish.target
  alone : t.past.Pairwise fun h h' => ∀ x wish wish', h.Grants x wish → ¬ h'.Grants x wish'

theorem IsGranting.acts [EmailCheck] (granting : t.IsGranting) {doer : Nat} {d d' : Doing}
    {later : Shop} (move : d.Move cfg t.shop d' later) : (t.acted doer d d' later).IsGranting := by
  have news : (t.news doer d d' later).before.Move cfg (t.news doer d d' later).earlier
      (t.news doer d d' later).after (t.news doer d d' later).later := move
  refine ⟨granting.indexed.change move.changes, fun h member x wish grants => ?_, ?_⟩
  · rcases List.mem_append.mp member with old | new
    · obtain ⟨order, found, status⟩ := granting.granted h old x wish grants
      have final : order.status.isFinal = true := status ▸ wish.isFinal_target
      exact ⟨order, move.changes.final_stays granting.indexed found final, status⟩
    · cases List.mem_singleton.mp new
      obtain ⟨-, -, -, order', found, status⟩ := grants_move news grants
      exact ⟨order', found, status⟩
  · refine List.pairwise_append.mpr ⟨granting.alone, List.pairwise_singleton _ _, ?_⟩
    intro h old h' new x wish wish' first second
    cases List.mem_singleton.mp new
    obtain ⟨order, found, status⟩ := granting.granted h old x wish first
    obtain ⟨order', found', open_, -⟩ := grants_move news second
    cases found.symm.trans found'
    rw [status, wish.isFinal_target] at open_
    cases open_

theorem run_isGranting [EmailCheck] (cfg : Shop.Config) (around : Surroundings)
    (stock : Assoc Uuid Int) (sequences : Assoc CalendarDay Int) (events : List Event) :
    ((opening around stock sequences).run cfg events).IsGranting := by
  refine run_keeps_all (opening_isSound around stock sequences)
    ⟨OrderBook.isIndexed_empty, (fun _ member => nomatch member), .nil⟩ ?_
  intro t e t' _ granting step
  cases step with
  | rests => exact granting
  | begins | ends | weather => exact ⟨granting.indexed, granting.granted, granting.alone⟩
  | acts _ _ move => exact granting.acts move

/-- **Of all who want something of an order one at most is granted it, and the whole call takes
place where it swaps the status.** At a store that answers, a call ends well exactly if its own swap
has changed the order, and then shows the order with the status that was wished for, whatever has
happened in between; a call that ends with an error has changed nothing in the shop. Of all calls
for an order no two end well. A call whose order has another status when it swaps tells the status
that it finds when it looks again, and its own target. After three steps of its own a call is done.
-/
theorem wishes_granted_once [EmailCheck] (cfg : Shop.Config) (around : Surroundings)
    (stock : Assoc Uuid Int) (sequences : Assoc CalendarDay Int) (events : List Event) :
    let t := (opening around stock sequences).run cfg events
    (∀ h ∈ t.past, h.IsCalm) →
    (∀ h ∈ t.past, ∀ x wish r, h.after = .change x wish (.done r) →
      Answered x wish (t.doneBy h.doer) r) ∧
    (∀ h ∈ t.past, ∀ h' ∈ t.past, ∀ x wish wish' order order',
      h.after = .change x wish (.done (.ok order)) →
      h'.after = .change x wish' (.done (.ok order')) → h'.doer = h.doer) ∧
    (∀ h ∈ t.past, IsFair h) ∧
    ∀ n x wish p, t.doings[n]? = some (.change x wish p) → 3 ≤ (t.doneBy n).length →
      ∃ r, p = .done r := by
  intro t calm
  have told : t.IsTold Tells := run_told (tells_lasting cfg) around stock sequences events calm
  have granting : t.IsGranting := run_isGranting cfg around stock sequences events
  have tells {h : Happening} (member : h ∈ t.past) : ∃ d, Tells (t.doneBy h.doer) t.shop.book d :=
    ⟨_, told.told h.doer _ (List.getElem?_eq_getElem (told.begun h member))⟩
  have mine {h : Happening} (member : h ∈ t.past) : h ∈ t.doneBy h.doer :=
    List.mem_filter.mpr ⟨member, decide_eq_true rfl⟩
  have answered : ∀ h ∈ t.past, ∀ x wish r, h.after = .change x wish (.done r) →
      Answered x wish (t.doneBy h.doer) r := by
    intro h member x wish r ended
    obtain ⟨d, told⟩ := tells member
    exact (told.ends h (mine member) x wish r ended).1
  refine ⟨answered, ?_, fun h member => ?_, fun n x wish p under long => ?_⟩
  · intro h member h' member' x wish wish' order order' ended ended'
    obtain ⟨c, done, grants⟩ := (answered h member x wish _ ended).granted.mp ⟨order, rfl⟩
    obtain ⟨c', done', grants'⟩ := (answered h' member' x wish' _ ended').granted.mp ⟨order', rfl⟩
    obtain ⟨past, ofDoer⟩ := List.mem_filter.mp done
    obtain ⟨past', ofDoer'⟩ := List.mem_filter.mp done'
    rcases related_of_pairwise granting.alone past past' with rfl | apart | apart
    · exact (of_decide_eq_true ofDoer').symm.trans (of_decide_eq_true ofDoer)
    · exact absurd grants' (apart x wish wish' grants)
    · exact absurd grants (apart x wish' wish grants')
  · obtain ⟨d, told⟩ := tells member
    exact told.fair h (mine member)
  · have stands := (told.told n _ under).stands x wish p rfl
    cases p with
    | reading =>
      rw [show t.doneBy n = [] from stands] at long
      simp at long
    | swapping | showing | lost =>
      have length := stands.1
      omega
    | done r => exact ⟨r, rfl⟩

/-- The answer of a call that is done. -/
def answer? (x : Uuid) (wish : Wish) : Doing → Option (Except OrderError Order)
  | .change y wish' (.done r) => if y = x ∧ wish' = wish then some r else none
  | _ => none

theorem of_answer {x : Uuid} {wish : Wish} {d : Doing} {r : Except OrderError Order}
    (answers : answer? x wish d = some r) : d = .change x wish (.done r) := by
  unfold answer? at answers
  split at answers
  · split at answers
    · next same =>
      cases answers
      rw [same.1, same.2]
    · cases answers
  · cases answers

/-- The order has arrived and its payment is to be attempted. A first caller has read it and wants
to cancel it, but the attempt claims it before the caller swaps; then a second caller cancels it. -/
def forestalled : Traffic :=
  (opening { now := ⟨0⟩ } [] []).run minutely
    (.call (.deliver placedMessage) :: .advance 0 ::
      [.advance 0, .advance 0, .call (.change placed.orderId .cancel), .advance 2,
        .advance 1, .advance 1, .advance 1, .advance 2, .advance 2,
        .call (.change placed.orderId .cancel), .advance 3, .advance 3, .advance 3])

/-- The first caller is told that the order is in process, and has changed nothing. The second one
has cancelled the order and is shown it. -/
theorem second_caller_granted :
    (∀ h ∈ forestalled.past, h.IsCalm) ∧
      (∃ h ∈ forestalled.past, h.doer = 2 ∧ h.after = .change placed.orderId .cancel
          (.done (.error (.shared (.illegalTransition "PROCESSING" "CANCELLED")))) ∧
        Spared (forestalled.doneBy 2)) ∧
      ∃ h ∈ forestalled.past, h.doer = 3 ∧ ∃ order,
        h.after = .change placed.orderId .cancel (.done (.ok order)) ∧
        order.status = .cancelled ∧ Granted placed.orderId .cancel (forestalled.doneBy 3) := by
  have forestalled_eq : forestalled = (arrived { now := ⟨0⟩ } placedMessage placed).run minutely
      [.advance 0, .advance 0, .call (.change placed.orderId .cancel), .advance 2,
        .advance 1, .advance 1, .advance 1, .advance 2, .advance 2,
        .call (.change placed.orderId .cancel), .advance 3, .advance 3, .advance 3] :=
    run_arrived _ _ _ received_placed
  have quiet : ∀ h ∈ forestalled.past, h.earlier.around.mishaps.isEmpty = true := by
    rw [forestalled_eq]
    decide +kernel
  have calm : ∀ h ∈ forestalled.past, h.IsCalm := fun h member _ _ _ _ =>
    List.isEmpty_iff.mp (quiet h member)
  have refused : ∃ h ∈ forestalled.past, h.doer = 2 ∧
      answer? placed.orderId .cancel h.after =
        some (.error (.shared (.illegalTransition "PROCESSING" "CANCELLED"))) := by
    rw [forestalled_eq]
    decide +kernel
  have shown : ∃ h ∈ forestalled.past, h.doer = 3 ∧
      (answer? placed.orderId .cancel h.after).any (·.toOption.isSome) = true := by
    rw [forestalled_eq]
    decide +kernel
  have answered := (wishes_granted_once minutely { now := ⟨0⟩ } [] [] _ calm).1
  refine ⟨calm, ?_, ?_⟩
  · obtain ⟨h, member, doer, told⟩ := refused
    have ended := of_answer told
    exact ⟨h, member, doer, ended, doer ▸ (answered h member _ _ _ ended).spared _ rfl⟩
  · obtain ⟨h, member, doer, told⟩ := shown
    obtain ⟨r, answers, done⟩ := (Option.any_eq_true _ _).mp told
    have ended := of_answer answers
    cases r with
    | error e => cases done
    | ok order =>
      have told := answered h member _ _ _ ended
      exact ⟨h, member, doer, order, ended, (told.shown order rfl).2,
        doer ▸ told.granted.mp ⟨order, rfl⟩⟩

end Traffic

end OrderFlow
