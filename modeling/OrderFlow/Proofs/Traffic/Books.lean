import OrderFlow.Proofs.Order.Changes
import OrderFlow.Proofs.Traffic.Steps

/-!
The order book in traffic. Whatever moves, the book changes as `OrderBook.Change` has it, with the
outcome that the moving doing was about to apply (`Doing.Move.changes`). So what every change keeps
is kept by every run: an order that is once in the book stays there, never returns to `pending`, and
a payment that is once settled stays what it is (`Traffic.run_settled_stays`).
-/
namespace OrderFlow

variable {_ : EmailCheck}

namespace OrderDesk
variable {d d' : OrderDesk}

theorem Writes.unchanged {o? : Option PaymentOutcome} {e? : Option OrderCreated}
    (aside : Aside d d') : OrderBook.Change d.around.now o? e? d.book d'.book :=
  aside.book ▸ .refl _ _ _ _

theorem Settles.changes {o : PaymentOutcome} {r : Except OrderError Settlement}
    (does : Settles d d' o r) : OrderBook.Change d.around.now (some o) none d.book d'.book := by
  rcases does with ⟨_, aside⟩ | ⟨s, book, applied, _, writes⟩
  · exact aside.unchanged
  · rw [writes.book]
    exact .applies rfl applied

end OrderDesk

theorem Payment.Move.changes {cfg : Payment.Config} {d d' : OrderDesk} {p p' : Payment.Phase}
    (move : Payment.Move cfg d d' p p') :
    OrderBook.Change d.around.now p.settles? none d.book d'.book := by
  cases move with
  | quits _ _ aside | finds _ aside | prepares _ _ aside | expires _ _ _ aside | refused _ _ aside
  | hangs _ aside | confirmed _ _ _ aside | pauses _ _ _ _ aside | givesUp _ _ _ aside
  | breaksOff _ _ _ _ _ aside | rests aside => exact aside.unchanged
  | claims found pending writes =>
    rw [writes.book]
    exact .moves found (by rw [pending]; rfl) ⟨nofun, nofun⟩
  | calls _ calls =>
    rw [calls.book]
    exact .refl _ _ _ _
  | settled settles does | waitsToSettle settles does | failsToSettle settles does =>
    rw [settles]
    exact does.changes

theorem Payment.Sweep.Move.changes {cfg : Payment.Config} {d d' : OrderDesk} {w w' : Payment.Sweep}
    (move : Payment.Sweep.Move cfg d d' w w') :
    OrderBook.Change d.around.now (w.attempt?.bind (·.settles?)) none d.book d'.book := by
  cases move with
  | attempts under running move =>
    simp only [under, Option.bind_some]
    exact move.changes
  | turns ended idle aside => exact aside.unchanged

theorem OrderService.Move.changes {id : Uuid} {wish : Wish} {d d' : OrderDesk}
    {p p' : OrderService.Phase} (move : OrderService.Move id wish.target d d' p p') :
    OrderBook.Change d.around.now none none d.book d'.book := by
  cases move with
  | reads _ _ aside | refuses aside | loses aside | fails aside | shows aside | tells aside
  | rests aside => exact aside.unchanged
  | swaps found may writes =>
    rw [writes.book]
    exact .moves found may (by cases wish <;> exact ⟨nofun, nofun⟩)

/-- The outcome that a delivery is about to apply. -/
def Delivery.Phase.outcome? : Delivery.Phase → Option PaymentOutcome
  | .reconciling event _ => some (.ofEvent event)
  | _ => none

/-- The event whose order a delivery is about to enter. -/
def Delivery.Phase.entry? : Delivery.Phase → Option OrderCreated
  | .entering event _ => some event
  | _ => none

theorem Delivery.Move.changes {m : Message} {d d' : OrderDesk} {p p' : Delivery.Phase}
    (move : Delivery.Move m d d' p p') :
    OrderBook.Change d.around.now p.outcome? p.entry? d.book d'.book := by
  cases move with
  | reads _ aside | misreads _ aside | knows _ aside | goesOn aside | repeats aside
  | fails _ _ aside | wakes aside | rests aside => exact aside.unchanged
  | enters enters =>
    obtain ⟨lineIds, id, enough, shape, entered⟩ := enters.entered
    exact .creates rfl enough shape entered
  | reconciles does | failsToReconcile _ does => exact does.changes
  | buries _ sends =>
    rw [sends.book]
    exact .refl _ _ _ _

namespace Doing

/-- The outcome that a doing is about to apply. -/
def outcome? : Doing → Option PaymentOutcome
  | attempt p => p.settles?
  | sweep w => w.attempt?.bind (·.settles?)
  | delivery _ p => p.outcome?
  | applying o => some o
  | _ => none

/-- The event whose order a doing is about to enter. -/
def entry? : Doing → Option OrderCreated
  | delivery _ p => p.entry?
  | _ => none

theorem of_entry {d : Doing} {event : OrderCreated} (enters : d.entry? = some event) :
    ∃ m failures, d = .delivery m (.entering event failures) := by
  cases d with
  | delivery m p =>
    cases p <;> cases enters
    exact ⟨m, _, rfl⟩
  | _ => cases enters

theorem Move.changes {cfg : Shop.Config} {s s' : Shop} {d d' : Doing} (move : d.Move cfg s d' s') :
    OrderBook.Change s.around.now d.outcome? d.entry? s.book s'.book := by
  cases move with
  | checkout | cleans | rests => exact .refl _ _ _ _
  | @batch side _ _ _ move =>
    cases side with
    | checkout => exact .refl _ _ _ _
    | orders => exact .posts move.postings
  | delivery move => exact move.changes
  | attempt move => exact move.changes
  | sweep move => exact move.changes
  | change move => exact move.changes
  | applies does => exact does.changes

end Doing

namespace Traffic
variable {cfg : Shop.Config} {t t' : Traffic} {e : Event} {x : Uuid}

/-- The book after one event: as it was, or changed by the doing that moved. -/
theorem Step.book (step : Step cfg t e t') :
    ∃ o? e?, OrderBook.Change t.shop.around.now o? e? t.shop.book t'.shop.book := by
  cases step with
  | rests | begins | ends | weather => exact ⟨none, none, .refl _ _ _ _⟩
  | acts _ _ move => exact ⟨_, _, move.changes⟩

theorem run_isPaired [EmailCheck] (cfg : Shop.Config) (around : Surroundings)
    (stock : Assoc Uuid Int) (sequences : Assoc CalendarDay Int) (events : List Event) :
    ((opening around stock sequences).run cfg events).IsSound ∧
      ((opening around stock sequences).run cfg events).shop.book.IsPaired := by
  have sound := opening_isSound around stock sequences
  refine ⟨sound.run events, ?_⟩
  refine run_keeps_all (P := fun t => t.shop.book.IsPaired) sound (fun _ _ => rfl) ?_
  intro t e t' _ paired step
  obtain ⟨o?, e?, change⟩ := step.book
  exact change.paired paired

end Traffic

end OrderFlow
