import OrderFlow.Order.Desk
import OrderFlow.Proofs.Effects

/-!
The calls of the order store, each with the one change of the book that it can make. Whatever a call
meets, it either makes the change that the book has for it or leaves the book as it is; only the
answer to a settlement may be lost after it has been made (`complete_yields`).
-/
namespace OrderFlow

namespace OrderBook

/-- Puts an order in the place of the one that has its identifier. -/
def put (b : OrderBook) (id : Uuid) (order : Order) : OrderBook :=
  { b with orders := b.orders.insert id order }

/-- An event that has been dealt with before changes nothing. -/
theorem create_duplicate {b book : OrderBook} {order : Order} {payment : PaymentTransaction}
    {eventId : Uuid} {now : Instant}
    (entered : b.create order payment eventId now = .ok (.duplicate, book)) :
    book = b ∧ b.isProcessed eventId = true := by
  unfold create at entered
  split at entered
  · next known =>
    cases entered
    exact ⟨rfl, known⟩
  · split at entered <;> cases entered

end OrderBook

namespace OrderDesk
open Surroundings

/-- The desk `d'` may come about from `d` by a call that leaves behind the book `book`. -/
structure Writes (d d' : OrderDesk) (book : OrderBook) : Prop where
  around : d.around.Follows d'.around
  book : d'.book = book
  gateway : d'.gateway = d.gateway
  broker : d'.broker = d.broker
  dispatched : d'.dispatched = d.dispatched

/-- The desk `d'` may come about from `d` by a call that changes no book. -/
abbrev Aside (d d' : OrderDesk) : Prop := Writes d d' d.book

variable {d d' d'' : OrderDesk} {book : OrderBook}

theorem Aside.refl (d : OrderDesk) : Aside d d := ⟨.refl _, rfl, rfl, rfl, rfl⟩

/-- The last book that is written stays. -/
theorem Writes.trans {book' : OrderBook} (first : Writes d d' book) (second : Writes d' d'' book') :
    Writes d d'' book' where
  around := first.around.trans second.around
  book := second.book
  gateway := second.gateway.trans first.gateway
  broker := second.broker.trans first.broker
  dispatched := second.dispatched.trans first.dispatched

theorem Writes.then_aside (first : Writes d d' book) (second : Aside d' d'') :
    Writes d d'' book :=
  first.book ▸ first.trans second

theorem lift_yields {α : Type} {act : StateM Surroundings α} {P : α → Surroundings → Prop}
    (yields : Yields act d.around fun a s => P a s ∧ d.around.Follows s) :
    Yields (liftM act) d fun a d' => P a d'.around ∧ Aside d d' :=
  .lifted (yields.mono fun _ _ ⟨holds, follows⟩ => ⟨holds, follows, rfl, rfl, rfl, rfl⟩)

theorem lift_aside {α : Type} {act : StateM Surroundings α}
    (yields : Yields act d.around fun _ s => d.around.Follows s) :
    Yields (liftM act) d fun _ d' => Aside d d' :=
  (lift_yields (yields.mono fun _ _ follows => ⟨trivial, follows⟩)).mono fun _ _ both => both.2

theorem look_yields {α : Type} (call : StoreCall) (hidden : Option α) (f : OrderBook → α)
    (d : OrderDesk) :
    Yields (look call hidden f) d fun r d' =>
      Aside d d' ∧ ∀ a, r = .ok a → a = f d.book ∨ hidden = some a := by
  refine (lift_aside (mishap_yields call d.around)).bind fun m d' aside => ?_
  split
  · exact .returned ⟨aside, fun a h => nomatch h⟩
  · exact .returned ⟨aside, fun a h => .inr (by cases h; rfl)⟩
  · exact .seen (.returned ⟨aside, fun a h => .inl (by cases h; rw [aside.book])⟩)

theorem findOrder_yields (id : Uuid) (d : OrderDesk) :
    Yields (findOrder id) d fun r d' =>
      Aside d d' ∧ ∀ order, r = .ok order → order = d.book.findOrder id :=
  (look_yields ..).mono fun _ _ ⟨aside, found⟩ =>
    ⟨aside, fun order h => (found order h).resolve_right nofun⟩

/-- A payment that is shown is in the book; one that is in the book may be hidden. -/
theorem findPayment_yields (id : Uuid) (d : OrderDesk) :
    Yields (findPayment id) d fun r d' =>
      Aside d d' ∧ ∀ payment, r = .ok (some payment) → d.book.findPayment id = some payment :=
  (look_yields ..).mono fun _ _ ⟨aside, found⟩ =>
    ⟨aside, fun payment h => by rcases found _ h with shown | hidden <;> simp_all⟩

theorem isProcessed_yields (eventId : Uuid) (d : OrderDesk) :
    Yields (isProcessed eventId) d fun r d' =>
      Aside d d' ∧ (r = .ok true → d.book.isProcessed eventId = true) :=
  (look_yields ..).mono fun _ _ ⟨aside, found⟩ =>
    ⟨aside, fun h => by rcases found _ h with shown | hidden <;> simp_all⟩

theorem find_yields {call : StoreCall} (f : OrderBook → List Uuid) (d : OrderDesk) :
    Yields (look call none f) d fun _ d' => Aside d d' :=
  (look_yields ..).mono fun _ _ both => both.1

/-- What a change of the book does: it takes place, or it fails and nothing happens. -/
def Written {α : Type} (d d' : OrderDesk)
    (f : OrderBook → Instant → Except OrderError (α × OrderBook)) (r : Except OrderError α) :
    Prop :=
  (∃ a book, f d.book d.around.now = .ok (a, book) ∧ r = .ok a ∧ Writes d d' book) ∨
    ∃ e, f d.book d.around.now = .error e ∧ r = .error e ∧ Aside d d'

theorem write_yields {α : Type} (f : OrderBook → Instant → Except OrderError (α × OrderBook))
    (d : OrderDesk) : Yields (write f) d fun r d' => Written d d' f r := by
  refine .seen ((lift_yields (clock_yields d.around)).bind fun now d' ⟨same, aside⟩ => ?_)
  subst same
  split
  · next e refused => exact .returned (.inr ⟨e, refused, rfl, aside⟩)
  · next a book written =>
    exact .changed (.returned (.inl ⟨a, book, written, rfl,
      aside.trans ⟨.refl _, rfl, rfl, rfl, rfl⟩⟩))

/-- What swapping the status of an order does: only an order that has the expected status gets the
next one, and only then is the answer that it has. -/
def Swaps (d d' : OrderDesk) (id : Uuid) (expected next : OrderStatus)
    (r : Except OrderError Bool) : Prop :=
  (r ≠ .ok true ∧ Aside d d') ∨
    ∃ order, r = .ok true ∧ d.book.findOrder id = some order ∧ order.status = expected ∧
      Writes d d' (d.book.put id (order.withStatus next d.around.now))

/-- What applying an outcome does: all that the book has for it, or nothing. The answer may be a
failure in either case. -/
def Settles (d d' : OrderDesk) (o : PaymentOutcome) (r : Except OrderError Settlement) : Prop :=
  ((∃ e, r = .error e) ∧ Aside d d') ∨
    ∃ s book, d.book.finalize o d.around.now = .ok (s, book) ∧ (r = .ok s ∨ ∃ e, r = .error e) ∧
      Writes d d' book

theorem Aside.then_swaps {id : Uuid} {expected next : OrderStatus} {r : Except OrderError Bool}
    (aside : Aside d d') (swaps : Swaps d' d'' id expected next r) :
    Swaps d d'' id expected next r := by
  unfold Swaps at swaps
  rw [aside.book, aside.around.now] at swaps
  rcases swaps with ⟨lost, aside'⟩ | ⟨order, won, found, expects, writes⟩
  · exact .inl ⟨lost, aside.trans (aside.book ▸ aside')⟩
  · exact .inr ⟨order, won, found, expects, aside.trans writes⟩

/-- What `write` has done after a call that changed no book. -/
theorem Aside.then_written {α : Type}
    {f : OrderBook → Instant → Except OrderError (α × OrderBook)} {r : Except OrderError α}
    (aside : Aside d d') (written : Written d' d'' f r) : Written d d'' f r := by
  unfold Written at written
  rw [aside.book, aside.around.now] at written
  rcases written with ⟨a, book, done, answered, writes⟩ | ⟨e, failed, answered, aside'⟩
  · exact .inl ⟨a, book, done, answered, aside.trans writes⟩
  · exact .inr ⟨e, failed, answered, aside.trans (aside.book ▸ aside')⟩

theorem Settles.of_written {o : PaymentOutcome} {r : Except OrderError Settlement}
    (written : Written d d' (fun b now => b.finalize o now) r) : Settles d d' o r := by
  rcases written with ⟨s, book, applied, answered, writes⟩ | ⟨e, _, rfl, aside⟩
  · exact .inr ⟨s, book, applied, .inl answered, writes⟩
  · exact .inl ⟨⟨e, rfl⟩, aside⟩

theorem Settles.then_aside {o : PaymentOutcome} {r : Except OrderError Settlement}
    (settles : Settles d d' o r) (aside : Aside d' d'') : Settles d d'' o r := by
  rcases settles with ⟨failed, before⟩ | ⟨s, book, applied, answered, writes⟩
  · exact .inl ⟨failed, before.then_aside aside⟩
  · exact .inr ⟨s, book, applied, answered, writes.then_aside aside⟩

/-- Applying an outcome touches nothing but the book. -/
theorem Settles.writes {o : PaymentOutcome} {r : Except OrderError Settlement}
    (settles : Settles d d' o r) : ∃ book, Writes d d' book := by
  rcases settles with ⟨_, aside⟩ | ⟨_, book, _, _, writes⟩
  · exact ⟨d.book, aside⟩
  · exact ⟨book, writes⟩

/-- Where a settlement is the answer, the book is what it makes of the outcome. -/
theorem Settles.written {o : PaymentOutcome} {s s' : Settlement} (settles : Settles d d' o (.ok s))
    (applied : d.book.finalize o d.around.now = .ok (s', book)) : Writes d d' book := by
  rcases settles with ⟨⟨_, refused⟩, _⟩ | ⟨_, _, applied', _, writes⟩
  · cases refused
  · cases applied.symm.trans applied'
    exact writes

theorem updated_yields (id : Uuid) (expected next : OrderStatus) (d : OrderDesk) :
    Yields (write fun b now => .ok (b.updateStatus id expected next now)) d fun r d' =>
      Swaps d d' id expected next r := by
  refine (write_yields _ d).mono fun r d' answer => ?_
  rcases answer with ⟨a, book, same, rfl, writes⟩ | ⟨e, impossible, _⟩
  · simp only [OrderBook.updateStatus] at same
    split at same
    · cases same
      exact .inl ⟨nofun, writes⟩
    · next order found =>
      split at same
      · next expects =>
        cases same
        exact .inr ⟨order, rfl, found, expects, writes⟩
      · cases same
        exact .inl ⟨nofun, writes⟩
  · cases impossible

theorem swapStatus_yields (id : Uuid) (expected next : OrderStatus) (d : OrderDesk) :
    Yields (swapStatus id expected next) d fun r d' => Swaps d d' id expected next r := by
  refine (lift_aside (mishap_yields .updateStatus d.around)).bind fun m d' aside => ?_
  have swapped := (updated_yields id expected next d').mono fun _ _ => aside.then_swaps
  cases m with
  | fails | loses => exact .returned (.inl ⟨nofun, aside⟩)
  | none | hides | taken | failsAfterwards => exact swapped

/-- An order is entered as the book enters it, or nothing is. -/
theorem create_yields (order : Order) (payment : PaymentTransaction) (eventId : Uuid)
    (d : OrderDesk) :
    Yields (create order payment eventId) d fun r d' =>
      (r ≠ .ok .created ∧ (r = .ok .duplicate → d.book.isProcessed eventId = true) ∧
          Aside d d') ∨
        ∃ book, r = .ok .created ∧
          d.book.create order payment eventId d.around.now = .ok (.created, book) ∧
          Writes d d' book := by
  refine (lift_aside (failure_yields .createOrder d.around)).bind fun failure d' aside => ?_
  cases failure with
  | some e => exact .returned (.inl ⟨nofun, nofun, aside⟩)
  | none =>
    refine (write_yields _ d').mono fun r d'' answer => ?_
    rcases aside.then_written answer with ⟨a, book, entered, rfl, writes⟩ | ⟨e, _, rfl, aside'⟩
    · cases a with
      | created => exact .inr ⟨book, rfl, entered, writes⟩
      | duplicate =>
        obtain ⟨rfl, known⟩ := OrderBook.create_duplicate entered
        exact .inl ⟨nofun, fun _ => known, writes⟩
    · exact .inl ⟨nofun, nofun, aside'⟩

theorem finalize_yields (o : PaymentOutcome) (d : OrderDesk) :
    Yields (finalize o) d fun r d' => Settles d d' o r := by
  refine (lift_aside (mishap_yields .finalizePayment d.around)).bind fun m d' aside => ?_
  have written := (write_yields (fun b now => b.finalize o now) d').mono fun r d'' answer =>
    aside.then_written answer
  have settled := written.mono fun _ _ => Settles.of_written
  cases m with
  | fails e => exact .returned (.inl ⟨⟨_, rfl⟩, aside⟩)
  | failsAfterwards e =>
    refine written.bind fun r d'' answer => ?_
    rcases answer with ⟨s, book, applied, rfl, writes⟩ | ⟨_, _, rfl, aside'⟩
    · exact .returned (.inr ⟨s, book, applied, .inr ⟨_, rfl⟩, writes⟩)
    · exact .returned (.inl ⟨⟨_, rfl⟩, aside'⟩)
  | none | hides | taken | loses => exact settled

/-- Unless it fails when all is done, a call that fails has done nothing. -/
theorem finalize_prompt_yields (o : PaymentOutcome) (d : OrderDesk) :
    Yields (finalize o) d fun r d' =>
      d.around.IsPrompt .finalizePayment → (∃ e, r = .error e) → Aside d d' := by
  refine (lift_yields (P := fun m _ => m = (takeFrom .finalizePayment d.around.mishaps).1)
    ⟨rfl, mishap_yields .finalizePayment d.around⟩).bind fun m d' ⟨same, aside⟩ => ?_
  have written := (write_yields (fun b now => b.finalize o now) d').mono fun r d'' answer =>
    aside.then_written answer
  have unchanged : Yields (write fun b now => b.finalize o now) d' fun r d'' =>
      d.around.IsPrompt .finalizePayment → (∃ e, r = .error e) → Aside d d'' :=
    written.mono fun r d'' answer _ failed => by
      rcases answer with ⟨s, book, _, rfl, _⟩ | ⟨_, _, rfl, aside'⟩
      · exact nomatch failed
      · exact aside'
  cases m with
  | fails e => exact .returned fun _ _ => aside
  | failsAfterwards e =>
    refine written.bind fun r d'' _ => ?_
    cases r <;> exact .returned fun prompt => absurd same.symm (prompt e)
  | none | hides | taken | loses => exact unchanged

/-- Telling the others changes no book. -/
theorem complete_yields (o : PaymentOutcome) (d : OrderDesk) :
    Yields (complete o) d fun r d' => Settles d d' o r := by
  refine (finalize_yields o d).bind fun r d' settles => ?_
  split
  · refine (lift_aside (meter_yields _ d'.around)).bind fun _ d'' aside => ?_
    split
    · refine .changed (.returned (settles.then_aside (aside.then_aside ?_)))
      exact ⟨.refl _, rfl, rfl, rfl, rfl⟩
    · exact .returned (settles.then_aside aside)
  · exact .returned settles

theorem complete_prompt_yields (o : PaymentOutcome) (d : OrderDesk) :
    Yields (complete o) d fun r d' =>
      d.around.IsPrompt .finalizePayment → (∃ e, r = .error e) → Aside d d' := by
  refine (finalize_prompt_yields o d).bind fun r d' unchanged => ?_
  split
  · refine (lift_aside (meter_yields _ d'.around)).bind fun _ d'' _ => ?_
    split
    · exact .changed (.returned fun _ failed => nomatch failed)
    · exact .returned fun _ failed => nomatch failed
  · exact .returned unchanged

end OrderDesk

end OrderFlow
