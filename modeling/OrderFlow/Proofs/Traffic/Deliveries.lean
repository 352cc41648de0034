import OrderFlow.Proofs.Delivery.Turns
import OrderFlow.Proofs.Traffic.Books
import OrderFlow.Proofs.Traffic.Past

/-!
Deliveries in traffic. What is told of the past is what was done (`Traffic.run_keeps_actual`), so a
delivery has gone from phase to phase as `Delivery.Turn` has it, on the desk of the order service
(`Happening.IsActual.turn`).
-/
namespace OrderFlow

variable {_ : EmailCheck}

namespace Happening
variable {cfg : Shop.Config} {h : Happening} {m : Message} {p : Delivery.Phase}

/-- What is told is what the doing does. -/
def IsActual [EmailCheck] (cfg : Shop.Config) (h : Happening) : Prop :=
  (h.before.step cfg).run h.earlier = (h.after, h.later)

/-- What has gone wrong with a delivery. -/
def failure? [EmailCheck] (h : Happening) : Option OrderError :=
  match h.before with
  | .delivery m p => p.error? m h.earlier.orderDesk
  | _ => none

/-- The event whose delivery ends here with the answer that it was processed. -/
def processes? (h : Happening) : Option Uuid :=
  match h.before, h.after with
  | .delivery _ p, .delivery _ (.done (.ok .processed)) => p.deals?.map (·.1.eventId)
  | _, _ => none

/-- How a delivery has gone on. -/
theorem IsActual.turn (actual : h.IsActual cfg) (before : h.before = .delivery m p) :
    ∃ p' d, h.after = .delivery m p' ∧ h.later = h.earlier.withOrderDesk d ∧
      Delivery.Turn cfg.delivery m h.earlier.orderDesk d p p' := by
  have turns : Yields ((Doing.delivery m p).step cfg) h.earlier fun a s => ∃ p' d,
      a = .delivery m p' ∧ s = h.earlier.withOrderDesk d ∧
        Delivery.Turn cfg.delivery m h.earlier.orderDesk d p p' := by
    refine (Shop.atOrders_yields (p.step_turns cfg.delivery m _)).bind ?_
    rintro p' _ ⟨d, rfl, turn⟩
    exact .returned ⟨p', d, rfl, rfl, turn⟩
  unfold Yields at turns
  rw [← before, show (h.before.step cfg).run h.earlier = _ from actual] at turns
  exact turns

/-- Whoever has processed an event was the first to deal with it. -/
theorem IsActual.processes (actual : h.IsActual cfg) {id : Uuid}
    (processes : h.processes? = some id) :
    h.earlier.book.isProcessed id = false ∧ h.later.book.isProcessed id = true := by
  unfold processes? at processes
  split at processes
  · next p _ before after =>
    obtain ⟨p', d, after', later, turn⟩ := actual.turn before
    have ended : Delivery.Phase.done (.ok .processed) = p' := by
      rw [after] at after'
      exact (Doing.delivery.inj after').2
    rw [later]
    cases turn with
    | handles deals unknown known =>
      rw [deals] at processes
      cases processes
      exact ⟨unknown, known⟩
    | fails _ _ next =>
      rcases next with ⟨_, _, _, _, rfl⟩ | ⟨_, rfl⟩ | rfl <;> cases ended
    | reads | wakes => exact absurd ended.symm (Delivery.Phase.trying_ne_done _ _ _)
    | rests => cases processes
    | misreads | goesOn | repeats | buries | unburied => cases ended
  · cases processes

/-- What becomes of a delivery that is about to enter an order. -/
theorem IsActual.enters (actual : h.IsActual cfg) {event : OrderCreated}
    {failures : Delivery.Failures} (before : h.before = .delivery m (.entering event failures)) :
    (h.after = .delivery m (.done (.ok .processed)) ∧
        h.earlier.book.isProcessed event.eventId = false ∧
        h.later.book.isProcessed event.eventId = true) ∨
      h.later.book = h.earlier.book ∧ (h.earlier.book.isProcessed event.eventId = true ∨
        (∃ e, h.failure? = some e) ∧ ∀ handling, h.after ≠ .delivery m (.done (.ok handling))) := by
  obtain ⟨p', d, after, later, turn⟩ := actual.turn before
  have failure (e : OrderError)
      (error : (Delivery.Phase.entering event failures).error? m h.earlier.orderDesk = some e) :
      h.failure? = some e := by
    rw [failure?, before]
    exact error
  rw [after, later]
  cases turn with
  | handles deals unknown known =>
    cases deals
    exact .inl ⟨rfl, unknown, known⟩
  | repeats deals known aside =>
    cases deals
    exact .inr ⟨aside.book, .inl known⟩
  | fails deals error next _ unchanged =>
    refine .inr ⟨unchanged trivial, .inr ⟨⟨_, failure _ error⟩, fun handling same => ?_⟩⟩
    have ended := (Doing.delivery.inj same).2
    rcases next with ⟨_, _, _, _, rfl⟩ | ⟨_, rfl⟩ | rfl <;> cases ended

end Happening

/-- A delivery that is about to enter an order enters it, or leaves the book as it is. -/
theorem Doing.Move.entering {cfg : Shop.Config} {s s' : Shop} {d' : Doing} {m : Message}
    {event : OrderCreated} {failures : Delivery.Failures}
    (move : Move cfg s (.delivery m (.entering event failures)) d' s') :
    s'.book = s.book ∨ ∃ order payment, order.id = event.orderId ∧
      order.number = event.orderNumber ∧
      s.book.Created s'.book order payment event.eventId s.around.now := by
  cases move with
  | delivery move =>
    cases move with
    | enters enters =>
      obtain ⟨lineIds, id, _, rfl, entered⟩ := enters.entered
      exact .inr ⟨_, _, rfl, rfl, OrderBook.create_created entered⟩
    | repeats aside | fails _ _ aside => exact .inl aside.book

namespace Traffic
variable {cfg : Shop.Config} {t t' : Traffic} {e : Event}

/-- What a doer does, told of. -/
abbrev news (t : Traffic) (doer : Nat) (d d' : Doing) (later : Shop) : Happening :=
  ⟨doer, t.runOf doer d, d, d', t.shop, later⟩

theorem step_isActual {h : Happening} (member : h ∈ (t.step cfg e).past) :
    h ∈ t.past ∨ h.IsActual cfg := by
  cases e with
  | call | abandon | change => exact .inl member
  | advance doer =>
    simp only [step] at member
    split at member
    · exact .inl member
    · split at member
      · refine (List.mem_append.mp member).imp_right fun new => ?_
        rw [List.mem_singleton.mp new]
        rfl
      · exact .inl member

/-- What every step keeps holds after every run, and the steps may be looked at as what they are. -/
theorem run_keeps_actual {P : Traffic → Prop} {events : List Event} (sound : t.IsSound)
    (actual : ∀ h ∈ t.past, h.IsActual cfg) (holds : P t)
    (keeps : ∀ t e t', t.IsSound → (∀ h ∈ t'.past, h.IsActual cfg) → P t → Step cfg t e t' → P t') :
    P (t.run cfg events) := by
  induction events generalizing t with
  | nil => exact holds
  | cons e events ih =>
    have step : Step cfg t e (t.step cfg e) := step_cases cfg sound e
    have actual : ∀ h ∈ (t.step cfg e).past, h.IsActual cfg :=
      fun h member => (step_isActual member).elim (actual h) id
    exact ih (sound.step step) actual (keeps t e _ sound actual holds step)

theorem run_isActual [EmailCheck] (cfg : Shop.Config) (around : Surroundings)
    (stock : Assoc Uuid Int) (sequences : Assoc CalendarDay Int) (events : List Event) :
    ∀ h ∈ ((opening around stock sequences).run cfg events).past, h.IsActual cfg :=
  run_keeps_actual (P := fun t => ∀ h ∈ t.past, h.IsActual cfg)
    (opening_isSound around stock sequences) (fun _ member => nomatch member)
    (fun _ member => nomatch member) fun _ _ _ _ actual _ _ => actual

end Traffic

end OrderFlow
