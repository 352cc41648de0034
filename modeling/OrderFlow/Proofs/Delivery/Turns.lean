import OrderFlow.Proofs.Delivery.Moves
import OrderFlow.Proofs.Order.Index

/-!
How a delivery goes from phase to phase, and why. Its end tells what has become of the message: an
event that was dealt with is in the ledger, a dead letter was accepted by the broker, and whatever
fails leaves the book as it is, as long as the store does not fail when all is done (`Turn`). How
often an event is tried is counted along the way.
-/
namespace OrderFlow.Delivery
open OrderDesk Surroundings

variable {_ : EmailCheck}

namespace Phase

/-- The event that is being dealt with, and the tries that have failed. -/
def deals? : Phase → Option (Incoming × Failures)
  | checking event failures | entering event failures => some (.orderCreated event, failures)
  | reconciling event failures => some (.paymentCompleted event, failures)
  | _ => none

theorem trying_ne_done (failures : Failures) (event : Incoming) (r : Except Failure Handling) :
    trying failures event ≠ done r := by
  cases event <;> exact nofun

/-- Whether a try to deal with an event begins here. -/
def isTry : Phase → Bool
  | checking .. | reconciling .. => true
  | _ => false

/-- Where nothing is done before a failure is told. -/
def IsSafe (s : Surroundings) : Phase → Prop
  | reconciling .. => s.IsPrompt .finalizePayment
  | _ => True

/-- The answer that a delivery gets in a phase: of the store, or of reading the message. -/
def answer [EmailCheck] (m : Message) (d : OrderDesk) : Phase → Except OrderError Unit
  | reading => (Incoming.ofMessage m).map fun _ => ()
  | checking event _ => ((OrderDesk.isProcessed event.eventId).run d).1.map fun _ => ()
  | entering event _ =>
    let (new, d) := (newOrder event).run d
    ((OrderDesk.create new.1 new.2 event.eventId).run d).1.map fun _ => ()
  | reconciling event _ => ((OrderDesk.complete (.ofEvent event)).run d).1.map fun _ => ()
  | _ => .ok ()

/-- What has gone wrong in a phase. -/
def error? [EmailCheck] (m : Message) (d : OrderDesk) (p : Phase) : Option OrderError :=
  match p.answer m d with
  | .error e => some e
  | .ok () => none

end Phase

/-- How a delivery may go from phase to phase. -/
inductive Turn [EmailCheck] (cfg : Config) (m : Message) (d d' : OrderDesk) :
    Phase → Phase → Prop where
  | reads {event : Incoming} (read : Incoming.ofMessage m = .ok event) (aside : Aside d d') :
      Turn cfg m d d' .reading (.trying {} event)
  | misreads {e : OrderError} (misread : Incoming.ofMessage m = .error e) (aside : Aside d d') :
      Turn cfg m d d' .reading (.burying m.name e 1 d.around.now)
  | goesOn {event : OrderCreated} {failures : Failures}
      (answered : (Phase.checking event failures).error? m d = none) (aside : Aside d d') :
      Turn cfg m d d' (.checking event failures) (.entering event failures)
  | handles {p : Phase} {event : Incoming} {failures : Failures}
      (deals : p.deals? = some (event, failures))
      (unknown : d.book.isProcessed event.eventId = false)
      (known : d'.book.isProcessed event.eventId = true) (broker : d'.broker = d.broker) :
      Turn cfg m d d' p (.done (.ok .processed))
  | repeats {p : Phase} {event : Incoming} {failures : Failures}
      (deals : p.deals? = some (event, failures))
      (known : d.book.isProcessed event.eventId = true) (aside : Aside d d') :
      Turn cfg m d d' p (.done (.ok .duplicate))
  /-- The event waits for another try, or its message is to go to the dead letters, or the delivery
  breaks off because a number has left its range or a wait cannot be drawn. -/
  | fails {p p' : Phase} {event : Incoming} {failures : Failures} {e : OrderError}
      (deals : p.deals? = some (event, failures)) (error : p.error? m d = some e)
      (next : (∃ first wake, failures.count < cfg.retry.maxRetries ∧ e.retryable = true ∧
          p' = .pausing event ⟨failures.count + 1, first⟩ wake) ∨
        (∃ first, p' = .burying event.eventId.text e (failures.count + 1) first) ∨
        p' = .done (.error .overflow))
      (broker : d'.broker = d.broker)
      (unchanged : p.IsSafe d.around → d'.book = d.book) :
      Turn cfg m d d' p p'
  | wakes {event : Incoming} {failures : Failures} {wake : Instant} (aside : Aside d d') :
      Turn cfg m d d' (.pausing event failures wake) (.trying failures event)
  | buries {name : String} {e : OrderError} {tries : Nat} {first : Instant} {letter : DeadLetter}
      (shape : letter = .ofMessage m name e.message e.code tries first d.around.now cfg.service)
      (accepted : d'.broker.log = d.broker.log ++ [letter.message]) (book : d'.book = d.book) :
      Turn cfg m d d' (.burying name e tries first) (.done (.ok .deadLettered))
  | unburied {name : String} {e : OrderError} {tries : Nat} {first : Instant} {fault : Failure}
      (refused : d'.broker.log = d.broker.log) (book : d'.book = d.book) :
      Turn cfg m d d' (.burying name e tries first) (.done (.error fault))
  | rests {r : Except Failure Handling} (aside : Aside d d') : Turn cfg m d d' (.done r) (.done r)

variable {cfg : Config} {m : Message} {d : OrderDesk}

/-- After a failed try there is another one, if it may help and some are left, or a dead letter. -/
theorem afterFailure_next (cfg : Config) (event : Incoming) (failures : Failures) (e : OrderError)
    (d : OrderDesk) :
    Yields (afterFailure cfg event failures e) d fun p' d' => Aside d d' ∧
      ((∃ first wake, failures.count < cfg.retry.maxRetries ∧ e.retryable = true ∧
          p' = .pausing event ⟨failures.count + 1, first⟩ wake) ∨
        (∃ first, p' = .burying event.eventId.text e (failures.count + 1) first) ∨
        p' = .done (.error .overflow)) := by
  unfold afterFailure
  split
  · exact .returned ⟨.refl d, .inr (.inr rfl)⟩
  · refine (lift_aside ((clock_yields d.around).mono fun _ _ both => both.2)).bind
      fun now d₁ aside₁ => ?_
    refine (lift_aside (draw_yields d₁.around)).bind fun draw d₂ aside₂ => ?_
    have aside := aside₁.then_aside aside₂
    split
    · next wait again =>
      obtain ⟨passing, left, -, -⟩ := RetryPolicy.of_sequel_again again
      exact .returned ⟨aside, .inl ⟨_, _, left, passing, rfl⟩⟩
    · exact .returned ⟨aside, .inr (.inl ⟨_, rfl⟩)⟩
    · exact .returned ⟨aside, .inr (.inr rfl)⟩

/-- A failed try changes nothing but the book, and that only if the store fails too late. -/
theorem failing {p : Phase} {event : Incoming} {failures : Failures} {e : OrderError}
    {d₁ : OrderDesk} {book : OrderBook} (deals : p.deals? = some (event, failures))
    (error : p.error? m d = some e) (writes : Writes d d₁ book)
    (unchanged : p.IsSafe d.around → d₁.book = d.book) :
    Yields (afterFailure cfg event failures e) d₁ fun p' d' => Turn cfg m d d' p p' :=
  (afterFailure_next cfg event failures e d₁).mono fun _ _ ⟨aside, next⟩ =>
    .fails deals error next (aside.broker.trans writes.broker)
      fun safe => aside.book.trans (unchanged safe)

theorem reading_turns (d : OrderDesk) :
    Yields (Phase.reading.step cfg m) d fun p' d' => Turn cfg m d d' .reading p' := by
  simp only [Phase.step]
  split
  · next event read => exact .returned (.reads read (.refl d))
  · next e misread =>
    refine (lift_yields (clock_yields d.around)).bind fun now d₁ answered => ?_
    obtain ⟨rfl, aside₁⟩ := answered
    exact .returned (.misreads misread aside₁)

theorem checking_turns (event : OrderCreated) (failures : Failures) (d : OrderDesk) :
    Yields ((Phase.checking event failures).step cfg m) d fun p' d' =>
      Turn cfg m d d' (.checking event failures) p' := by
  refine (isProcessed_yields event.eventId d).answered.bind
    fun r d₁ ⟨same, aside₁, known⟩ => ?_
  match r with
  | .error e =>
    refine failing rfl ?_ aside₁ fun _ => aside₁.book
    simp only [Phase.error?, Phase.answer, same, Except.map]
  | .ok true => exact .returned (.repeats rfl (known rfl) aside₁)
  | .ok false =>
    refine .returned (.goesOn ?_ aside₁)
    simp only [Phase.error?, Phase.answer, same, Except.map]

/-- Entering an order: it is entered, or its event was known, or nothing comes of it. -/
theorem entering_turns (event : OrderCreated) (failures : Failures) (d : OrderDesk) :
    Yields ((Phase.entering event failures).step cfg m) d fun p' d' =>
      Turn cfg m d d' (.entering event failures) p' := by
  refine (newOrder_yields event d).answered.bind fun new d₁ ⟨same₁, _, aside₁⟩ => ?_
  obtain ⟨order, payment⟩ := new
  refine (create_yields order payment event.eventId d₁).answered.bind
    fun r d₂ ⟨same₂, creates⟩ => ?_
  have answer : (Phase.entering event failures).answer m d = r.map fun _ => () := by
    simp only [Phase.answer, same₁, same₂]
  rcases creates with ⟨not_created, known, aside₂⟩ | ⟨book, rfl, entered, writes⟩
  · have aside := aside₁.then_aside aside₂
    match r with
    | .error e =>
      refine failing rfl ?_ aside fun _ => aside.book
      rw [Phase.error?, answer]
      rfl
    | .ok .duplicate =>
      exact .returned (.repeats rfl (aside₁.book ▸ known rfl) aside)
    | .ok .created => exact absurd rfl not_created
  · have created := OrderBook.create_created entered
    have unknown : d.book.isProcessed event.eventId = false := aside₁.book ▸ created.unknown
    have known : book.isProcessed event.eventId = true := by
      refine OrderBook.isProcessed_of_find? (p := ⟨.orderCreated, d₁.around.now⟩) ?_
      rw [created.entered]
      exact (Assoc.find?_insert ..).trans (if_pos rfl)
    refine .changed (.returned (.handles rfl unknown ?_ ?_))
    · rw [writes.book]
      exact known
    · exact writes.broker.trans aside₁.broker

/-- Writing down the end of a payment: it is noted, or was known, or nothing comes of it. -/
theorem reconciling_turns (event : PaymentCompleted) (failures : Failures) (d : OrderDesk) :
    Yields ((Phase.reconciling event failures).step cfg m) d fun p' d' =>
      Turn cfg m d d' (.reconciling event failures) p' := by
  refine ((complete_yields (.ofEvent event) d).and
    (complete_prompt_yields (.ofEvent event) d)).answered.bind
    fun r d₁ ⟨same, does, unchanged⟩ => ?_
  have answer : (Phase.reconciling event failures).answer m d = r.map fun _ => () := by
    simp only [Phase.answer, same]
  match r with
  | .error e =>
    obtain ⟨book, writes⟩ := does.writes
    refine failing rfl ?_ writes fun prompt => (unchanged prompt ⟨e, rfl⟩).book
    rw [Phase.error?, answer]
    rfl
  | .ok s =>
    rcases does with ⟨⟨_, failed⟩, _⟩ | ⟨s', book, applied, answered, writes⟩
    · cases failed
    · have same : s' = s := by
        rcases answered with same | ⟨_, failed⟩
        · exact (Except.ok.inj same).symm
        · cases failed
      subst same
      have noted := OrderBook.finalize_notes applied
      have counts (processed : book.processed =
          d.book.processed.insert event.eventId ⟨.paymentCompleted, d.around.now⟩) :
          d₁.book.isProcessed event.eventId = true := by
        refine OrderBook.isProcessed_of_find? (p := ⟨.paymentCompleted, d.around.now⟩) ?_
        rw [writes.book, processed]
        exact (Assoc.find?_insert ..).trans (if_pos rfl)
      cases s' with
      | duplicate =>
        rcases noted with ⟨_, rfl, known⟩ | ⟨other, _⟩
        · exact .returned (.repeats rfl known writes)
        · exact absurd rfl other
      | applied | alreadySettled =>
        rcases noted with ⟨duplicate, _⟩ | ⟨_, unknown, _, processed⟩
        · cases duplicate
        · exact .returned (.handles rfl unknown
            (counts processed) writes.broker)

theorem burying_turns (name : String) (e : OrderError) (tries : Nat) (first : Instant)
    (d : OrderDesk) :
    Yields (bury cfg m name e tries first) d fun p' d' =>
      Turn cfg m d d' (.burying name e tries first) p' := by
  refine (lift_yields (clock_yields d.around)).bind fun now d₁ ⟨same, aside₁⟩ => ?_
  subst same
  refine .seen ?_
  generalize shape : DeadLetter.ofMessage m name e.message e.code tries first d.around.now
    cfg.service = letter
  refine (submit_yields letter d₁).bind fun answer d₂ ⟨sent, aside₂⟩ => ?_
  have book := aside₂.book.trans aside₁.book
  rw [aside₁.broker] at sent
  have log := d.broker.send_log letter.message
  rw [← sent] at log
  obtain ⟨result, broker⟩ := answer
  refine .changed ?_
  cases result with
  | ok u =>
    rcases log with ⟨_, grows⟩ | ⟨⟨_, refused⟩, _⟩
    · exact .returned (.buries shape.symm grows book)
    · cases refused
  | error fault =>
    rcases log with ⟨accepted, _⟩ | ⟨_, stays⟩
    · cases accepted
    · exact .returned (.unburied stays book)

/-- **How a delivery goes on.** -/
theorem Phase.step_turns (cfg : Config) (m : Message) (p : Phase) (d : OrderDesk) :
    Yields (p.step cfg m) d fun p' d' => Turn cfg m d d' p p' := by
  cases p with
  | reading => exact reading_turns d
  | checking event failures => exact checking_turns event failures d
  | entering event failures => exact entering_turns event failures d
  | reconciling event failures => exact reconciling_turns event failures d
  | pausing event failures wake => exact .returned (.wakes (.refl d))
  | burying name e tries first => exact burying_turns name e tries first d
  | done r => exact .returned (.rests (.refl d))

end OrderFlow.Delivery
