import OrderFlow.Delivery
import OrderFlow.Proofs.Order.Calls

/-!
What the delivery of a message can do in one phase. The book changes in two ways only: an order is
entered, or an outcome is applied; the broker gets dead letters only.
-/
namespace OrderFlow.Delivery
open OrderDesk Surroundings

variable {_ : EmailCheck}

/-- The event that a delivery deals with. -/
def Phase.event? : Phase → Option Incoming
  | .checking event _ | .entering event _ => some (.orderCreated event)
  | .reconciling event _ => some (.paymentCompleted event)
  | .pausing event _ _ => some event
  | _ => none

/-- The desk `d'` comes about from `d` by entering an order. -/
structure Enters (d d' : OrderDesk) (event : OrderCreated) (order : Order) : Prop where
  around : d.around.Follows d'.around
  entered : ∃ lineIds id, lineIds.length = event.items.length ∧
    order = .ofEvent event lineIds d.around.now ∧
    d.book.create order (.pendingFor order id d.around.now) event.eventId d.around.now =
      .ok (.created, d'.book)
  gateway : d'.gateway = d.gateway
  broker : d'.broker = d.broker
  dispatched : d'.dispatched = d.dispatched ++ [order.id]

/-- The desk `d'` comes about from `d` by sending a letter, which the broker may refuse. -/
structure Sends (d d' : OrderDesk) (letter : SentMessage) : Prop where
  around : d.around.Follows d'.around
  book : d'.book = d.book
  gateway : d'.gateway = d.gateway
  broker : d'.broker = (d.broker.send letter).2
  dispatched : d'.dispatched = d.dispatched

/-- What a delivery may do in one phase. -/
inductive Move [EmailCheck] (m : Message) (d d' : OrderDesk) : Phase → Phase → Prop where
  | reads {event : Incoming} (read : Incoming.ofMessage m = .ok event) (aside : Aside d d') :
      Move m d d' .reading (.trying {} event)
  | misreads {e : OrderError} (misread : Incoming.ofMessage m = .error e) (aside : Aside d d') :
      Move m d d' .reading (.burying m.name e 1 d.around.now)
  | knows {event : OrderCreated} {failures : Failures}
      (known : d.book.isProcessed event.eventId = true) (aside : Aside d d') :
      Move m d d' (.checking event failures) (.done (.ok .duplicate))
  | goesOn {event : OrderCreated} {failures : Failures} (aside : Aside d d') :
      Move m d d' (.checking event failures) (.entering event failures)
  | enters {event : OrderCreated} {order : Order} {failures : Failures}
      (enters : Enters d d' event order) :
      Move m d d' (.entering event failures) (.done (.ok .processed))
  | repeats {event : OrderCreated} {failures : Failures} (aside : Aside d d') :
      Move m d d' (.entering event failures) (.done (.ok .duplicate))
  | reconciles {event : PaymentCompleted} {failures : Failures} {s : Settlement}
      {handling : Handling} (does : Settles d d' (.ofEvent event) (.ok s)) :
      Move m d d' (.reconciling event failures) (.done (.ok handling))
  /-- The event of a failed try is kept, or buried, or dropped because a number has left its
  range. -/
  | fails {p p' : Phase} {event : OrderCreated} (deals : p.event? = some (.orderCreated event))
      (next : ∀ event', p'.event? = some event' → p.event? = some event') (aside : Aside d d') :
      Move m d d' p p'
  | failsToReconcile {event : PaymentCompleted} {failures : Failures} {e : OrderError} {p' : Phase}
      (next : ∀ event', p'.event? = some event' → event' = .paymentCompleted event)
      (does : Settles d d' (.ofEvent event) (.error e)) :
      Move m d d' (.reconciling event failures) p'
  | wakes {event : Incoming} {failures : Failures} {wake : Instant} (aside : Aside d d') :
      Move m d d' (.pausing event failures wake) (.trying failures event)
  | buries {name : String} {e : OrderError} {tries : Nat} {first : Instant} {letter : SentMessage}
      {r : Except Failure Handling} (topic : letter.topic = Message.deadLetterTopic m.topic)
      (sends : Sends d d' letter) : Move m d d' (.burying name e tries first) (.done r)
  | rests {r : Except Failure Handling} (aside : Aside d d') : Move m d d' (.done r) (.done r)

variable {d : OrderDesk}

/-- After a failed try the event is dealt with again, if any is. -/
theorem afterFailure_yields (cfg : Config) (event : Incoming) (failures : Failures)
    (e : OrderError) (d : OrderDesk) :
    Yields (afterFailure cfg event failures e) d fun p' d' =>
      (∀ event', p'.event? = some event' → event' = event) ∧ Aside d d' := by
  unfold afterFailure
  split
  · exact .returned ⟨(fun _ deals => nomatch deals), .refl d⟩
  · refine (lift_aside ((clock_yields d.around).mono fun _ _ both => both.2)).bind
      fun now d₁ aside₁ => ?_
    refine (lift_aside (draw_yields d₁.around)).bind fun draw d₂ aside₂ => ?_
    split
    · exact .returned ⟨fun event' deals => (Option.some.inj deals).symm, aside₁.then_aside aside₂⟩
    · exact .returned ⟨(fun _ deals => nomatch deals), aside₁.then_aside aside₂⟩
    · exact .returned ⟨(fun _ deals => nomatch deals), aside₁.then_aside aside₂⟩

/-- As many identifiers are handed out as are asked for. -/
theorem orderedIds_yields {α : Type} (xs : List α) (d : OrderDesk) :
    Yields (xs.mapM fun _ => (orderedId : StateM OrderDesk Uuid)) d fun ids d' =>
      ids.length = xs.length ∧ Aside d d' := by
  induction xs generalizing d with
  | nil => exact ⟨rfl, .refl d⟩
  | cons x xs ih =>
    rw [List.mapM_cons]
    refine (lift_yields (orderedId_yields d.around)).bind fun id d₁ ⟨_, aside₁⟩ => ?_
    refine (ih d₁).bind fun ids d₂ ⟨length, aside₂⟩ => ?_
    exact .returned ⟨congrArg Nat.succ length, aside₁.then_aside aside₂⟩

theorem newOrder_yields (event : OrderCreated) (d : OrderDesk) :
    Yields (newOrder event) d fun new d' =>
      (∃ lineIds id, lineIds.length = event.items.length ∧
        new.1 = .ofEvent event lineIds d.around.now ∧
        new.2 = .pendingFor new.1 id d.around.now) ∧ Aside d d' := by
  refine (lift_yields (clock_yields d.around)).bind fun now d₁ ⟨same, aside₁⟩ => ?_
  refine (orderedIds_yields event.items d₁).bind fun lineIds d₂ ⟨length, aside₂⟩ => ?_
  refine (lift_aside ((orderedId_yields d₂.around).mono fun _ _ both => both.2)).bind
    fun id d₃ aside₃ => ?_
  subst same
  exact .returned ⟨⟨lineIds, id, length, rfl, rfl⟩, (aside₁.then_aside aside₂).then_aside aside₃⟩

/-- The broker answers for a dead letter. -/
theorem submit_answers (letter : DeadLetter) (b : Broker) (s : Surroundings) :
    Yields (letter.submit b) s fun answer s' =>
      answer = b.send letter.message ∧ Surroundings.Follows s s' := by
  unfold DeadLetter.submit
  cases b.send letter.message with
  | mk result broker =>
    cases result with
    | ok _ => exact (meter_yields _ s).bind fun _ _ follows => .returned ⟨rfl, follows⟩
    | error e => exact .returned ⟨rfl, .refl _⟩

theorem submit_yields (letter : DeadLetter) (d : OrderDesk) :
    Yields (liftM (letter.submit d.broker)) d fun answer d' =>
      answer = d.broker.send letter.message ∧ Aside d d' :=
  lift_yields (submit_answers letter d.broker d.around)

theorem bury_moves (cfg : Config) (m : Message) (name : String) (e : OrderError) (tries : Nat)
    (first : Instant) (d : OrderDesk) :
    Yields (bury cfg m name e tries first) d fun p' d' =>
      Move m d d' (.burying name e tries first) p' := by
  refine (lift_yields (clock_yields d.around)).bind fun now d₁ ⟨same, aside₁⟩ => ?_
  subst same
  refine .seen ?_
  generalize letter : DeadLetter.ofMessage m name e.message e.code tries first d.around.now
    cfg.service = l
  have topic : l.message.topic = Message.deadLetterTopic m.topic := by
    subst letter
    rfl
  refine (submit_yields l d₁).bind fun answer d₂ ⟨sent, aside₂⟩ => ?_
  have before := aside₁.then_aside aside₂
  rw [aside₁.broker] at sent
  subst sent
  refine .changed ?_
  have sends (r : Except Failure Handling) :
      Move m d { d₂ with broker := (d.broker.send l.message).2 } (.burying name e tries first)
        (.done r) :=
    .buries topic ⟨before.around, before.book, before.gateway, rfl, before.dispatched⟩
  split
  · exact .returned (sends _)
  · exact .returned (sends _)

theorem Phase.step_moves (cfg : Config) (m : Message) (p : Phase) (d : OrderDesk) :
    Yields (p.step cfg m) d fun p' d' => Move m d d' p p' := by
  cases p with
  | reading =>
    simp only [Phase.step]
    split
    · next event read => exact .returned (.reads read (.refl d))
    · next e misread =>
      refine (lift_yields (clock_yields d.around)).bind fun now d₁ ⟨same, aside₁⟩ => ?_
      subst same
      exact .returned (.misreads misread aside₁)
  | checking event failures =>
    refine (isProcessed_yields event.eventId d).bind fun r d₁ ⟨aside₁, known⟩ => ?_
    match r with
    | .error e =>
      refine (afterFailure_yields cfg _ failures e d₁).mono fun p' d₂ ⟨next, aside₂⟩ => ?_
      exact .fails rfl (fun event' deals => congrArg some (next event' deals).symm)
        (aside₁.then_aside aside₂)
    | .ok true => exact .returned (.knows (known rfl) aside₁)
    | .ok false => exact .returned (.goesOn aside₁)
  | entering event failures =>
    refine (newOrder_yields event d).bind fun new d₁ ⟨does, aside₁⟩ => ?_
    obtain ⟨lineIds, id, length, shape, pays⟩ := does
    obtain ⟨order, payment⟩ := new
    refine (create_yields order payment event.eventId d₁).bind fun r d₂ creates => ?_
    rcases creates with ⟨not_created, -, aside₂⟩ | ⟨book, rfl, entered, writes⟩
    · match r with
      | .error e =>
        refine (afterFailure_yields cfg _ failures e d₂).mono fun p' d₃ ⟨next, aside₃⟩ => ?_
        exact .fails rfl (fun event' deals => congrArg some (next event' deals).symm)
          ((aside₁.then_aside aside₂).then_aside aside₃)
      | .ok .duplicate => exact .returned (.repeats (aside₁.then_aside aside₂))
      | .ok .created => exact absurd rfl not_created
    · have before := aside₁.trans writes
      have pays : payment = .pendingFor order id d.around.now := pays
      rw [aside₁.book, aside₁.around.now, pays, ← before.book] at entered
      have enters : Enters d { d₂ with dispatched := d₂.dispatched ++ [order.id] } event order :=
        ⟨before.around, ⟨lineIds, id, length, shape, entered⟩, before.gateway, before.broker,
          congrArg (· ++ [order.id]) before.dispatched⟩
      exact .changed (.returned (.enters enters))
  | reconciling event failures =>
    refine (complete_yields (.ofEvent event) d).bind fun r d₁ does => ?_
    match r with
    | .error e =>
      refine (afterFailure_yields cfg _ failures e d₁).mono fun p' d₂ ⟨next, aside₂⟩ => ?_
      exact .failsToReconcile next (does.then_aside aside₂)
    | .ok .duplicate => exact .returned (.reconciles does)
    | .ok (.applied ..) => exact .returned (.reconciles does)
    | .ok (.alreadySettled _) => exact .returned (.reconciles does)
  | pausing event failures wake => exact .returned (.wakes (.refl d))
  | burying name e tries first => exact bury_moves cfg m name e tries first d
  | done r => exact .returned (.rests (.refl d))

/-- A move is a call of the store, or enters an order, or sends a dead letter. -/
theorem Move.does {m : Message} {d d' : OrderDesk} {p p' : Phase} (move : Move m d d' p p') :
    (∃ book, Writes d d' book) ∨ (∃ event order, Enters d d' event order) ∨
      ∃ letter : SentMessage, letter.topic = Message.deadLetterTopic m.topic ∧
        Sends d d' letter := by
  cases move with
  | reads _ aside | misreads _ aside | knows _ aside | goesOn aside | repeats aside
  | fails _ _ aside | wakes aside | rests aside => exact .inl ⟨_, aside⟩
  | reconciles does | failsToReconcile _ does => exact .inl does.writes
  | enters enters => exact .inr (.inl ⟨_, _, enters⟩)
  | buries topic sends => exact .inr (.inr ⟨_, topic, sends⟩)

/-- A delivery calls no gateway. -/
theorem Move.gateway {m : Message} {d d' : OrderDesk} {p p' : Phase} (move : Move m d d' p p') :
    d'.gateway = d.gateway := by
  rcases move.does with ⟨_, writes⟩ | ⟨_, _, enters⟩ | ⟨_, _, sends⟩
  · exact writes.gateway
  · exact enters.gateway
  · exact sends.gateway

theorem Move.follows {m : Message} {d d' : OrderDesk} {p p' : Phase} (move : Move m d d' p p') :
    d.around.Follows d'.around := by
  rcases move.does with ⟨_, writes⟩ | ⟨_, _, enters⟩ | ⟨_, _, sends⟩
  · exact writes.around
  · exact enters.around
  · exact sends.around

/-- A delivery sends dead letters only. -/
theorem Move.log {m : Message} {d d' : OrderDesk} {p p' : Phase} (move : Move m d d' p p') :
    d'.broker.log = d.broker.log ∨ ∃ letter : SentMessage,
      letter.topic = Message.deadLetterTopic m.topic ∧
        d'.broker.log = d.broker.log ++ [letter] := by
  rcases move.does with ⟨_, writes⟩ | ⟨_, _, enters⟩ | ⟨letter, topic, sends⟩
  · exact .inl (congrArg (·.log) writes.broker)
  · exact .inl (congrArg (·.log) enters.broker)
  · rw [sends.broker]
    rcases d.broker.send_log letter with ⟨_, grows⟩ | ⟨_, stays⟩
    · exact .inr ⟨letter, topic, grows⟩
    · exact .inl stays

end OrderFlow.Delivery
