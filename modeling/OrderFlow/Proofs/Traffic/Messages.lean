import OrderFlow.Proofs.Traffic.Books
import OrderFlow.Proofs.Traffic.Sales

/-!
Messages in traffic. What the broker has accepted on the topic of new orders was posted by the
checkout service: publishers send rows of their own outbox only, the order service posts ends of
payments, and dead letters go to topics of their own (`run_isPosted`).
-/
namespace OrderFlow

variable {_ : EmailCheck}

theorem Message.deadLetterTopic_ne (topic : String) :
    deadLetterTopic topic ≠ EventKind.orderCreated.topic := by
  intro same
  have last := congrArg (fun s => s.toList.getLast?) same
  simp [deadLetterTopic, EventKind.topic] at last

namespace OrderBook
variable {now : Instant} {o? : Option PaymentOutcome} {e? : Option OrderCreated}
  {b b' : OrderBook}

/-- The order service posts ends of payments only, and takes nothing back. -/
theorem Change.postings (change : Change now o? e? b b') :
    b'.outbox.postings = b.outbox.postings ∨
      ∃ e, b'.outbox.postings = b.outbox.postings ++ [.ofPaymentCompleted e] := by
  cases change.effect with
  | stays _ _ postings => exact .inl postings
  | creates _ _ _ created =>
    rw [created.entered]
    exact .inl rfl
  | moves _ _ _ written =>
    rw [written]
    exact .inl rfl
  | @settles o order _ tx' _ settled =>
    rw [settled.written]
    show (tell b.outbox o _ _ now).postings = _ ∨ ∃ e, (tell b.outbox o _ _ now).postings = _
    unfold tell
    split
    · exact .inr ⟨_, Outbox.Table.postings_insert _ _ _⟩
    · exact .inl rfl

end OrderBook

namespace Ledger
variable {now : Instant} {l l' : Ledger} {sale? : Option Sale}

/-- The checkout service takes nothing back that it has posted. -/
theorem Change.postings (change : Change now l l' sale?) :
    l.outbox.postings ⊆ l'.outbox.postings := by
  intro p posted
  cases change with
  | posts _ _ _ postings =>
    rw [postings]
    exact posted
  | sweeps swept =>
    rw [swept]
    exact posted
  | sells _ _ committed =>
    rw [committed.entered]
    show p ∈ (l.outbox.insert _ now).postings
    rw [Outbox.Table.postings_insert]
    exact List.mem_append_left _ posted

end Ledger

namespace Doing
variable {cfg : Shop.Config} {s s' : Shop} {d d' : Doing}

/-- The rows that a doing holds of the outbox of a side. -/
def rows (side : Side) : Doing → List Outbox.Row
  | batch side' b => if side' = side then b.rows else []
  | _ => []

/-- What is posted stays posted. -/
theorem Move.posted (move : d.Move cfg s d' s') (side : Side) :
    (s.outbox side).postings ⊆ (s'.outbox side).postings := by
  cases side with
  | checkout => exact (move.ledger 0 0).postings
  | orders =>
    intro p posted
    show p ∈ s'.book.outbox.postings
    rcases move.changes.postings with same | ⟨e, grows⟩
    · rw [same]
      exact posted
    · rw [grows]
      exact List.mem_append_left _ posted

/-- Rows come from the outbox. -/
theorem Move.rows (move : d.Move cfg s d' s') {side : Side} {r : Outbox.Row}
    (held : r ∈ d'.rows side) : r ∈ d.rows side ∨ r.posting ∈ (s.outbox side).postings := by
  cases move with
  | @batch side' b b' desk move =>
    simp only [Doing.rows] at held ⊢
    split at held
    · next same =>
      subst same
      rw [if_pos rfl]
      exact (move.rows r held).imp_right fun posted => by cases side' <;> exact posted
    · cases held
  | _ => cases held

/-- Whatever is sent is the message of a row, or a dead letter. -/
theorem Move.sent (move : d.Move cfg s d' s') :
    s'.broker.log = s.broker.log ∨ ∃ letter : SentMessage,
      s'.broker.log = s.broker.log ++ [letter] ∧
        ((∃ topic, letter.topic = Message.deadLetterTopic topic) ∨
          ∃ side, ∃ r ∈ d.rows side, letter = r.message) := by
  have unsent {desk : OrderDesk} (same : desk.broker = s.orderDesk.broker) :
      (s.withOrderDesk desk).broker.log = s.broker.log := congrArg (·.log) same
  cases move with
  | checkout | cleans | rests => exact .inl rfl
  | @batch side b b' desk move =>
    have sends : desk.broker.log = s.broker.log ∨
        ∃ row ∈ b.rows, desk.broker.log = s.broker.log ++ [row.message] := by
      cases side <;> exact move.log
    have same : (s.withOutboxDesk desk side).broker = desk.broker := by cases side <;> rfl
    rw [same]
    refine sends.imp_right fun ⟨row, held, grows⟩ => ⟨_, grows, .inr ⟨side, row, ?_, rfl⟩⟩
    simpa [Doing.rows] using held
  | delivery move =>
    exact move.log.imp_right fun ⟨letter, topic, grows⟩ => ⟨letter, grows, .inl ⟨_, topic⟩⟩
  | attempt move => exact .inl (unsent move.broker)
  | sweep move => exact .inl (unsent move.broker)
  | change move =>
    obtain ⟨_, writes⟩ := move.writes
    exact .inl (unsent writes.broker)
  | applies does =>
    obtain ⟨_, writes⟩ := does.writes
    exact .inl (unsent writes.broker)

end Doing

namespace Traffic
variable {cfg : Shop.Config} {t t' : Traffic} {e : Event}

/-- What is sent was posted before. -/
structure IsPosted (t : Traffic) : Prop where
  rows : ∀ d ∈ t.doings, ∀ side, ∀ r ∈ d.rows side, r.posting ∈ (t.shop.outbox side).postings
  ends : ∀ p ∈ t.shop.book.outbox.postings, p.topic = EventKind.paymentCompleted.topic
  log : ∀ m ∈ t.shop.broker.log, m.topic = EventKind.orderCreated.topic →
    ∃ p ∈ t.shop.ledger.outbox.postings, m.payload = Octets.ofText p.payload.render

theorem IsPosted.acts (posted : t.IsPosted) {doer : Nat} {d d' : Doing} {later : Shop}
    (under : t.doings[doer]? = some d) (move : d.Move cfg t.shop d' later) :
    (t.acted doer d d' later).IsPosted := by
  have member := List.mem_of_getElem? under
  refine ⟨fun f now side r held => ?_, fun p posts => ?_, fun m sent topic => ?_⟩
  · show r.posting ∈ (later.outbox side).postings
    rcases mem_doings_acted now with old | rfl | ⟨p, _, rfl⟩
    · exact move.posted side (posted.rows f old side r held)
    · rcases move.rows held with before | claimed
      · exact move.posted side (posted.rows d member side r before)
      · exact move.posted side claimed
    · cases held
  · have posts : p ∈ later.book.outbox.postings := posts
    rcases move.changes.postings with same | ⟨e, grows⟩
    · rw [same] at posts
      exact posted.ends p posts
    · rw [grows] at posts
      rcases List.mem_append.mp posts with old | new
      · exact posted.ends p old
      · rw [List.mem_singleton.mp new]
        rfl
  · have before (sent : m ∈ t.shop.broker.log) :
        ∃ p ∈ later.ledger.outbox.postings, m.payload = Octets.ofText p.payload.render := by
      obtain ⟨p, posts, payload⟩ := posted.log m sent topic
      exact ⟨p, move.posted .checkout posts, payload⟩
    have sent : m ∈ later.broker.log := sent
    rcases move.sent with same | ⟨letter, grows, from_⟩
    · rw [same] at sent
      exact before sent
    · rw [grows] at sent
      rcases List.mem_append.mp sent with old | new
      · exact before old
      · rw [List.mem_singleton.mp new] at topic ⊢
        rcases from_ with ⟨dead, letterTopic⟩ | ⟨side, r, held, rfl⟩
        · exact absurd (letterTopic.symm.trans topic) (Message.deadLetterTopic_ne dead)
        · have posts := posted.rows d member side r held
          cases side with
          | checkout => exact ⟨r.posting, move.posted .checkout posts, rfl⟩
          | orders =>
            have ends := posted.ends r.posting posts
            have topic : r.posting.topic = EventKind.orderCreated.topic := topic
            rw [ends] at topic
            exact absurd topic (by decide)

theorem IsPosted.step (posted : t.IsPosted) (step : Step cfg t e t') : t'.IsPosted := by
  cases step with
  | rests => exact posted
  | begins c =>
    refine ⟨forall_begun posted.rows ?_, posted.ends, posted.log⟩
    cases c with
    | publish side' =>
      intro side r held
      simp only [Call.doing, Doing.rows, Outbox.Batch.rows, ite_self] at held
      cases held
    | _ => exact fun side r held => nomatch held
  | ends doer =>
    exact ⟨forall_ended posted.rows (fun side r held => nomatch held) doer, posted.ends, posted.log⟩
  | weather w =>
    refine ⟨fun d member side => ?_, posted.ends, posted.log⟩
    have rows := posted.rows d member side
    cases side <;> exact rows
  | acts under ready move => exact posted.acts under move

theorem run_isPosted [EmailCheck] (cfg : Shop.Config) (around : Surroundings)
    (stock : Assoc Uuid Int) (sequences : Assoc CalendarDay Int) (events : List Event) :
    ((opening around stock sequences).run cfg events).IsPosted :=
  run_keeps_all (opening_isSound around stock sequences)
    ⟨(fun _ member => nomatch member), (fun _ member => nomatch member),
      fun _ member => nomatch member⟩
    fun _ _ _ _ posted step => posted.step step

end Traffic

end OrderFlow
