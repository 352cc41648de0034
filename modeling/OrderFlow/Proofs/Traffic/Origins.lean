import OrderFlow.Proofs.Event.Reading
import OrderFlow.Proofs.Order.Origins
import OrderFlow.Proofs.Traffic.Messages

/-!
Orders in traffic and the sales that they stem from. A message about an order was posted with a
sale, and what is read from it is the event of that sale; so every order in the book is the order of
a sale (`run_isRooted`), as long as no messages are delivered but those that the broker has got.
-/
namespace OrderFlow

variable {_ : EmailCheck}

/-- A message is delivered only if the broker has accepted it, however often and whenever. -/
def Event.IsGenuine (t : Traffic) : Event → Prop
  | .call (.deliver m) =>
    ∃ sent ∈ t.shop.broker.log, m.topic = sent.topic ∧ m.payload = sent.payload
  | _ => True

namespace Delivery
variable {sales : List Sale} {m : Message} {p p' : Phase}

/-- A message about an order is that of a sale, and what is read from it tells of a sale. -/
structure Carries [EmailCheck] (sales : List Sale) (m : Message) (p : Phase) : Prop where
  posted : m.topic = EventKind.orderCreated.topic → ∃ s ∈ sales, ∃ final, s.Becomes final ∧
    m.payload = Octets.ofText (Outbox.Posting.ofOrderCreated final.event).payload.render
  tells : ∀ e, p.event? = some (.orderCreated e) → ∃ s ∈ sales, s.Tells e

theorem Carries.more (carries : Carries sales m p) (more : List Sale) :
    Carries (sales ++ more) m p := by
  refine ⟨fun topic => ?_, fun e deals => ?_⟩
  · obtain ⟨s, member, rest⟩ := carries.posted topic
    exact ⟨s, List.mem_append_left _ member, rest⟩
  · obtain ⟨s, member, tells⟩ := carries.tells e deals
    exact ⟨s, List.mem_append_left _ member, tells⟩

theorem Phase.event?_trying (failures : Failures) (event : Incoming) :
    (trying failures event).event? = some event := by
  cases event <;> rfl

/-- A delivery goes on with the event of its message. -/
theorem Move.carries {d d' : OrderDesk} (move : Move m d d' p p') (carries : Carries sales m p) :
    Carries sales m p' := by
  refine ⟨carries.posted, fun e deals => ?_⟩
  cases move with
  | reads read =>
    rw [Phase.event?_trying] at deals
    cases deals
    have topic := Incoming.topic_of_orderCreated read
    obtain ⟨s, member, final, becomes, payload⟩ := carries.posted topic
    obtain ⟨e', same, shape⟩ := Incoming.of_posting topic payload read
    cases same
    exact ⟨s, member, final, becomes, shape⟩
  | goesOn => exact carries.tells e deals
  | fails _ next => exact carries.tells e (next _ deals)
  | failsToReconcile next => cases next _ deals
  | wakes =>
    rw [Phase.event?_trying] at deals
    exact carries.tells e deals
  | misreads | knows | enters | repeats | reconciles | buries | rests => cases deals

/-- What is about to be entered is dealt with. -/
theorem Phase.event?_of_entry {e : OrderCreated} (enters : p.entry? = some e) :
    p.event? = some (.orderCreated e) := by
  cases p <;> cases enters
  rfl

end Delivery

/-- A delivery that carries what was sold; anything else carries nothing. -/
def Doing.Carries [EmailCheck] (sales : List Sale) : Doing → Prop
  | .delivery m p => Delivery.Carries sales m p
  | _ => True

namespace Doing
variable {cfg : Shop.Config} {s s' : Shop} {d d' : Doing} {sales : List Sale}

theorem Carries.more (carries : d.Carries sales) (more : List Sale) :
    d.Carries (sales ++ more) := by
  cases d with
  | delivery => exact Delivery.Carries.more carries more
  | _ => trivial

theorem Move.carries (move : d.Move cfg s d' s') (carries : d.Carries sales) :
    d'.Carries sales := by
  cases move with
  | delivery move => exact Delivery.Move.carries move carries
  | _ => trivial

theorem Carries.entry {e : OrderCreated} (carries : d.Carries sales) (enters : d.entry? = some e) :
    ∃ s ∈ sales, s.Tells e := by
  cases d with
  | delivery m p => exact carries.tells e (Delivery.Phase.event?_of_entry enters)
  | _ => cases enters

end Doing

namespace Traffic
variable {cfg : Shop.Config} {t t' : Traffic} {e : Event}

/-- Everything that is delivered was sold, and every order in the book too. -/
structure IsRooted [EmailCheck] (t : Traffic) : Prop where
  carried : ∀ d ∈ t.doings, d.Carries t.sales
  rooted : ∀ x order, t.shop.book.findOrder x = some order → ∃ s ∈ t.sales, order.StemsFrom s

theorem IsRooted.acts (rooted : t.IsRooted) {doer : Nat} {d d' : Doing} {later : Shop}
    (under : t.doings[doer]? = some d) (move : d.Move cfg t.shop d' later) :
    (t.acted doer d d' later).IsRooted := by
  have carries := rooted.carried d (List.mem_of_getElem? under)
  have kept {order : Order} (stems : ∃ s ∈ t.sales, order.StemsFrom s) :
      ∃ s ∈ (t.acted doer d d' later).sales, order.StemsFrom s := by
    obtain ⟨s, member, stems⟩ := stems
    rw [sales_acted]
    exact ⟨s, List.mem_append_left _ member, stems⟩
  refine ⟨fun f member => ?_, fun x order found => ?_⟩
  · rw [sales_acted]
    rcases mem_doings_acted member with old | rfl | ⟨p, _, rfl⟩
    · exact (rooted.carried f old).more _
    · exact (move.carries carries).more _
    · trivial
  · rcases move.changes.order_before found with ⟨before, ofOrder, becomes⟩ | ⟨e, ids, enters, rest⟩
    · obtain ⟨s, member, stems⟩ := rooted.rooted x before ofOrder
      exact kept ⟨s, member, stems.becomes becomes⟩
    · obtain ⟨enough, rfl, -⟩ := rest
      obtain ⟨s, member, tells⟩ := carries.entry enters
      exact kept ⟨s, member, tells.stems enough _⟩

/-- What the broker has got about orders was posted with sales. -/
theorem IsServed.of_sent {before : Ledger} (served : t.IsServed cfg before) (posted : t.IsPosted)
    {sent : SentMessage} (member : sent ∈ t.shop.broker.log)
    (topic : sent.topic = EventKind.orderCreated.topic) :
    ∃ s ∈ t.sales, ∃ final, s.Becomes final ∧ final.posting ∈ t.shop.ledger.outbox.postings ∧
      sent.payload = Octets.ofText (Outbox.Posting.ofOrderCreated final.event).payload.render := by
  obtain ⟨p, posts, payload⟩ := posted.log sent member topic
  obtain ⟨n, below, rfl⟩ := List.mem_iff_getElem.mp posts
  have below' : n < t.sales.length := served.recalls.posted.length_eq.symm ▸ below
  obtain ⟨final, becomes, same⟩ := (List.forall₂_iff_get.mp served.recalls.posted).2 n below' below
  refine ⟨_, List.getElem_mem below', final, becomes, same ▸ List.getElem_mem below, ?_⟩
  obtain ⟨number, eventId, finalized, -⟩ := becomes
  rw [payload, ← finalized.posting]
  exact congrArg (fun p => Octets.ofText (Outbox.Posting.payload p).render) same.symm

theorem IsRooted.step {before : Ledger} (rooted : t.IsRooted) (served : t.IsServed cfg before)
    (posted : t.IsPosted) (genuine : e.IsGenuine t) (step : Step cfg t e t') : t'.IsRooted := by
  cases step with
  | rests => exact rooted
  | begins c =>
    refine ⟨forall_begun rooted.carried ?_, rooted.rooted⟩
    cases c with
    | deliver m =>
      obtain ⟨sent, accepted, sameTopic, samePayload⟩ := genuine
      refine ⟨fun topic => ?_, fun e deals => nomatch deals⟩
      obtain ⟨s, member, final, becomes, -, payload⟩ :=
        served.of_sent posted accepted (sameTopic.symm.trans topic)
      exact ⟨s, member, final, becomes, samePayload.trans payload⟩
    | _ => trivial
  | ends doer => exact ⟨forall_ended rooted.carried trivial doer, rooted.rooted⟩
  | weather w => exact ⟨rooted.carried, rooted.rooted⟩
  | acts under ready move => exact rooted.acts under move

/-- **Every order in the book is the order of a sale.** -/
theorem run_isRooted [EmailCheck] (cfg : Shop.Config) (around : Surroundings)
    (stock : Assoc Uuid Int) (sequences : Assoc CalendarDay Int) (events : List Event)
    (genuine : Along cfg (fun t e => e.IsGenuine t) (opening around stock sequences) events) :
    ((opening around stock sequences).run cfg events).IsRooted := by
  refine (run_keeps (P := fun t => t.IsServed cfg { stock, sequences } ∧ t.IsPosted ∧ t.IsRooted)
    (opening_isSound around stock sequences) ?_ genuine ?_).2.2
  · exact ⟨run_isServed cfg around stock sequences [], run_isPosted cfg around stock sequences [],
      (fun _ member => nomatch member), fun _ _ found => nomatch found⟩
  · rintro t e t' - ⟨served, posted, rooted⟩ genuine step
    exact ⟨served.step step, posted.step step, rooted.step served posted genuine step⟩

end Traffic

end OrderFlow
