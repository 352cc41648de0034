import OrderFlow.Email
import OrderFlow.Proofs.Event.Reading
import OrderFlow.Proofs.Time.Timestamp
import OrderFlow.Samples

/-!
Events arrive as they were sent. Both kinds read back from the form in which an outbox keeps them,
their members ordered by name and those without a value left out, and an event that was in order
when it was posted is still in order when it is received (`Incoming.received_as_posted`).
-/
namespace OrderFlow
open Json Outbox

/-- A value that may be missing reads back where it is written. -/
@[simp] theorem Json.Node.asOptional_text (s : String) :
    Node.asOptional Node.asText (Json.text s).node = .ok (some s) := by
  simp [node, Node.asOptional, Node.asText, Except.map]

theorem PaymentResult.reader_name (r : PaymentResult) :
    PaymentResult.reader (Json.text r.name).node = .ok r := by
  cases r <;> rfl

/-- An event reads back. -/
theorem OrderCreated.reader_ordered {e : OrderCreated} (civil : e.timestamp.IsCivil) :
    OrderCreated.reader e.toJson.ordered.node = .ok e := by
  have items : Node.asList LineItem.reader
      (Json.array (e.items.map fun i => i.toJson.ordered)).node = .ok e.items :=
    Node.asList_array fun i _ => i.reader_ordered
  have read : Record.read fields e.toJson.ordered.node =
      .ok (e.eventId, e.kind, e.version, e.timestamp, e.correlationId, e.orderId, e.orderNumber,
        e.customer, e.items, e.subtotal, e.cartId, ()) := by
    rw [ordered_toJson]
    refine (Record.read_members_iff fields _ _).mpr ?_
    simp [Record.Reads, fields, Field.Reads, Field.accepts, items, Customer.reader_ordered,
      EventKind.reader_ordered, Timestamp.reader_toJson civil]
  rw [reader, read]
  rfl

namespace PaymentCompleted

theorem ordered_toJson (e : PaymentCompleted) :
    e.toJson.ordered = .object ([("amount", e.amount.toJson),
      ("correlationId", .text e.correlationId), ("eventId", e.eventId.toJson),
      ("eventType", e.kind.toJson.ordered), ("eventVersion", .text e.version)] ++
      present "externalTransactionId" e.externalTransactionId ++
      present "failureReason" e.failureReason ++
      [("orderId", e.orderId.toJson), ("orderNumber", .text e.orderNumber),
      ("paymentMethod", .text e.method), ("paymentTransactionId", e.transactionId.toJson),
      ("status", .text e.status.name), ("timestamp", e.timestamp.toJson)]) := by
  rcases e with ⟨_, _, _, _, _, _, _, _, _, _, _, external, reason⟩
  cases external <;> cases reason <;>
  simp only [toJson, present, ordered, orderedMembers, sorted, insertMember, List.foldl_cons,
    List.foldl_nil, List.cons_append, List.nil_append, List.append_nil, Decimal.toJson, Uuid.toJson,
    Timestamp.toJson, EventKind.toJson, String.reduceLT, String.reduceEq, if_true, if_false]

/-- An event reads back, whichever of its members are left out and in whatever year it lies. -/
theorem reader_real {e : PaymentCompleted} (real : e.timestamp.IsReal) :
    PaymentCompleted.reader e.toJson.ordered.node = .ok e := by
  have read : Record.read fields e.toJson.ordered.node =
      .ok (e.eventId, e.kind, e.version, e.timestamp, e.correlationId, e.orderId, e.orderNumber,
        e.transactionId, e.status, e.amount, e.method, e.externalTransactionId, e.failureReason,
        ()) := by
    rw [ordered_toJson]
    refine (Record.read_members_iff fields _ _).mpr ?_
    cases external : e.externalTransactionId <;> cases reason : e.failureReason <;>
    simp [Record.Reads, fields, Field.Reads, Field.accepts, present, PaymentResult.reader_name,
      EventKind.reader_ordered, real.reader_toJson]
  rw [reader, read]
  rfl

theorem reader_ordered {e : PaymentCompleted} (civil : e.timestamp.IsCivil) :
    PaymentCompleted.reader e.toJson.ordered.node = .ok e :=
  reader_real civil.isReal

/-- No member of the event holds a double. -/
theorem isPlain_ordered (e : PaymentCompleted) : e.toJson.ordered.isPlain = true := by
  rw [ordered_toJson]
  cases e.externalTransactionId <;> cases e.failureReason <;> rfl

end PaymentCompleted

namespace Incoming

/-- The message carries what a publisher sends for a row, wherever it stands in its topic. -/
structure Carries (m : Message) (r : Row) : Prop where
  topic : m.topic = r.message.topic
  payload : m.payload = r.message.payload

theorem Carries.of_posting {m : Message} {r : Row} {p : Posting} (carries : Carries m r)
    (posted : r.posting = p) :
    m.topic = p.topic ∧ m.payload = Octets.ofText p.payload.render := by
  rw [carries.topic, carries.payload, Row.message, posted]
  exact ⟨rfl, rfl⟩

/-- What is read and in order is accepted. -/
theorem accept_ordered {α : Type} {reader : Reader α} {check : α → Except Invalid Unit}
    {m : Message} {x : Json} {a : α} (payload : m.payload = Octets.ofText x.render)
    (plain : x.isPlain = true) (read : reader x.node = .ok a) (fine : check a = .ok ()) :
    accept reader check m = .ok a := by
  rw [accept, Message.read, payload, decodeOctets_render _ _ plain, read]
  simp only [fine]

/-- A message that carries an event in order is received as the event. -/
theorem ofMessage_orderCreated [EmailCheck] {e : OrderCreated} {m : Message}
    (fine : e.check = .ok ()) (civil : e.timestamp.IsCivil)
    (topic : m.topic = EventKind.orderCreated.topic)
    (payload : m.payload = Octets.ofText e.toJson.ordered.render) :
    ofMessage m = .ok (.orderCreated e) := by
  have accepted : accept OrderCreated.reader OrderCreated.check m = .ok e :=
    accept_ordered payload e.isPlain_ordered (OrderCreated.reader_ordered civil) fine
  rw [ofMessage, if_pos topic, accepted]
  rfl

/-- A message that carries the end of a payment, in order, is received as the event. -/
theorem ofMessage_paymentCompleted [EmailCheck] {e : PaymentCompleted} {m : Message}
    (fine : e.check = .ok ()) (real : e.timestamp.IsReal)
    (topic : m.topic = EventKind.paymentCompleted.topic)
    (payload : m.payload = Octets.ofText e.toJson.ordered.render) :
    ofMessage m = .ok (.paymentCompleted e) := by
  have accepted : accept PaymentCompleted.reader PaymentCompleted.check m = .ok e :=
    accept_ordered payload e.isPlain_ordered (PaymentCompleted.reader_real real) fine
  have other : m.topic ≠ EventKind.orderCreated.topic := by
    rw [topic]
    decide
  rw [ofMessage, if_neg other, if_pos topic, accepted]
  rfl

/-- **Events arrive as they were sent.** Whatever an event in order holds, the message that goes out
for its posting is received as the event, each of its fields as it was. -/
theorem received_as_posted [EmailCheck] :
    (∀ (e : OrderCreated) (r : Row) (m : Message), e.check = .ok () → e.timestamp.IsCivil →
      r.posting = .ofOrderCreated e → Carries m r → ofMessage m = .ok (.orderCreated e)) ∧
    ∀ (e : PaymentCompleted) (r : Row) (m : Message), e.check = .ok () → e.timestamp.IsCivil →
      r.posting = .ofPaymentCompleted e → Carries m r →
      ofMessage m = .ok (.paymentCompleted e) := by
  constructor
  · intro e r m fine civil posted carries
    obtain ⟨topic, payload⟩ := carries.of_posting posted
    exact ofMessage_orderCreated fine civil topic payload
  · intro e r m fine civil posted carries
    obtain ⟨topic, payload⟩ := carries.of_posting posted
    have accepted : accept PaymentCompleted.reader PaymentCompleted.check m = .ok e :=
      accept_ordered payload e.isPlain_ordered (PaymentCompleted.reader_ordered civil) fine
    have topic : m.topic = EventKind.paymentCompleted.topic := topic
    have other : m.topic ≠ EventKind.orderCreated.topic := by
      rw [topic]
      decide
    rw [ofMessage, if_neg other, if_pos topic, accepted]
    rfl

/-- An order with quotation marks, control characters and an umlaut in its texts, and a payment that
has failed and names no transaction. -/
theorem odd_texts_arrive :
    let time : Timestamp := ⟨⟨2024, 2, 29⟩, 23, 59, 58, 120000000⟩
    let item : LineItem := ⟨.ofNat 3, "\"\\", "\t\x01 Tür", 2, Samples.price, Samples.amount⟩
    let order : OrderCreated := ⟨.ofNat 1, .orderCreated, "1.0", time, "\n", .ofNat 2, "№ 1",
      Samples.customer, [item, item], ⟨11996, 2, by decide, by decide⟩, .ofNat 4⟩
    let payment : PaymentCompleted := ⟨.ofNat 5, .paymentCompleted, "1.0", time, "/", .ofNat 2,
      "№ 1", .ofNat 6, .failed, ⟨-5, 28, by decide, by decide⟩, "\x7f", none, some "abgelehnt"⟩
    let sent (p : Posting) : Message :=
      ⟨p.topic, 0, 0, some p.aggregateId, Octets.ofText p.payload.render⟩
    ofMessage (sent (.ofOrderCreated order)) = .ok (.orderCreated order) ∧
      ofMessage (sent (.ofPaymentCompleted payment)) = .ok (.paymentCompleted payment) := by
  intro time item order payment sent
  have civil : time.IsCivil := ⟨by decide, by decide, by decide, by decide, by decide, by decide⟩
  obtain ⟨orders, payments⟩ := received_as_posted
  exact ⟨orders order (.new (.ofOrderCreated order) ⟨0⟩) _ (by decide +kernel) civil rfl ⟨rfl, rfl⟩,
    payments payment (.new (.ofPaymentCompleted payment) ⟨0⟩) _ (by decide +kernel) civil rfl
      ⟨rfl, rfl⟩⟩

end Incoming

end OrderFlow
