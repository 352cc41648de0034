import OrderFlow.Incoming
import OrderFlow.Outbox.Row
import OrderFlow.Proofs.Json.Scalars

/-!
The event that a checkout has become an order reads back from the form in which it is sent, its
members ordered by name: whoever reads it reads every field as it was written, but perhaps for the
time, which may be written in more than one way (`OrderCreated.of_reader`). So a message that was
posted for an order is received as the event of that order (`Incoming.of_posting`).
-/
namespace OrderFlow
open Json

variable {_ : EmailCheck}

theorem Json.orderedItems_eq_map (xs : List Json) : orderedItems xs = xs.map ordered := by
  induction xs with
  | nil => rfl
  | cons x xs ih => rw [orderedItems, ih, List.map_cons]

theorem Address.ordered_toJson (a : Address) :
    a.toJson.ordered = .object [("city", .text a.city), ("country", .text a.country),
      ("postalCode", .text a.postalCode), ("state", .text a.state),
      ("street", .text a.street)] := by
  simp only [toJson, ordered, orderedMembers, sorted, insertMember, List.foldl_cons, List.foldl_nil,
    String.reduceLT, String.reduceEq, if_true, if_false]

/-- An address reads back. -/
theorem Address.reader_ordered (a : Address) : Address.reader a.toJson.ordered.node = .ok a := by
  have read : Record.read fields a.toJson.ordered.node =
      .ok (a.street, a.city, a.state, a.postalCode, a.country, ()) := by
    rw [ordered_toJson]
    refine (Record.read_members_iff fields _ _).mpr ?_
    simp [Record.Reads, fields, Field.Reads, Field.accepts]
  rw [reader, read]
  rfl

theorem Customer.ordered_toJson (c : Customer) :
    c.toJson.ordered = .object [("email", .text c.email), ("name", .text c.name),
      ("phone", .text c.phone), ("shippingAddress", c.shippingAddress.toJson.ordered)] := by
  simp only [toJson, ordered, orderedMembers, sorted, insertMember, List.foldl_cons, List.foldl_nil,
    String.reduceLT, String.reduceEq, if_true, if_false]

/-- A customer reads back. -/
theorem Customer.reader_ordered (c : Customer) : Customer.reader c.toJson.ordered.node = .ok c := by
  have read : Record.read fields c.toJson.ordered.node =
      .ok (c.name, c.email, c.phone, c.shippingAddress, ()) := by
    rw [ordered_toJson]
    refine (Record.read_members_iff fields _ _).mpr ?_
    simp [Record.Reads, fields, Field.Reads, Field.accepts, Address.reader_ordered]
  rw [reader, read]
  rfl

theorem LineItem.ordered_toJson (i : LineItem) :
    i.toJson.ordered = .object [("name", .text i.name),
      ("priceSnapshot", i.price.toJson), ("productId", i.productId.toJson),
      ("quantity", .int i.quantity.toInt), ("sku", .text i.sku),
      ("subtotal", i.subtotal.toJson)] := by
  simp only [toJson, ordered, orderedMembers, sorted, insertMember, List.foldl_cons, List.foldl_nil,
    Decimal.toJson, Uuid.toJson, String.reduceLT, String.reduceEq, if_true, if_false]

/-- A line reads back. -/
theorem LineItem.reader_ordered (i : LineItem) : LineItem.reader i.toJson.ordered.node = .ok i := by
  have read : Record.read fields i.toJson.ordered.node =
      .ok (i.productId, i.sku, i.name, i.quantity, i.price, i.subtotal, ()) := by
    rw [ordered_toJson]
    refine (Record.read_members_iff fields _ _).mpr ?_
    simp [Record.Reads, fields, Field.Reads, Field.accepts]
  rw [reader, read]
  rfl

theorem EventKind.reader_ordered (k : EventKind) :
    EventKind.reader k.toJson.ordered.node = .ok k := by
  cases k <;> rfl

theorem OrderCreated.ordered_toJson (e : OrderCreated) :
    e.toJson.ordered = .object [("cartId", e.cartId.toJson),
      ("correlationId", .text e.correlationId), ("customer", e.customer.toJson.ordered),
      ("eventId", e.eventId.toJson), ("eventType", e.kind.toJson.ordered),
      ("eventVersion", .text e.version),
      ("items", .array (e.items.map fun i => i.toJson.ordered)), ("orderId", e.orderId.toJson),
      ("orderNumber", .text e.orderNumber), ("subtotal", e.subtotal.toJson),
      ("timestamp", e.timestamp.toJson)] := by
  simp only [toJson, ordered, orderedMembers, sorted, insertMember, List.foldl_cons, List.foldl_nil,
    Decimal.toJson, Uuid.toJson, Timestamp.toJson, EventKind.toJson, orderedItems_eq_map,
    List.map_map, Function.comp_def, String.reduceLT, String.reduceEq, if_true, if_false]

/-- **Whoever reads the event reads what was written**, but perhaps for the time. -/
theorem OrderCreated.of_reader {e e' : OrderCreated}
    (read : OrderCreated.reader e.toJson.ordered.node = .ok e') :
    e' = { e with timestamp := e'.timestamp } := by
  have items : Node.asList LineItem.reader
      (Json.array (e.items.map fun i => i.toJson.ordered)).node = .ok e.items :=
    Node.asList_array fun i _ => i.reader_ordered
  obtain ⟨r, record, rfl⟩ : ∃ r, Record.read fields e.toJson.ordered.node = .ok r ∧
      ofRecord r = e' := by
    unfold reader at read
    cases record : Record.read fields e.toJson.ordered.node with
    | error _ => simp [record, Except.map] at read
    | ok r => exact ⟨r, rfl, by simpa [record, Except.map] using read⟩
  rw [ordered_toJson] at record
  obtain ⟨eventId, kind, version, timestamp, correlationId, orderId, orderNumber, customer, lines,
    subtotal, cartId, ⟨⟩⟩ := r
  have values : e.eventId = eventId ∧ e.kind = kind ∧ e.version = version ∧
      Timestamp.reader e.timestamp.toJson.node = .ok timestamp ∧ e.correlationId = correlationId ∧
      e.orderId = orderId ∧ e.orderNumber = orderNumber ∧ e.customer = customer ∧ e.items = lines ∧
      e.subtotal = subtotal ∧ e.cartId = cartId := by
    simpa [Record.Reads, fields, Field.Reads, Field.accepts, items, Customer.reader_ordered,
      EventKind.reader_ordered] using (Record.read_members_iff fields _ _).mp record
  obtain ⟨rfl, rfl, rfl, -, rfl, rfl, rfl, rfl, rfl, rfl, rfl⟩ := values
  rfl

theorem Json.arePlain_iff (xs : List Json) : arePlain xs = true ↔ ∀ x ∈ xs, x.isPlain = true := by
  induction xs with
  | nil => simp [arePlain]
  | cons x xs ih => simp [arePlain, ih]

/-- No member of the event holds a double. -/
theorem OrderCreated.isPlain_ordered (e : OrderCreated) : e.toJson.ordered.isPlain = true := by
  have customer : e.customer.toJson.ordered.isPlain = true := by
    rw [Customer.ordered_toJson, Address.ordered_toJson]
    rfl
  have items : arePlain (e.items.map fun i => i.toJson.ordered) = true := by
    rw [arePlain_iff]
    intro x member
    obtain ⟨i, _, rfl⟩ := List.mem_map.mp member
    rw [LineItem.ordered_toJson]
    rfl
  rw [ordered_toJson]
  simp [isPlain, membersPlain, customer, items, Uuid.toJson, Decimal.toJson, Timestamp.toJson,
    EventKind.toJson, ordered]

/-- The event of an order comes from the topic of such events. -/
theorem Incoming.topic_of_orderCreated {m : Message} {e : OrderCreated}
    (received : Incoming.ofMessage m = .ok (.orderCreated e)) :
    m.topic = EventKind.orderCreated.topic := by
  unfold ofMessage at received
  split at received
  · next same => exact same
  · split at received
    · cases accepted : accept PaymentCompleted.reader PaymentCompleted.check m with
      | error _ => simp [accepted, Except.map] at received
      | ok _ => simp [accepted, Except.map] at received
    · cases received

/-- **What was posted for an order is received as its event**, but perhaps for the time. -/
theorem Incoming.of_posting {m : Message} {e : OrderCreated} {event : Incoming}
    (topic : m.topic = EventKind.orderCreated.topic)
    (payload : m.payload = Octets.ofText (Outbox.Posting.ofOrderCreated e).payload.render)
    (received : Incoming.ofMessage m = .ok event) :
    ∃ e', event = .orderCreated e' ∧ e' = { e with timestamp := e'.timestamp } := by
  have decoded : Json.decodeOctets OrderCreated.reader m.payload =
      OrderCreated.reader e.toJson.ordered.node := by
    rw [payload]
    exact decodeOctets_render _ _ e.isPlain_ordered
  simp only [ofMessage, if_pos topic, accept, Message.read, decoded] at received
  cases read : OrderCreated.reader e.toJson.ordered.node with
  | error _ => simp [read, Except.map] at received
  | ok e' =>
    refine ⟨e', ?_, OrderCreated.of_reader read⟩
    simp only [read] at received
    split at received
    · cases received
    · cases received
      rfl

end OrderFlow
