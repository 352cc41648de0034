import OrderFlow.Proofs.Order.Accounts

/-!
The index of the order book. Orders and payments go by the same identifiers, and the numbers lead to
the orders that have them and to nothing else (`IsIndexed`), so that an order is found by its number
as it is found by its identifier (`IsIndexed.findByNumber_iff`). Events that have been dealt with
stay in the ledger, and a payment changes by being settled and in no other way.
-/
namespace OrderFlow

/-- The payment `tx'` is the payment `tx`, but perhaps settled. -/
def PaymentTransaction.Becomes (tx tx' : PaymentTransaction) : Prop :=
  tx' = tx ∨ tx.status = .pending ∧ tx'.status ≠ .pending ∧ ∃ o now, tx.settle? o now = some tx'

theorem Order.Becomes.trans {order order' order'' : Order} (first : order.Becomes order')
    (second : order'.Becomes order'') : order.Becomes order'' := by
  rcases first with rfl | ⟨status, time, rfl⟩
  · exact second
  · rcases second with rfl | ⟨status', time', rfl⟩
    · exact .inr ⟨status, time, rfl⟩
    · exact .inr ⟨status', time', rfl⟩

theorem Order.Becomes.number {order order' : Order} (becomes : order.Becomes order') :
    order'.number = order.number := by
  rcases becomes with rfl | ⟨_, _, rfl⟩ <;> rfl

theorem PaymentTransaction.Becomes.orderId {tx tx' : PaymentTransaction}
    (becomes : tx.Becomes tx') : tx'.orderId = tx.orderId := by
  rcases becomes with rfl | ⟨_, _, o, now, settled⟩
  · rfl
  · unfold settle? at settled
    dsimp only at settled
    split at settled
    · cases settled
      rfl
    · cases settled

theorem PaymentTransaction.Becomes.trans {tx tx' tx'' : PaymentTransaction}
    (first : tx.Becomes tx') (second : tx'.Becomes tx'') : tx.Becomes tx'' := by
  rcases first with rfl | settled
  · exact second
  · rcases second with rfl | ⟨pending, _⟩
    · exact .inr settled
    · exact absurd pending settled.2.1

namespace OrderBook
variable {now : Instant} {o? : Option PaymentOutcome} {e? : Option OrderCreated}
  {b b' : OrderBook} {x : Uuid}

/-- Orders and payments go by the same identifiers, and numbers lead to orders. -/
structure IsIndexed (b : OrderBook) : Prop where
  paired : ∀ x, (b.findOrder x).isSome = (b.findPayment x).isSome
  ofOrder : ∀ x order, b.findOrder x = some order → order.id = x
  ofPayment : ∀ x tx, b.findPayment x = some tx → tx.orderId = x
  numbered : ∀ n x, b.numbers.find? n = some x ↔
    ∃ order, b.findOrder x = some order ∧ order.number = n

theorem IsIndexed.unpaid (indexed : b.IsIndexed) (unknown : b.findOrder x = none) :
    b.findPayment x = none := by
  have paired := indexed.paired x
  rw [unknown] at paired
  exact Option.isNone_iff_eq_none.mp (Option.isSome_eq_false_iff.mp paired.symm)

/-- **An order is found by its number as it is by its identifier.** -/
theorem IsIndexed.findByNumber_iff (indexed : b.IsIndexed) {n : String} {order : Order} :
    b.findByNumber n = some order ↔ b.findOrder order.id = some order ∧ order.number = n := by
  rw [findByNumber, Option.bind_eq_some_iff]
  constructor
  · rintro ⟨x, numbered, found⟩
    obtain ⟨order', found', number⟩ := (indexed.numbered n x).mp numbered
    cases found.symm.trans found'
    exact ⟨(indexed.ofOrder x order found).symm ▸ found, number⟩
  · rintro ⟨found, number⟩
    exact ⟨order.id, (indexed.numbered n order.id).mpr ⟨order, found, number⟩, found⟩

theorem IsIndexed.findByNumber_none (indexed : b.IsIndexed) {n : String} :
    b.findByNumber n = none ↔ ∀ x order, b.findOrder x = some order → order.number ≠ n := by
  constructor
  · intro none x order found number
    have shown :=
      indexed.findByNumber_iff.mpr ⟨(indexed.ofOrder x order found).symm ▸ found, number⟩
    rw [none] at shown
    cases shown
  · intro others
    cases found : b.findByNumber n with
    | none => rfl
    | some order =>
      obtain ⟨found, number⟩ := indexed.findByNumber_iff.mp found
      exact absurd number (others order.id order found)

/-- An outcome that counts is noted, and no order gets another number. -/
theorem finalize_notes {o : PaymentOutcome} {s : Settlement}
    (applied : b.finalize o now = .ok (s, b')) :
    (s = .duplicate ∧ b' = b ∧ b.isProcessed o.eventId = true) ∨
      (s ≠ .duplicate ∧ b.isProcessed o.eventId = false ∧ b'.numbers = b.numbers ∧
        b'.processed = b.processed.insert o.eventId ⟨.paymentCompleted, now⟩) := by
  unfold finalize at applied
  split at applied
  · next known =>
    cases applied
    exact .inl ⟨rfl, rfl, known⟩
  · next unknown =>
    have unknown : b.isProcessed o.eventId = false := by simpa using unknown
    split at applied
    · cases applied
    · split at applied
      · cases applied
        exact .inr ⟨nofun, unknown, rfl, rfl⟩
      · split at applied
        · cases applied
        · unfold settle at applied
          split at applied
          · cases applied
          · cases applied
            exact .inr ⟨nofun, unknown, rfl, rfl⟩

theorem isProcessed_of_find? {p : ProcessedEvent} (known : b.processed.find? x = some p) :
    b.isProcessed x = true := by
  rw [isProcessed, Assoc.has, known]
  rfl

theorem Change.processed_stays (change : Change now o? e? b b') {p : ProcessedEvent}
    (known : b.processed.find? x = some p) : b'.processed.find? x = some p := by
  have inserted {id : Uuid} {q : ProcessedEvent} (unknown : b.isProcessed id = false) :
      (b.processed.insert id q).find? x = some p := by
    rw [Assoc.find?_insert, if_neg, known]
    rintro rfl
    rw [isProcessed_of_find? known] at unknown
    cases unknown
  cases change with
  | posts | moves => exact known
  | creates _ _ _ entered =>
    have created := create_created entered
    rw [created.entered]
    exact inserted created.unknown
  | applies _ applied =>
    rcases finalize_notes applied with ⟨_, same, _⟩ | ⟨_, unknown, _, processed⟩
    · rw [same]
      exact known
    · rw [processed]
      exact inserted unknown

/-- An event that has been dealt with stays so. -/
theorem Change.isProcessed_stays (change : Change now o? e? b b')
    (known : b.isProcessed x = true) : b'.isProcessed x = true := by
  obtain ⟨p, found⟩ := Option.isSome_iff_exists.mp known
  exact isProcessed_of_find? (change.processed_stays found)

/-- A payment keeps everything until it is settled. -/
theorem Change.payment_stays (change : Change now o? e? b b') (indexed : b.IsIndexed)
    {tx : PaymentTransaction} (found : b.findPayment x = some tx) :
    ∃ tx', b'.findPayment x = some tx' ∧ tx.Becomes tx' := by
  cases change.effect with
  | stays _ payments => exact ⟨tx, (payments x).trans found, .inl rfl⟩
  | creates _ _ _ created =>
    rw [created.findPayment]
    split
    · next same =>
      rw [← same, indexed.unpaid created.newOrder] at found
      cases found
    · exact ⟨tx, found, .inl rfl⟩
  | moves _ _ _ written =>
    rw [written, findPayment_put]
    exact ⟨tx, found, .inl rfl⟩
  | @settles o _ _ tx' _ settled =>
    rw [settled.findPayment]
    split
    · next same =>
      rw [← same, settled.ofPayment] at found
      cases found
      exact ⟨tx', rfl, .inr ⟨settled.pending, settled.not_pending, o, now, settled.settles⟩⟩
    · exact ⟨tx, found, .inl rfl⟩

/-- The book `b'` has every order and every payment of `b`, but perhaps further on. -/
def Keeps (b b' : OrderBook) : Prop :=
  (∀ x order, b.findOrder x = some order →
    ∃ order', b'.findOrder x = some order' ∧ order.Becomes order') ∧
  ∀ x tx, b.findPayment x = some tx → ∃ tx', b'.findPayment x = some tx' ∧ tx.Becomes tx'

theorem Keeps.refl (b : OrderBook) : b.Keeps b :=
  ⟨fun _ order found => ⟨order, found, .inl rfl⟩, fun _ tx found => ⟨tx, found, .inl rfl⟩⟩

theorem Keeps.trans {b'' : OrderBook} (first : b.Keeps b') (second : b'.Keeps b'') :
    b.Keeps b'' := by
  refine ⟨fun x order found => ?_, fun x tx found => ?_⟩
  · obtain ⟨order', found', becomes⟩ := first.1 x order found
    obtain ⟨order'', found'', becomes'⟩ := second.1 x order' found'
    exact ⟨order'', found'', becomes.trans becomes'⟩
  · obtain ⟨tx', found', becomes⟩ := first.2 x tx found
    obtain ⟨tx'', found'', becomes'⟩ := second.2 x tx' found'
    exact ⟨tx'', found'', becomes.trans becomes'⟩

theorem Change.keeps (change : Change now o? e? b b') (indexed : b.IsIndexed) : b.Keeps b' :=
  ⟨fun _ _ => change.order_stays, fun _ _ => change.payment_stays indexed⟩

theorem IsIndexed.isPaired (indexed : b.IsIndexed) : b.IsPaired := fun _ => indexed.unpaid

/-- As long as no order is entered, every order was there before. -/
theorem Change.order_entered (change : Change now o? none b b') {order' : Order}
    (found : b'.findOrder x = some order') :
    ∃ order, b.findOrder x = some order ∧ order.Becomes order' :=
  (change.order_before found).resolve_right fun ⟨_, _, new, _⟩ => nomatch new

/-- As long as no order is entered and no number changes, the index holds. -/
theorem IsIndexed.kept (indexed : b.IsIndexed) (change : Change now o? none b b')
    (numbers : b'.numbers = b.numbers) : b'.IsIndexed := by
  have paid {x : Uuid} {order : Order} (found : b.findOrder x = some order) :
      ∃ tx tx', b.findPayment x = some tx ∧ b'.findPayment x = some tx' ∧ tx.Becomes tx' := by
    have paired := indexed.paired x
    rw [found] at paired
    obtain ⟨tx, payment⟩ := Option.isSome_iff_exists.mp paired.symm
    obtain ⟨tx', payment', becomes⟩ := change.payment_stays indexed payment
    exact ⟨tx, tx', payment, payment', becomes⟩
  refine ⟨fun x => ?_, fun x order' found => ?_, fun x tx' found => ?_, fun n x => ?_⟩
  · cases found' : b'.findOrder x with
    | none =>
      rw [change.paired indexed.isPaired x found']
      rfl
    | some order' =>
      obtain ⟨order, found, -⟩ := change.order_entered found'
      obtain ⟨_, tx', _, payment', -⟩ := paid found
      rw [payment']
      rfl
  · obtain ⟨order, before, becomes⟩ := change.order_entered found
    rw [becomes.id, indexed.ofOrder x order before]
  · cases unknown : b'.findOrder x with
    | none =>
      rw [change.paired indexed.isPaired x unknown] at found
      cases found
    | some order' =>
      obtain ⟨order, before, -⟩ := change.order_entered unknown
      obtain ⟨tx, _, payment, payment', becomes⟩ := paid before
      cases found.symm.trans payment'
      rw [becomes.orderId, indexed.ofPayment x tx payment]
  · rw [numbers, indexed.numbered]
    constructor
    · rintro ⟨order, found, number⟩
      obtain ⟨order', found', becomes⟩ := change.order_stays found
      exact ⟨order', found', becomes.number.trans number⟩
    · rintro ⟨order', found', number⟩
      obtain ⟨order, found, becomes⟩ := change.order_entered found'
      exact ⟨order, found, becomes.number.symm.trans number⟩

/-- The number of a new order leads to it, and the other numbers lead where they did. -/
theorem IsIndexed.numbered_created (indexed : b.IsIndexed) {order : Order}
    {payment : PaymentTransaction} {eventId : Uuid}
    (created : Created b b' order payment eventId now) (n : String) (x : Uuid) :
    b'.numbers.find? n = some x ↔ ∃ order, b'.findOrder x = some order ∧ order.number = n := by
  have numbers : b'.numbers.find? n =
      if order.number = n then some order.id else b.numbers.find? n := by
    rw [created.entered]
    exact Assoc.find?_insert ..
  rw [numbers]
  by_cases named : order.number = n
  · rw [if_pos named]
    constructor
    · rintro ⟨⟩
      exact ⟨order, by rw [created.findOrder, if_pos rfl], named⟩
    · rintro ⟨order', found, number⟩
      rw [created.findOrder] at found
      split at found
      · next same => rw [same]
      -- the number was new, so no earlier order has it
      · have old := (indexed.numbered n x).mpr ⟨order', found, number⟩
        rw [← named, created.newNumber] at old
        cases old
  · rw [if_neg named, indexed.numbered]
    constructor
    · rintro ⟨order', found, number⟩
      refine ⟨order', ?_, number⟩
      rw [created.findOrder, if_neg, found]
      rintro rfl
      rw [created.newOrder] at found
      cases found
    · rintro ⟨order', found, number⟩
      rw [created.findOrder] at found
      split at found
      · cases found
        exact absurd number named
      · exact ⟨order', found, number⟩

/-- A new order takes a place of its own in the index. -/
theorem IsIndexed.created (indexed : b.IsIndexed) {order : Order} {payment : PaymentTransaction}
    {eventId : Uuid} (created : Created b b' order payment eventId now)
    (own : payment.orderId = order.id) : b'.IsIndexed := by
  refine ⟨fun x => ?_, fun x order' found => ?_, fun x tx found => ?_,
    indexed.numbered_created created⟩
  · rw [created.findOrder, created.findPayment]
    split
    · rfl
    · exact indexed.paired x
  · rw [created.findOrder] at found
    split at found
    · next same =>
      cases found
      exact same
    · exact indexed.ofOrder x order' found
  · rw [created.findPayment] at found
    split at found
    · next same =>
      cases found
      exact own.trans same
    · exact indexed.ofPayment x tx found

/-- **Another event cannot have the identifier or the number of an order.** -/
theorem IsIndexed.not_created (indexed : b.IsIndexed) {order taken : Order}
    {payment : PaymentTransaction} {eventId : Uuid} (found : b.findOrder x = some taken)
    (same : x = order.id ∨ taken.number = order.number) :
    ¬ Created b b' order payment eventId now := by
  intro created
  rcases same with rfl | number
  · rw [created.newOrder] at found
    cases found
  · have numbered := (indexed.numbered order.number x).mpr ⟨taken, found, number⟩
    rw [created.newNumber] at numbered
    cases numbered

/-- **The index holds however the book changes.** -/
theorem IsIndexed.change (indexed : b.IsIndexed) (change : Change now o? e? b b') :
    b'.IsIndexed := by
  cases change with
  | posts same =>
    have posts : Change now o? none b _ := .posts same
    exact indexed.kept posts rfl
  | creates _ _ _ entered => exact indexed.created (create_created entered) rfl
  | moves found may unpaid =>
    have moves : Change now o? none b _ := .moves found may unpaid
    exact indexed.kept moves rfl
  | applies mine applied =>
    refine indexed.kept (.applies mine applied) ?_
    rcases finalize_notes applied with ⟨_, same, _⟩ | ⟨_, _, numbers, _⟩
    · rw [same]
    · exact numbers

theorem isIndexed_empty : IsIndexed {} :=
  ⟨fun _ => rfl, (fun _ _ found => nomatch found), (fun _ _ found => nomatch found),
    fun _ _ => ⟨(fun found => nomatch found), fun ⟨_, found, _⟩ => nomatch found⟩⟩

/-- An order in the book was there before, or it is entered now and its event is noted. -/
theorem Change.order_origin (change : Change now o? e? b b') {order' : Order}
    (found : b'.findOrder x = some order') :
    (∃ order, b.findOrder x = some order ∧ order.Becomes order') ∨
      ∃ event, e? = some event ∧ event.orderId = x ∧ event.orderNumber = order'.number ∧
        b.findOrder x = none ∧
        b'.processed.find? event.eventId = some ⟨.orderCreated, now⟩ := by
  cases change with
  | posts same =>
    exact .inl ⟨order', found, .inl rfl⟩
  | moves found' may unpaid =>
    have moves : Change now o? none b _ := .moves found' may unpaid
    exact .inl (moves.order_entered found)
  | applies mine applied =>
    have applies : Change now o? none b _ := .applies mine applied
    exact .inl (applies.order_entered found)
  | @creates event order lineIds id b' mine enough shape entered =>
    have created := create_created entered
    rw [created.findOrder] at found
    split at found
    · next same =>
      cases found
      subst shape
      refine .inr ⟨event, mine, same, rfl, same ▸ created.newOrder, ?_⟩
      rw [created.entered]
      exact (Assoc.find?_insert ..).trans (if_pos rfl)
    · exact .inl ⟨order', found, .inl rfl⟩

end OrderBook

end OrderFlow
