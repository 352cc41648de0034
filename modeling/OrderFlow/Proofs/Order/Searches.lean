import Mathlib.Data.List.Nodup
import OrderFlow.Proofs.Order.Lifecycle

/-!
What the searches of the order book find. Every order is filed once, with its payment in the same
place (`IsFiled`), so a search goes through each order once; with room for all that there is, it
finds every order that is in process and not settled (`mem_unsettled`).
-/
namespace OrderFlow
namespace OrderBook
variable {now : Instant} {o? : Option PaymentOutcome} {e? : Option OrderCreated}
  {b b' : OrderBook} {x : Uuid}

/-- Every order is filed once, and the payments are filed in the order of the orders. -/
structure IsFiled (b : OrderBook) : Prop where
  once : b.orders.keys.Nodup
  alongside : b.payments.keys = b.orders.keys

theorem isFiled_empty : IsFiled {} := ⟨.nil, rfl⟩

theorem mem_keys_of_findOrder {order : Order} (found : b.findOrder x = some order) :
    x ∈ b.orders.keys :=
  Assoc.mem_keys_iff.mpr (Option.isSome_of_mem found)

/-- Unless an order is entered, everything stays filed where it is. -/
theorem Change.keys (change : Change now o? e? b b') :
    (b'.orders.keys = b.orders.keys ∧ b'.payments.keys = b.payments.keys) ∨
      ∃ event order payment, e? = some event ∧ Created b b' order payment event.eventId now := by
  cases change with
  | posts => exact .inl ⟨rfl, rfl⟩
  | creates mine _ _ entered => exact .inr ⟨_, _, _, mine, create_created entered⟩
  | moves found =>
    refine .inl ⟨?_, rfl⟩
    rw [put, Assoc.keys_insert, if_pos (mem_keys_of_findOrder found)]
  | applies _ applied =>
    rcases finalize_cases applied with ⟨order, tx, tx', settled⟩ | rfl | ⟨_, _, _, rfl⟩
    · rw [settled.written]
      have payment := Assoc.mem_keys_iff.mpr (Option.isSome_of_mem settled.ofPayment)
      refine .inl ⟨?_, ?_⟩
      · rw [Assoc.keys_insert, if_pos (mem_keys_of_findOrder settled.ofOrder)]
      · rw [Assoc.keys_insert, if_pos payment]
    · exact .inl ⟨rfl, rfl⟩
    · exact .inl ⟨rfl, rfl⟩

theorem IsFiled.change (filed : b.IsFiled) (change : Change now o? e? b b') : b'.IsFiled := by
  rcases change.keys with ⟨orders, payments⟩ | ⟨event, order, payment, -, created⟩
  · exact ⟨orders ▸ filed.once, by rw [orders, payments, filed.alongside]⟩
  · have new : order.id ∉ b.orders.keys := by
      rw [Assoc.mem_keys_iff, show b.orders.find? order.id = none from created.newOrder]
      exact Bool.false_ne_true
    have orders : b'.orders.keys = b.orders.keys ++ [order.id] := by
      rw [created.entered, Assoc.keys_insert, if_neg new]
    have payments : b'.payments.keys = b.orders.keys ++ [order.id] := by
      rw [created.entered, Assoc.keys_insert, filed.alongside, if_neg new]
    refine ⟨?_, payments.trans orders.symm⟩
    rw [orders]
    exact List.nodup_append.mpr ⟨filed.once, List.nodup_singleton _, fun k old l last same =>
      new (List.mem_singleton.mp last ▸ same ▸ old)⟩

/-! ## What is found -/

/-- The order `x` is in process and its payment is pending. -/
structure IsUnsettled (b : OrderBook) (x : Uuid) (order : Order) (tx : PaymentTransaction) :
    Prop where
  ofOrder : b.findOrder x = some order
  processing : order.status = .processing
  ofPayment : b.findPayment x = some tx
  pending : tx.status = .pending

/-- The orders that are not settled since `cutoff` or before. -/
def adrift (b : OrderBook) (cutoff : Instant) : List (Instant × Uuid) :=
  b.orders.values.filterMap fun o =>
    if o.status = .processing ∧ o.updatedAt ≤ cutoff ∧
        (b.findPayment o.id).any (·.status = .pending) then some (o.updatedAt, o.id)
    else none

theorem length_adrift (b : OrderBook) (cutoff : Instant) :
    (b.adrift cutoff).length ≤ b.orders.length := by
  refine (List.length_filterMap_le ..).trans ?_
  rw [Assoc.values, List.length_map]

theorem mem_adrift (indexed : b.IsIndexed) (filed : b.IsFiled) {cutoff time : Instant} :
    (time, x) ∈ b.adrift cutoff ↔
      ∃ order tx, b.IsUnsettled x order tx ∧ order.updatedAt = time ∧ time ≤ cutoff := by
  simp only [adrift, List.mem_filterMap, Option.ite_none_right_eq_some, Option.some.injEq,
    Prod.mk.injEq, Assoc.values, List.mem_map, Prod.exists, exists_eq_right]
  constructor
  · rintro ⟨order, ⟨k, member⟩, ⟨processing, late, waits⟩, rfl, rfl⟩
    have found : b.findOrder k = some order := Assoc.find?_of_mem filed.once member
    obtain ⟨tx, payment, pending⟩ := (Option.any_eq_true _ _).mp waits
    rw [← indexed.ofOrder k order found] at found
    exact ⟨order, tx, ⟨found, processing, payment, of_decide_eq_true pending⟩, rfl, late⟩
  · rintro ⟨order, tx, unsettled, rfl, late⟩
    have named := indexed.ofOrder x order unsettled.ofOrder
    refine ⟨order, ⟨x, Assoc.mem_of_find? unsettled.ofOrder⟩, ⟨unsettled.processing, late, ?_⟩, rfl,
      named⟩
    rw [named, unsettled.ofPayment]
    exact decide_eq_true unsettled.pending

/-- Values that are filed by the name that is found in them are found once. -/
theorem nodup_names {α : Type} {m : Assoc Uuid α} (once : m.keys.Nodup)
    {f : α → Option (Instant × Uuid)}
    (named : ∀ k a, m.find? k = some a → ∀ entry, f a = some entry → entry.2 = k) :
    ((m.values.filterMap f).map (·.2)).Nodup := by
  refine List.pairwise_map.mpr (List.pairwise_filterMap.mpr (List.pairwise_map.mpr ?_))
  have apart : m.Pairwise fun e e' => e.1 ≠ e'.1 := List.pairwise_map.mp once
  refine apart.imp_of_mem fun {e e'} member member' other entry shown entry' shown' => ?_
  rw [named _ _ (Assoc.find?_of_mem once member) entry shown,
    named _ _ (Assoc.find?_of_mem once member') entry' shown']
  exact other

/-- Every order is gone through once. -/
theorem adrift_once (indexed : b.IsIndexed) (filed : b.IsFiled) (cutoff : Instant) :
    ((b.adrift cutoff).map (·.2)).Nodup := by
  refine nodup_names filed.once fun k order found entry shown => ?_
  simp only [Option.ite_none_right_eq_some, Option.some.injEq] at shown
  obtain ⟨-, rfl⟩ := shown
  exact indexed.ofOrder k order found

/-- A search with enough room finds all that there is. -/
theorem mem_oldest {found : List (Instant × Uuid)} {limit : Int}
    (room : found.length ≤ limit.toNat) :
    x ∈ oldest limit found ↔ ∃ time, (time, x) ∈ found := by
  have all : (found.mergeSort fun a b => a.1 ≤ b.1).length ≤ limit.toNat := by
    rw [List.length_mergeSort]
    exact room
  simp [oldest, List.take_of_length_le all]

/-- A search finds nothing but what there is. -/
theorem exists_of_mem_oldest {found : List (Instant × Uuid)} {limit : Int}
    (member : x ∈ oldest limit found) : ∃ time, (time, x) ∈ found := by
  obtain ⟨⟨time, y⟩, taken, rfl⟩ := List.mem_map.mp member
  exact ⟨time, List.mem_mergeSort.mp (List.mem_of_mem_take taken)⟩

theorem length_oldest (limit : Int) (found : List (Instant × Uuid)) :
    (oldest limit found).length ≤ found.length := by
  simp [oldest, List.length_take]

theorem length_unsettled (b : OrderBook) (cutoff : Instant) (limit : Int) :
    (b.unsettled cutoff limit).length ≤ b.orders.length :=
  (length_oldest ..).trans (b.length_adrift cutoff)

theorem length_stalled (filed : b.IsFiled) (cutoff : Instant) (limit : Int) :
    (b.stalled cutoff limit).length ≤ b.orders.length := by
  have same : b.payments.length = b.orders.length := by
    simpa [Assoc.keys] using congrArg List.length filed.alongside
  refine (length_oldest ..).trans ((List.length_filterMap_le ..).trans ?_)
  rw [Assoc.values, List.length_map, same]

/-- Where there is nothing adrift but what was adrift before, there is no more of it. -/
theorem length_adrift_le (indexed : b.IsIndexed) (filed : b.IsFiled) (indexed' : b'.IsIndexed)
    (filed' : b'.IsFiled) (cutoff : Instant)
    (old : ∀ x order tx, b'.IsUnsettled x order tx → b.IsUnsettled x order tx) :
    (b'.adrift cutoff).length ≤ (b.adrift cutoff).length := by
  have once := (adrift_once indexed' filed' cutoff).of_map
  refine once.length_le_of_subset fun entry member => ?_
  obtain ⟨order, tx, unsettled, shown⟩ := (mem_adrift indexed' filed').mp member
  exact (mem_adrift indexed filed).mpr ⟨order, tx, old _ _ _ unsettled, shown⟩

/-- **With room for all that is adrift, a search finds all of it.** -/
theorem mem_unsettled (indexed : b.IsIndexed) (filed : b.IsFiled) {cutoff : Instant} {limit : Int}
    (room : (b.adrift cutoff).length ≤ limit.toNat) {order : Order} {tx : PaymentTransaction}
    (unsettled : b.IsUnsettled x order tx) (late : order.updatedAt ≤ cutoff) :
    x ∈ b.unsettled cutoff limit :=
  (mem_oldest room).mpr ⟨_, (mem_adrift indexed filed).mpr ⟨order, tx, unsettled, rfl, late⟩⟩

/-! ## What is settled -/

theorem Settled.isProcessed {o : PaymentOutcome} {order : Order} {tx tx' : PaymentTransaction}
    (settled : Settled b b' o now order tx tx') (id : Uuid) :
    b'.isProcessed id = if o.eventId = id then true else b.isProcessed id := by
  rw [settled.written]
  simp only [OrderBook.isProcessed, noteOutcome, Assoc.has, Assoc.find?_insert]
  split <;> rfl

/-- An outcome that is new settles an order whose payment waits for it. -/
theorem IsUnsettled.finalize {o : PaymentOutcome} {order : Order} {tx : PaymentTransaction}
    (unsettled : b.IsUnsettled o.orderId order tx) (untried : tx.attempts = 0)
    (new : b.isProcessed o.eventId = false) (counted : -2 ^ 31 ≤ o.attempts ∧ o.attempts < 2 ^ 31)
    (now : Instant) :
    ∃ s b' tx', b.finalize o now = .ok (s, b') ∧ Settled b b' o now order tx tx' := by
  have settles : ∃ tx', tx.settle? o now = some tx' := by
    unfold PaymentTransaction.settle?
    rw [untried, if_pos (by omega)]
    exact ⟨_, rfl⟩
  obtain ⟨tx', settles⟩ := settles
  simp only [OrderBook.finalize, new, unsettled.ofPayment, unsettled.pending, unsettled.ofOrder,
    OrderBook.settle, settles]
  exact ⟨_, _, tx', rfl, unsettled.ofPayment, unsettled.pending, unsettled.ofOrder, settles, rfl⟩

theorem IsUnsettled.spared {order : Order} {tx : PaymentTransaction}
    (unsettled : b.IsUnsettled x order tx) (spared : b.Spares b' x) :
    b'.IsUnsettled x order tx :=
  ⟨spared.order.trans unsettled.ofOrder, unsettled.processing,
    spared.payment.trans unsettled.ofPayment, unsettled.pending⟩

/-- The payment of the order `x` is settled. -/
def IsSettled (b : OrderBook) (x : Uuid) : Prop :=
  ∃ tx, b.findPayment x = some tx ∧ tx.status ≠ .pending

theorem IsSettled.change {e? : Option OrderCreated} (settled : b.IsSettled x)
    (indexed : b.IsIndexed) (change : Change now o? e? b b') : b'.IsSettled x := by
  obtain ⟨tx, found, done⟩ := settled
  exact ⟨tx, change.settled_stays indexed.isPaired found done, done⟩

theorem Settled.isSettled {o : PaymentOutcome} {order : Order} {tx tx' : PaymentTransaction}
    (settled : Settled b b' o now order tx tx') : b'.IsSettled o.orderId :=
  ⟨tx', by rw [settled.findPayment, if_pos rfl], settled.not_pending⟩

end OrderBook
end OrderFlow
