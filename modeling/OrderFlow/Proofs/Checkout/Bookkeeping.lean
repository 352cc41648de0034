import OrderFlow.Email
import OrderFlow.Proofs.Checkout.Numbers
import OrderFlow.Proofs.Checkout.Postings
import OrderFlow.Samples

/-!
Whatever drafts are committed to a ledger, in whatever order and at whatever times, with sweeps in
between: its numbers, its stock and its records stay in step with the rows of its outbox
(`IsBalanced`). A draft that is refused counts for nothing, and one that becomes an order uses up
the next number of its day, takes its lines out of the stock and leaves one row behind.
-/
namespace OrderFlow.Ledger
open Outbox

/-- What may be asked of a ledger. -/
inductive Act where
  | commit (draft : CheckoutDraft) (eventId : Uuid) (now : Instant)
  | sweep (now : Instant)

/-- The ledger afterwards. -/
def act [EmailCheck] (l : Ledger) : Act → Ledger
  | .commit draft eventId now => (l.commit draft eventId now).2
  | .sweep now => (l.sweep now).2

/-- The ledger after several things were asked of it. -/
def run [EmailCheck] (l : Ledger) (acts : List Act) : Ledger := acts.foldl act l

/-- The number that the last order of a day got, 0 if there is none. -/
def lastNumber (l : Ledger) (day : CalendarDay) : Int := (l.sequences.find? day).getD 0

/-- The order numbers in the rows of a day, in the order of the rows. -/
def numbersOn (l : Ledger) (day : CalendarDay) : List (Option String) :=
  (l.outbox.rows.filter fun r => r.createdAt.day = day).map fun r => r.posting.orderNumber?

/-- How much of a product is in the rows. -/
def ordered (l : Ledger) (product : Uuid) : Int :=
  (l.outbox.rows.map fun r => r.posting.amount product).sum

/-- A record gives the answer of an order that has a row. -/
def Names (l : Ledger) (record : KeyRecord) : Prop :=
  ∃ row ∈ l.outbox.rows, ∃ outcome, record.replay = .ok outcome ∧
    row.posting.aggregateId = outcome.response.orderId.text ∧
    row.posting.orderNumber? = some outcome.response.orderNumber

/-- A ledger that has started with some stock and nothing else is in step with its outbox. -/
structure IsBalanced (stock : Assoc Uuid Int) (l : Ledger) : Prop where
  counted : ∀ day, 0 ≤ l.lastNumber day ∧ l.lastNumber day ≤ lastOfDay
  numbered : ∀ day, l.numbersOn day =
    (List.range (l.lastNumber day).toNat).map fun i : Nat => some (orderNumber day (i + 1))
  apart : (l.outbox.rows.map fun r => r.posting.orderNumber?).Nodup
  stocked : ∀ product, 0 ≤ l.available product ∧
    l.available product = available { stock } product - l.ordered product
  recorded : ∀ r ∈ l.records, l.Names r.2

section
variable {_ : EmailCheck} {stock : Assoc Uuid Int} {l l' : Ledger}

theorem Names.later {record : KeyRecord} (names : l.Names record)
    (grows : l.outbox.rows <+: l'.outbox.rows) : l'.Names record := by
  obtain ⟨row, member, rest⟩ := names
  exact ⟨row, grows.subset member, rest⟩

section
variable {d : CheckoutDraft} {eventId : Uuid} {now : Instant} {final : FinalCheckout}
  {wanted : List (Uuid × Int)}

theorem Committed.rows (committed : l.Committed l' d eventId now final wanted) :
    l'.outbox.rows = l.outbox.rows ++ [Row.new final.posting now] := by
  rw [committed.entered]
  rfl

theorem Committed.lastNumber (committed : l.Committed l' d eventId now final wanted)
    (day : CalendarDay) :
    l'.lastNumber day = if now.day = day then l.lastNumber day + 1 else l.lastNumber day := by
  have found : l'.sequences.find? day =
      if now.day = day then some (l.nextSequence now.day) else l.sequences.find? day := by
    rw [committed.entered]
    exact Assoc.find?_insert _ _ _ _
  rw [Ledger.lastNumber, found]
  split
  · next same =>
    rw [← same]
    rfl
  · rfl

/-- The new row tells the number that is next on its day. -/
theorem Committed.orderNumber? (committed : l.Committed l' d eventId now final wanted) :
    final.posting.orderNumber? = some (orderNumber now.day (l.lastNumber now.day + 1)) :=
  (CheckoutDraft.finalize_ok committed.finalized).orderNumber?

theorem Committed.numbersOn (committed : l.Committed l' d eventId now final wanted)
    (day : CalendarDay) :
    l'.numbersOn day = l.numbersOn day ++
      if now.day = day then [some (orderNumber day (l.lastNumber day + 1))] else [] := by
  have stamped : (Row.new final.posting now).createdAt = now := rfl
  have told : (Row.new final.posting now).posting.orderNumber? = _ := committed.orderNumber?
  rw [Ledger.numbersOn, committed.rows, List.filter_append, List.map_append]
  refine congrArg _ ?_
  split
  · next same =>
    subst same
    simp [stamped, told]
  · next other => simp [stamped, other]

/-- Every number in a row is one of those that its day has had. -/
theorem IsBalanced.number_of_row (balanced : IsBalanced stock l) {row : Row}
    (member : row ∈ l.outbox.rows) :
    ∃ i : Nat, (i : Int) < l.lastNumber row.createdAt.day ∧
      row.posting.orderNumber? = some (orderNumber row.createdAt.day (i + 1)) := by
  have listed : row.posting.orderNumber? ∈ l.numbersOn row.createdAt.day :=
    List.mem_map_of_mem (List.mem_filter.mpr ⟨member, by simp⟩)
  rw [balanced.numbered] at listed
  obtain ⟨i, below, number⟩ := List.mem_map.mp listed
  have below := List.mem_range.mp below
  exact ⟨i, by omega, number.symm⟩

/-- The next number of a day is in no row. -/
theorem IsBalanced.number_new (balanced : IsBalanced stock l) {day : CalendarDay}
    (short : day.IsShort) (left : l.nextSequence day ≤ lastOfDay) :
    some (orderNumber day (l.lastNumber day + 1)) ∉
      l.outbox.rows.map fun r => r.posting.orderNumber? := by
  intro listed
  obtain ⟨row, member, number⟩ := List.mem_map.mp listed
  obtain ⟨i, below, number'⟩ := balanced.number_of_row member
  obtain ⟨n, last⟩ := Int.eq_ofNat_of_zero_le (balanced.counted day).1
  have left : l.lastNumber day + 1 ≤ 999 := left
  have within := (balanced.counted row.createdAt.day).2
  unfold lastOfDay at within
  have same : orderNumber row.createdAt.day ((i + 1 : Nat) : Int) =
      orderNumber day ((n + 1 : Nat) : Int) := by
    rw [last] at number
    exact Option.some.inj (number'.symm.trans number)
  obtain ⟨days, places⟩ :=
    orderNumber_inj row.createdAt.isShort_day short (by omega) (by omega) same
  rw [days] at below
  omega

theorem IsBalanced.counted_committed (balanced : IsBalanced stock l)
    (committed : l.Committed l' d eventId now final wanted) (day : CalendarDay) :
    0 ≤ l'.lastNumber day ∧ l'.lastNumber day ≤ lastOfDay := by
  have left : l.lastNumber now.day + 1 ≤ lastOfDay := committed.left
  have before := balanced.counted day
  rw [committed.lastNumber]
  split
  · next same =>
    rw [← same] at before ⊢
    omega
  · exact before

theorem IsBalanced.numbered_committed (balanced : IsBalanced stock l)
    (committed : l.Committed l' d eventId now final wanted) (day : CalendarDay) :
    l'.numbersOn day =
      (List.range (l'.lastNumber day).toNat).map fun i : Nat => some (orderNumber day (i + 1)) := by
  rw [committed.numbersOn, committed.lastNumber, balanced.numbered]
  split
  · obtain ⟨n, last⟩ := Int.eq_ofNat_of_zero_le (balanced.counted day).1
    rw [last]
    simp [List.range_succ]
  · rw [List.append_nil]

theorem IsBalanced.apart_committed (balanced : IsBalanced stock l)
    (committed : l.Committed l' d eventId now final wanted) :
    (l'.outbox.rows.map fun r => r.posting.orderNumber?).Nodup := by
  rw [committed.rows, List.map_append]
  refine List.nodup_append.mpr ⟨balanced.apart, List.pairwise_singleton _ _, ?_⟩
  intro number old number' new same
  rw [same, List.mem_singleton.mp new] at old
  refine balanced.number_new now.isShort_day committed.left ?_
  rw [← committed.orderNumber?]
  exact old

theorem IsBalanced.stocked_committed (balanced : IsBalanced stock l)
    (committed : l.Committed l' d eventId now final wanted) (product : Uuid) :
    0 ≤ l'.available product ∧
      l'.available product = available { stock } product - l'.ordered product := by
  have finalized := CheckoutDraft.finalize_ok committed.finalized
  have taken : l'.stock = takeOut l.stock wanted := by rw [committed.entered]; rfl
  obtain ⟨least, amount⟩ := balanced.stocked product
  obtain ⟨less, enough⟩ := available_takeOut (CheckoutDraft.tallied committed.reserved)
    finalized.positive committed.stocked taken product
  have row : l'.ordered product = l.ordered product + amountOf product d.amounts := by
    rw [← finalized.amount, Ledger.ordered, committed.rows]
    simp [Ledger.ordered, Row.new]
  exact ⟨enough least, by omega⟩

/-- The new record gives the answer of the new row. -/
theorem Committed.names (committed : l.Committed l' d eventId now final wanted) :
    l'.Names final.record := by
  have finalized := CheckoutDraft.finalize_ok committed.finalized
  refine ⟨Row.new final.posting now, ?_, _, finalized.replay, ?_, ?_⟩
  · rw [committed.rows]
    simp
  · rw [finalized.outcome]
    show final.posting.aggregateId = _
    rw [finalized.posting, finalized.event]
    rfl
  · rw [finalized.outcome]
    exact finalized.orderNumber?

/-- **An order uses up the next number, takes its lines out of the stock and leaves its row.** -/
theorem IsBalanced.committed (balanced : IsBalanced stock l)
    (committed : l.Committed l' d eventId now final wanted) : IsBalanced stock l' where
  counted := balanced.counted_committed committed
  numbered := balanced.numbered_committed committed
  apart := balanced.apart_committed committed
  stocked := balanced.stocked_committed committed
  recorded r member := by
    have grows : l.outbox.rows <+: l'.outbox.rows := by
      rw [committed.rows]
      exact List.prefix_append _ _
    have records : l'.records = l.records.insert final.record.key final.record := by
      rw [committed.entered]
      rfl
    rw [records] at member
    rcases Assoc.mem_insert member with rfl | old
    · exact committed.names
    · exact (balanced.recorded r old).later grows

end

/-- **What becomes of a ledger**: a draft becomes an order, or records are dropped. -/
theorem act_cases (l : Ledger) (a : Act) :
    (∃ d eventId now final wanted, l.Committed (l.act a) d eventId now final wanted) ∨
      ∃ kept, l.act a = { l with records := l.records.filter kept } := by
  cases a with
  | commit draft eventId now =>
    cases commits : l.commit draft eventId now with
    | mk answer l' =>
      rw [act, commits]
      rcases commit_cases commits with ⟨final, wanted, -, committed⟩ | ⟨-, same⟩
      · exact .inl ⟨draft, eventId, now, final, wanted, committed⟩
      · exact .inr ⟨fun _ => true, by rw [same, List.filter_true]⟩
  | sweep now => exact .inr ⟨fun r => r.2.isLive now, rfl⟩

theorem IsBalanced.act (balanced : IsBalanced stock l) (a : Act) : IsBalanced stock (l.act a) := by
  rcases act_cases l a with ⟨_, _, _, _, _, committed⟩ | ⟨kept, dropped⟩
  · exact balanced.committed committed
  · rw [dropped]
    exact { balanced with
      recorded := fun r member => balanced.recorded r (List.mem_filter.mp member).1 }

theorem rows_act (l : Ledger) (a : Act) : l.outbox.rows <+: (l.act a).outbox.rows := by
  rcases act_cases l a with ⟨_, _, _, _, _, committed⟩ | ⟨kept, dropped⟩
  · rw [committed.rows]
    exact List.prefix_append _ _
  · simp [dropped]

theorem rows_run (l : Ledger) (acts : List Act) : l.outbox.rows <+: (l.run acts).outbox.rows := by
  induction acts generalizing l with
  | nil => exact List.prefix_rfl
  | cons a acts ih => exact (rows_act l a).trans (ih (l.act a))

theorem run_isBalanced (stocked : ∀ product, 0 ≤ available { stock } product) (acts : List Act) :
    IsBalanced stock (run { stock } acts) := by
  have kept (l : Ledger) (balanced : IsBalanced stock l) : IsBalanced stock (l.run acts) := by
    induction acts generalizing l with
    | nil => exact balanced
    | cons a acts ih => exact ih (l.act a) (balanced.act a)
  refine kept _ ⟨fun day => ⟨Int.le_refl 0, Int.ofNat_le.mpr (Nat.zero_le 999)⟩,
    fun _ => rfl, .nil, fun product => ?_, fun r member => nomatch member⟩
  exact ⟨stocked product, by simp [Ledger.ordered]⟩

/-- **A ledger adds up.** The numbers of a day are 1, 2, 3 and so on, without a gap and up to the
stored one, and no two orders have one number; the stock is what was there less what the rows tell,
and no product is oversold; and whatever record there has ever been, its order has a row. -/
theorem run_adds_up (stock : Assoc Uuid Int) (stocked : ∀ product, 0 ≤ available { stock } product)
    (acts : List Act) :
    let l := run { stock } acts
    (∀ day, ∃ n : Nat, n ≤ 999 ∧ l.lastNumber day = n ∧
      l.numbersOn day = (List.range n).map fun i : Nat => some (orderNumber day (i + 1))) ∧
    (l.outbox.rows.map fun r => r.posting.orderNumber?).Nodup ∧
    (∀ product, l.available product = available { stock } product - l.ordered product ∧
      0 ≤ l.available product) ∧
    ∀ more, ∀ r ∈ l.records, (run { stock } (acts ++ more)).Names r.2 := by
  intro l
  have balanced : IsBalanced stock l := run_isBalanced stocked acts
  refine ⟨fun day => ?_, balanced.apart, fun product => (balanced.stocked product).symm,
    fun more r member => ?_⟩
  · obtain ⟨least, most⟩ := balanced.counted day
    obtain ⟨n, last⟩ := Int.eq_ofNat_of_zero_le least
    have numbered := balanced.numbered day
    rw [last] at most numbered
    exact ⟨n, Int.ofNat_le.mp most, last, numbered⟩
  · refine (balanced.recorded r member).later ?_
    rw [run, List.foldl_append]
    exact rows_run l more

end

/-- Of three drafts one becomes an order: the key of the second is taken, and for the third there is
too little left. -/
theorem one_of_three_drafts :
    let line (quantity : Int32) : CartLine :=
      ⟨default, "SKU-001", "Mechanical Keyboard", quantity, Samples.price⟩
    let draft (key : String) : CheckoutDraft :=
      ⟨key, "", default, "checkout-1", default, Samples.customer, [line 2, line 1], 60000000000⟩
    let acts : List Act :=
      [.commit (draft "k") default ⟨0⟩, .commit (draft "k") default ⟨1⟩, .sweep ⟨2⟩,
        .commit (draft "l") default ⟨3⟩]
    let stock : Assoc Uuid Int := [(default, 5)]
    (∀ product, 0 ≤ available { stock } product) ∧
      (run { stock } acts).numbersOn ⟨1970, 1, 1⟩ = [some "ORD-19700101-001"] ∧
      (run { stock } acts).available default = 5 - (run { stock } acts).ordered default ∧
      (run { stock } acts).ordered default = 3 := by
  intro line draft acts stock
  have stocked (product : Uuid) : 0 ≤ available { stock } product := by
    simp only [available, stock, Assoc.find?]
    split <;> decide
  obtain ⟨numbered, -, sold, -⟩ := run_adds_up stock stocked acts
  obtain ⟨n, -, last, numbers⟩ := numbered ⟨1970, 1, 1⟩
  have one : (run { stock } acts).lastNumber ⟨1970, 1, 1⟩ = 1 := by decide +kernel
  have one : n = 1 := Int.ofNat.inj (last.symm.trans one)
  refine ⟨stocked, ?_, (sold default).1, by decide +kernel⟩
  rw [numbers, one]
  decide +kernel

end OrderFlow.Ledger
