import OrderFlow.Proofs.Order.Searches

/-!
Which orders a search chooses. `Chosen` says it without the search: up to `limit` of the orders that
have waited, each once, none before one that has waited longer, and none while one that has waited
longer is passed over. Both searches choose so (`stalled_chosen`, `unsettled_chosen`). Of the orders
that have waited since a cut-off, a later choice takes as many as there is room for
(`Chosen.takes`), so what is left of them gets smaller from choice to choice.
-/
namespace OrderFlow
namespace OrderBook
variable {b b' : OrderBook} {x : Uuid} {cutoff time : Instant}

/-- `chosen` are up to `limit` of the orders that have waited since some time: those that have
waited longest, the longest first. -/
structure Chosen (since : Uuid → Instant → Prop) (limit : Nat) (chosen : List Uuid) : Prop where
  once : chosen.Nodup
  within : chosen.length ≤ limit
  waited : ∀ x ∈ chosen, ∃ time, since x time
  ordered : chosen.Pairwise fun x y =>
    ∀ time later, since x time → since y later → time ≤ later
  passed : ∀ y later, since y later → y ∉ chosen →
    chosen.length = limit ∧ ∀ x ∈ chosen, ∀ time, since x time → time ≤ later

theorem Chosen.congr {since since' : Uuid → Instant → Prop} {limit : Nat} {chosen : List Uuid}
    (chooses : Chosen since limit chosen) (same : ∀ x time, since x time ↔ since' x time) :
    Chosen since' limit chosen := by
  have same : since = since' := funext fun x => funext fun time => propext (same x time)
  exact same ▸ chooses

theorem mergeSort_ascends (found : List (Instant × Uuid)) :
    (found.mergeSort fun a b => a.1 ≤ b.1).Pairwise fun a b => a.1 ≤ b.1 := by
  refine (@List.pairwise_mergeSort _ (fun a b : Instant × Uuid => decide (a.1 ≤ b.1))
    (fun a b c first second => ?_) (fun a b => ?_) found).imp of_decide_eq_true
  · exact decide_eq_true (Int.le_trans (of_decide_eq_true first) (of_decide_eq_true second))
  · rw [Bool.or_eq_true, decide_eq_true_eq, decide_eq_true_eq]
    exact Int.le_total a.1.nanos b.1.nanos

/-- What is found once by a search is chosen by age. -/
theorem oldest_chosen {found : List (Instant × Uuid)} (once : (found.map (·.2)).Nodup)
    (limit : Int) : Chosen (fun x time => (time, x) ∈ found) limit.toNat (oldest limit found) := by
  let sorted := found.mergeSort fun a b => a.1 ≤ b.1
  have perm : sorted.Perm found := List.mergeSort_perm _ _
  have ascends : sorted.Pairwise fun a b => a.1 ≤ b.1 := mergeSort_ascends found
  have apart : (sorted.map (·.2)).Nodup := (perm.map _).nodup_iff.mpr once
  have inSorted (entry : Instant × Uuid) : entry ∈ found ↔ entry ∈ sorted := perm.mem_iff.symm
  have timed {entry : Instant × Uuid} (member : entry ∈ sorted) {time : Instant}
      (since : (time, entry.2) ∈ found) : time = entry.1 :=
    congrArg Prod.fst (List.inj_on_of_nodup_map apart ((inSorted _).mp since) member rfl)
  have split : sorted.take limit.toNat ++ sorted.drop limit.toNat = sorted :=
    List.take_append_drop ..
  refine ⟨?_, ?_, fun x member => ?_, ?_, fun y later since missed => ?_⟩
  · exact apart.sublist ((List.take_sublist ..).map _)
  · simp [oldest, List.length_take]
  · obtain ⟨entry, taken, rfl⟩ := List.mem_map.mp member
    exact ⟨entry.1, (inSorted entry).mpr (List.mem_of_mem_take taken)⟩
  · refine List.pairwise_map.mpr ((ascends.sublist (List.take_sublist ..)).imp_of_mem ?_)
    intro entry entry' taken taken' before time later since since'
    rw [timed (List.mem_of_mem_take taken) since, timed (List.mem_of_mem_take taken') since']
    exact before
  · have dropped : (later, y) ∈ sorted.drop limit.toNat := by
      have member := (inSorted _).mp since
      rw [← split] at member
      refine (List.mem_append.mp member).resolve_left fun taken => missed ?_
      exact List.mem_map.mpr ⟨_, taken, rfl⟩
    refine ⟨?_, fun x member time since' => ?_⟩
    · have full : limit.toNat < sorted.length := by
        have some_left := List.length_pos_of_mem dropped
        rw [List.length_drop] at some_left
        omega
      have full : limit.toNat < found.length := perm.length_eq ▸ full
      simp only [oldest, List.length_map, List.length_take, List.length_mergeSort]
      omega
    · obtain ⟨entry, taken, rfl⟩ := List.mem_map.mp member
      rw [timed (List.mem_of_mem_take taken) since']
      exact (List.pairwise_append.mp (split ▸ ascends)).2.2 entry taken _ dropped

/-- **Of those that have waited since a cut-off a choice takes as many as it has room for.** -/
theorem Chosen.takes {since : Uuid → Instant → Prop} {limit : Nat} {chosen : List Uuid}
    (chooses : Chosen since limit chosen) (cutoff : Instant)
    {waiting waiting' : List (Instant × Uuid)}
    (listed : ∀ x time, (time, x) ∈ waiting ↔ since x time ∧ time ≤ cutoff)
    (once : (waiting'.map (·.2)).Nodup)
    (left : ∀ entry ∈ waiting', entry ∈ waiting ∧ entry.2 ∉ chosen) :
    waiting'.length ≤ waiting.length - limit := by
  rcases waiting'.eq_nil_or_concat with rfl | ⟨front, ⟨later, y⟩, rfl⟩
  · exact Nat.zero_le _
  · obtain ⟨member, missed⟩ := left (later, y) (by simp)
    obtain ⟨since, late⟩ := (listed y later).mp member
    -- Somebody is passed over, so the choice is full, and all chosen have waited since the cut-off.
    obtain ⟨full, first⟩ := chooses.passed y later since missed
    have apart : (chosen ++ (front.concat (later, y)).map (·.2)).Nodup := by
      refine List.nodup_append.mpr ⟨chooses.once, once, fun x taken x' kept same => ?_⟩
      obtain ⟨entry, inside, rfl⟩ := List.mem_map.mp kept
      exact (left entry inside).2 (same ▸ taken)
    have within : chosen ++ (front.concat (later, y)).map (·.2) ⊆ waiting.map (·.2) := by
      intro x either
      rcases List.mem_append.mp either with taken | kept
      · obtain ⟨time, since⟩ := chooses.waited x taken
        have early : time ≤ cutoff := Int.le_trans (first x taken time since) late
        exact List.mem_map.mpr ⟨_, (listed x time).mpr ⟨since, early⟩, rfl⟩
      · obtain ⟨entry, inside, rfl⟩ := List.mem_map.mp kept
        exact List.mem_map.mpr ⟨entry, (left entry inside).1, rfl⟩
    have counted := apart.length_le_of_subset within
    rw [List.length_append, List.length_map, List.length_map, full] at counted
    omega

/-! ## The two searches -/

/-- The order `x` is pending, and so is its payment, which was entered at `time`, not after
`cutoff`. -/
def IsStalled (b : OrderBook) (cutoff : Instant) (x : Uuid) (time : Instant) : Prop :=
  ∃ order tx, b.findOrder x = some order ∧ order.status = .pending ∧ b.findPayment x = some tx ∧
    tx.status = .pending ∧ tx.createdAt = time ∧ time ≤ cutoff

/-- The order `x` is in process with its payment pending and was last changed at `time`, not after
`cutoff`. -/
def IsAdrift (b : OrderBook) (cutoff : Instant) (x : Uuid) (time : Instant) : Prop :=
  ∃ order tx, b.IsUnsettled x order tx ∧ order.updatedAt = time ∧ time ≤ cutoff

/-- The orders that were never attempted and whose payments were entered at `cutoff` or before. -/
def overdue (b : OrderBook) (cutoff : Instant) : List (Instant × Uuid) :=
  b.payments.values.filterMap fun p =>
    if p.status = .pending ∧ p.createdAt ≤ cutoff ∧
        (b.findOrder p.orderId).any (·.status = .pending) then some (p.createdAt, p.orderId)
    else none

theorem mem_overdue (indexed : b.IsIndexed) (filed : b.IsFiled) :
    (time, x) ∈ b.overdue cutoff ↔ b.IsStalled cutoff x time := by
  have once : b.payments.keys.Nodup := filed.alongside ▸ filed.once
  simp only [overdue, List.mem_filterMap, Option.ite_none_right_eq_some, Option.some.injEq,
    Prod.mk.injEq, Assoc.values, List.mem_map, Prod.exists, exists_eq_right]
  constructor
  · rintro ⟨tx, ⟨k, member⟩, ⟨pending, late, waits⟩, rfl, rfl⟩
    have found : b.findPayment k = some tx := Assoc.find?_of_mem once member
    obtain ⟨order, ofOrder, status⟩ := (Option.any_eq_true _ _).mp waits
    rw [← indexed.ofPayment k tx found] at found
    exact ⟨order, tx, ofOrder, of_decide_eq_true status, found, pending, rfl, late⟩
  · rintro ⟨order, tx, ofOrder, status, found, pending, rfl, late⟩
    have named := indexed.ofPayment x tx found
    refine ⟨tx, ⟨x, Assoc.mem_of_find? found⟩, ⟨pending, late, ?_⟩, rfl, named⟩
    rw [named, ofOrder]
    exact decide_eq_true status

theorem overdue_once (indexed : b.IsIndexed) (filed : b.IsFiled) (cutoff : Instant) :
    ((b.overdue cutoff).map (·.2)).Nodup := by
  refine nodup_names (filed.alongside ▸ filed.once) fun k tx found entry shown => ?_
  simp only [Option.ite_none_right_eq_some, Option.some.injEq] at shown
  obtain ⟨-, rfl⟩ := shown
  exact indexed.ofPayment k tx found

/-- **The first search of a sweep chooses the stalled payments by age.** -/
theorem stalled_chosen (indexed : b.IsIndexed) (filed : b.IsFiled) (cutoff : Instant)
    (limit : Int) : Chosen (b.IsStalled cutoff) limit.toNat (b.stalled cutoff limit) :=
  (oldest_chosen (overdue_once indexed filed cutoff) limit).congr fun _ _ =>
    mem_overdue indexed filed

/-- **The second search of a sweep chooses the orders left in process by age.** -/
theorem unsettled_chosen (indexed : b.IsIndexed) (filed : b.IsFiled) (cutoff : Instant)
    (limit : Int) : Chosen (b.IsAdrift cutoff) limit.toNat (b.unsettled cutoff limit) :=
  (oldest_chosen (adrift_once indexed filed cutoff) limit).congr fun _ _ =>
    mem_adrift indexed filed

theorem IsStalled.within (stalled : b.IsStalled cutoff x time) : time ≤ cutoff := by
  obtain ⟨_, _, _, _, _, _, _, within⟩ := stalled
  exact within

theorem IsAdrift.within (adrift : b.IsAdrift cutoff x time) : time ≤ cutoff := by
  obtain ⟨_, _, _, _, within⟩ := adrift
  exact within

theorem IsStalled.of_le {cutoff' : Instant} (stalled : b.IsStalled cutoff x time)
    (within : time ≤ cutoff') : b.IsStalled cutoff' x time := by
  obtain ⟨order, tx, ofOrder, status, found, pending, same, -⟩ := stalled
  exact ⟨order, tx, ofOrder, status, found, pending, same, within⟩

theorem IsAdrift.of_le {cutoff' : Instant} (adrift : b.IsAdrift cutoff x time)
    (within : time ≤ cutoff') : b.IsAdrift cutoff' x time := by
  obtain ⟨order, tx, unsettled, same, -⟩ := adrift
  exact ⟨order, tx, unsettled, same, within⟩

theorem IsStalled.spared (stalled : b.IsStalled cutoff x time) (spared : b.Spares b' x) :
    b'.IsStalled cutoff x time := by
  obtain ⟨order, tx, ofOrder, status, found, rest⟩ := stalled
  exact ⟨order, tx, spared.order.trans ofOrder, status, spared.payment.trans found, rest⟩

theorem IsAdrift.spared (adrift : b.IsAdrift cutoff x time) (spared : b.Spares b' x) :
    b'.IsAdrift cutoff x time := by
  obtain ⟨order, tx, unsettled, rest⟩ := adrift
  exact ⟨order, tx, unsettled.spared spared, rest⟩

/-- An order waits for one thing at a time. -/
theorem IsStalled.not_adrift {cutoff' time' : Instant} (stalled : b.IsStalled cutoff x time) :
    ¬ b.IsAdrift cutoff' x time' := by
  rintro ⟨order, tx, unsettled, -⟩
  obtain ⟨order', _, found, pending, -⟩ := stalled
  cases found.symm.trans unsettled.ofOrder
  cases pending.symm.trans unsettled.processing

theorem IsSettled.spared (settled : b.IsSettled x) (spared : b.Spares b' x) : b'.IsSettled x := by
  obtain ⟨tx, found, done⟩ := settled
  exact ⟨tx, spared.payment.trans found, done⟩

theorem IsStalled.not_settled (stalled : b.IsStalled cutoff x time) : ¬ b.IsSettled x := by
  rintro ⟨tx, found, done⟩
  obtain ⟨_, _, _, _, found', pending, -⟩ := stalled
  cases found.symm.trans found'
  exact done pending

theorem IsAdrift.not_settled (adrift : b.IsAdrift cutoff x time) : ¬ b.IsSettled x := by
  rintro ⟨tx, found, done⟩
  obtain ⟨_, _, unsettled, -⟩ := adrift
  cases found.symm.trans unsettled.ofPayment
  exact done unsettled.pending

end OrderBook
end OrderFlow
