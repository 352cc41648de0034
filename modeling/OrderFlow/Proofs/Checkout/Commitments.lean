import OrderFlow.Email
import OrderFlow.Proofs.Checkout.Bookkeeping
import OrderFlow.Proofs.Checkout.Totals

/-!
What a draft is answered. The rules are asked in a fixed order, and the first that applies decides
(`Verdict`): the key, the numbers of the day, the stock, the rules of the event. A draft that is
refused leaves the ledger as it is, and one that becomes an order changes what `Booked` lists.
-/
namespace OrderFlow

/-- A draft with a line for each of the quantities, all of one product. -/
def Samples.draft (quantities : List Int32) : CheckoutDraft where
  key := "k"
  fingerprint := ""
  orderId := default
  correlationId := "checkout-1"
  cartId := default
  customer := Samples.customer
  lines := quantities.map fun quantity =>
    ⟨default, "SKU-001", "Mechanical Keyboard", quantity, Samples.price⟩
  keep := 60000000000

namespace Ledger
open Outbox

variable {l : Ledger} {d : CheckoutDraft} {eventId product : Uuid} {now : Instant}
  {requested : Int} {wanted : List (Uuid × Int)}

/-- A draft wants more of one of its products than there is. -/
def Lacks (l : Ledger) (d : CheckoutDraft) (product : Uuid) : Prop :=
  product ∈ d.amounts.map (·.1) ∧ l.available product < amountOf product d.amounts

/-- The least product of which a draft wants more than there is. -/
structure LacksFirst (l : Ledger) (d : CheckoutDraft) (product : Uuid) : Prop where
  lacks : l.Lacks d product
  first : ∀ other, l.Lacks d other → product ≤ other

/-- No record under the key of a draft still counts. -/
def IsFree (l : Ledger) (d : CheckoutDraft) (now : Instant) : Prop :=
  ∀ record, l.records.find? d.key = some record → record.expiresAt ≤ now

/-- A draft may have the next number of the day. -/
structure IsOpen (l : Ledger) (d : CheckoutDraft) (now : Instant) : Prop where
  free : l.IsFree d now
  left : l.lastNumber now.day + 1 ≤ lastOfDay

/-- The order number that the next order gets. -/
def nextNumber (l : Ledger) (now : Instant) : String :=
  orderNumber now.day (l.lastNumber now.day + 1)

/-- What a draft is answered, by the first rule that applies. -/
inductive Verdict [EmailCheck] (l : Ledger) (d : CheckoutDraft) (eventId : Uuid) (now : Instant) :
    CommitAnswer → Prop where
  | taken {record : KeyRecord} (found : l.records.find? d.key = some record)
      (live : now < record.expiresAt) : Verdict l d eventId now .keyTaken
  | exhausted (free : l.IsFree d now) (spent : lastOfDay < l.lastNumber now.day + 1) :
      Verdict l d eventId now (.refused (.numbersExhausted (String.ofList now.day.text)))
  | short {product : Uuid} (opened : l.IsOpen d now) (lacks : l.LacksFirst d product) :
      Verdict l d eventId now (.refused
        (.insufficientStock product (amountOf product d.amounts) (l.available product)))
  | invalid {e : Invalid} (opened : l.IsOpen d now) (stocked : ∀ product, ¬ l.Lacks d product)
      (broken : (d.event (l.nextNumber now) eventId now).check = .error e) :
      Verdict l d eventId now (.refused (.shared (.invalid e)))
  | committed (opened : l.IsOpen d now) (stocked : ∀ product, ¬ l.Lacks d product)
      (sound : (d.event (l.nextNumber now) eventId now).check = .ok ()) :
      Verdict l d eventId now
        (.committed ⟨201, ⟨l.nextNumber now, d.orderId, "PENDING", d.notice⟩, false⟩)

/-- The ledger `l'` is the ledger `l` after the draft has become an order. -/
structure Booked (l l' : Ledger) (d : CheckoutDraft) (eventId : Uuid) (now : Instant) : Prop where
  sequences : ∀ day, l'.sequences.find? day =
    if now.day = day then some (l.lastNumber day + 1) else l.sequences.find? day
  reserved : ∀ product ∈ d.amounts.map (·.1), (l.stock.find? product).isSome
  stock : ∀ product, l'.stock.find? product =
    (l.stock.find? product).map (· - amountOf product d.amounts)
  posted : ∃ row, l'.outbox.rows = l.outbox.rows ++ [row] ∧ row.status = .pending ∧
    row.posting = .ofOrderCreated (d.event (l.nextNumber now) eventId now) ∧
    row.posting.id = eventId ∧ row.posting.aggregateId = d.orderId.text
  recorded : ∃ record, (∀ key, l'.records.find? key =
      if d.key = key then some record else l.records.find? key) ∧
    record.key = d.key ∧ record.fingerprint = d.fingerprint ∧ record.createdAt = now ∧
    record.expiresAt = now.shift d.keep ∧
    record.replay = .ok ⟨201, ⟨l.nextNumber now, d.orderId, "PENDING", d.notice⟩, true⟩

theorem find?_eq_none_iff : l.find? d.key now = none ↔ l.IsFree d now := by
  simp [find?, IsFree, KeyRecord.isLive, KeyRecord.isExpired, Option.filter_eq_none_iff]

theorem lacks_of_mem (totals : Totals d.amounts wanted) (member : (product, requested) ∈ wanted)
    (short : l.available product < requested) : l.Lacks d product := by
  have sum : requested = amountOf product d.amounts := totals.sums _ member
  exact ⟨(totals.products product).mp (List.mem_map_of_mem member), sum ▸ short⟩

theorem Lacks.mem (lacks : l.Lacks d product) (totals : Totals d.amounts wanted) :
    (product, amountOf product d.amounts) ∈ wanted := by
  obtain ⟨⟨_, requested⟩, member, rfl⟩ := List.mem_map.mp ((totals.products product).mpr lacks.1)
  have sum : requested = _ := totals.sums _ member
  rwa [← sum]

theorem shortage?_eq_none (totals : Totals d.amounts wanted) :
    l.shortage? wanted = none ↔ ∀ product, ¬ l.Lacks d product := by
  rw [shortage?, List.find?_eq_none]
  constructor
  · intro enough product lacks
    exact enough _ (lacks.mem totals) (decide_eq_true lacks.2)
  · rintro stocked ⟨product, requested⟩ member short
    exact stocked product (lacks_of_mem totals member (of_decide_eq_true short))

/-- **The shortage that is named is the first one**, with all that is wanted. -/
theorem shortage?_some (totals : Totals d.amounts wanted)
    (short : l.shortage? wanted = some (product, requested)) :
    l.LacksFirst d product ∧ requested = amountOf product d.amounts := by
  obtain ⟨less, before, after, rfl, enough⟩ := List.find?_eq_some_iff_append.mp short
  have member : (product, requested) ∈ before ++ (product, requested) :: after := by simp
  refine ⟨⟨lacks_of_mem totals member (of_decide_eq_true less), fun other lacks => ?_⟩,
    totals.sums _ member⟩
  have listed := lacks.mem totals
  rcases List.mem_append.mp listed with earlier | later
  · have no := enough _ earlier
    simp only [Bool.not_eq_true', decide_eq_false_iff_not] at no
    exact absurd lacks.2 no
  · rcases List.mem_cons.mp later with same | later
    · exact Fin.le_of_eq (congrArg (·.1.bits) same).symm
    · have rising := List.pairwise_append.mp totals.rising
      exact Fin.le_of_lt ((List.pairwise_cons.mp rising.2.1).1 _ later)

theorem LacksFirst.unique {product' : Uuid} (first : l.LacksFirst d product)
    (first' : l.LacksFirst d product') : product = product' :=
  congrArg Uuid.mk
    (Fin.le_antisymm (first.first _ first'.lacks) (first'.first _ first.lacks))

section
variable {_ : EmailCheck}

theorem commit_taken (taken : ¬ l.IsFree d now) : l.commit d eventId now = (.keyTaken, l) := by
  have found : (l.find? d.key now).isSome := by
    rw [Option.isSome_iff_ne_none]
    exact fun free => taken (find?_eq_none_iff.mp free)
  rw [commit, if_pos found]

/-- What is left to ask once the key is free. -/
theorem commit_free (free : l.IsFree d now)
    (counts : CheckoutDraft.fits32 (l.lastNumber now.day + 1)) :
    l.commit d eventId now =
      match checkSequence now.day (l.lastNumber now.day + 1) with
      | .error e => (.refused e, l)
      | .ok () =>
        match d.reservations? with
        | none => (.refused (.shared .overflow), l)
        | some wanted =>
          match l.shortage? wanted with
          | some (product, requested) =>
            (.refused (.insufficientStock product requested (l.available product)), l)
          | none =>
            match d.finalize (l.nextNumber now) eventId now now with
            | .error e => (.refused e, l)
            | .ok final =>
              (.committed final.outcome,
                l.enter now.day (l.lastNumber now.day + 1) wanted final now) := by
  have found : ¬ (l.find? d.key now).isSome := by
    rw [find?_eq_none_iff.mpr free]
    exact Bool.false_ne_true
  rw [commit, if_neg found]
  exact if_neg (not_not.mpr counts)

theorem commit_exhausted (free : l.IsFree d now)
    (counts : CheckoutDraft.fits32 (l.lastNumber now.day + 1))
    (spent : lastOfDay < l.lastNumber now.day + 1) :
    l.commit d eventId now =
      (.refused (.numbersExhausted (String.ofList now.day.text)), l) := by
  rw [commit_free free counts, checkSequence, if_pos spent]

theorem IsOpen.checked (opened : l.IsOpen d now) :
    checkSequence now.day (l.lastNumber now.day + 1) = .ok () :=
  if_neg (Int.not_lt.mpr opened.left)

theorem commit_overflows (opened : l.IsOpen d now)
    (counts : CheckoutDraft.fits32 (l.lastNumber now.day + 1))
    (overflows : d.reservations? = none) :
    l.commit d eventId now = (.refused (.shared .overflow), l) := by
  rw [commit_free opened.free counts, opened.checked, overflows]

theorem commit_short (opened : l.IsOpen d now)
    (counts : CheckoutDraft.fits32 (l.lastNumber now.day + 1)) (fits : RunsFit d.amounts)
    (lacks : l.LacksFirst d product) :
    l.commit d eventId now = (.refused
      (.insufficientStock product (amountOf product d.amounts) (l.available product)), l) := by
  obtain ⟨wanted, reserved⟩ := Option.isSome_iff_exists.mp (d.reservations?_isSome.mpr fits)
  have totals := CheckoutDraft.reservations?_totals reserved
  rw [commit_free opened.free counts, opened.checked, reserved]
  cases short : l.shortage? wanted with
  | none => exact absurd lacks.lacks ((shortage?_eq_none totals).mp short product)
  | some least =>
    obtain ⟨first, sum⟩ := shortage?_some totals short
    cases first.unique lacks
    simp only [short, sum]

/-- What is left to ask once there is enough of everything. -/
theorem commit_stocked (opened : l.IsOpen d now)
    (counts : CheckoutDraft.fits32 (l.lastNumber now.day + 1)) (fits : RunsFit d.amounts)
    (dated : (now.shift d.keep).inCalendar) (stocked : ∀ product, ¬ l.Lacks d product) :
    (∃ e, (d.event (l.nextNumber now) eventId now).check = .error e ∧
      l.commit d eventId now = (.refused (.shared (.invalid e)), l)) ∨
    ((d.event (l.nextNumber now) eventId now).check = .ok () ∧ ∃ final wanted,
      (l.commit d eventId now).1 = .committed final.outcome ∧
      l.Committed (l.commit d eventId now).2 d eventId now final wanted) := by
  obtain ⟨wanted, reserved⟩ := Option.isSome_iff_exists.mp (d.reservations?_isSome.mpr fits)
  have enough : l.shortage? wanted = none :=
    (shortage?_eq_none (CheckoutDraft.reservations?_totals reserved)).mpr stocked
  have answer : l.commit d eventId now =
      match d.finalize (l.nextNumber now) eventId now now with
      | .error e => (.refused e, l)
      | .ok final =>
        (.committed final.outcome,
          l.enter now.day (l.lastNumber now.day + 1) wanted final now) := by
    rw [commit_free opened.free counts, opened.checked, reserved]
    simp only [enough]
  rw [answer]
  cases finalized : d.finalize (l.nextNumber now) eventId now now with
  | error e =>
    simp only [CheckoutDraft.finalize, dated, if_true] at finalized
    split at finalized
    · next broken =>
      cases finalized
      exact .inl ⟨_, broken, rfl⟩
    · cases finalized
  | ok final =>
    have sound := CheckoutDraft.finalize_ok finalized
    exact .inr ⟨sound.event ▸ sound.checked, final, wanted, rfl, find?_eq_none_iff.mpr opened.free,
      opened.left, reserved, enough, finalized, rfl⟩

section
variable {answer : CommitAnswer} (counts : CheckoutDraft.fits32 (l.lastNumber now.day + 1))
  (fits : RunsFit d.amounts) (dated : (now.shift d.keep).inCalendar)
include counts fits dated

theorem Verdict.commits (verdict : l.Verdict d eventId now answer) :
    (l.commit d eventId now).1 = answer := by
  cases verdict with
  | taken found live =>
    rw [commit_taken fun free => Int.not_le.mpr live (free _ found)]
  | exhausted free spent => rw [commit_exhausted free counts spent]
  | short opened lacks => rw [commit_short opened counts fits lacks]
  | invalid opened stocked broken =>
    rcases commit_stocked opened counts fits dated stocked with ⟨e, broken', refused⟩ | ⟨sound, -⟩
    · cases broken.symm.trans broken'
      rw [refused]
    · cases broken.symm.trans sound
  | committed opened stocked sound =>
    rcases commit_stocked opened counts fits dated stocked with
      ⟨e, broken, -⟩ | ⟨-, final, wanted, answered, committed⟩
    · cases broken.symm.trans sound
    · rw [answered, (CheckoutDraft.finalize_ok committed.finalized).outcome]
      rfl

omit counts dated in
theorem exists_verdict (l : Ledger) (eventId : Uuid) (now : Instant) :
    ∃ answer, l.Verdict d eventId now answer := by
  by_cases free : l.IsFree d now
  · by_cases left : l.lastNumber now.day + 1 ≤ lastOfDay
    · have opened : l.IsOpen d now := ⟨free, left⟩
      obtain ⟨wanted, reserved⟩ := Option.isSome_iff_exists.mp (d.reservations?_isSome.mpr fits)
      have totals := CheckoutDraft.reservations?_totals reserved
      cases short : l.shortage? wanted with
      | some least => exact ⟨_, .short opened (shortage?_some totals short).1⟩
      | none =>
        have stocked := (shortage?_eq_none totals).mp short
        cases checked : (d.event (l.nextNumber now) eventId now).check with
        | error e => exact ⟨_, .invalid opened stocked checked⟩
        | ok _ => exact ⟨_, .committed opened stocked checked⟩
    · exact ⟨_, .exhausted free (Int.not_le.mp left)⟩
  · simp only [IsFree, not_forall] at free
    obtain ⟨record, found, live⟩ := free
    exact ⟨_, .taken found (Int.not_le.mp live)⟩

/-- **The first rule that applies decides**, and no other answer is given. -/
theorem commit_iff_verdict :
    (l.commit d eventId now).1 = answer ↔ l.Verdict d eventId now answer := by
  constructor
  · rintro rfl
    obtain ⟨answer, verdict⟩ := exists_verdict fits l eventId now
    rwa [verdict.commits counts fits dated]
  · exact fun verdict => verdict.commits counts fits dated

end

/-- Every product that is taken out is in the stock. -/
theorem Committed.reserved_known {l' : Ledger} {final : FinalCheckout}
    (committed : l.Committed l' d eventId now final wanted) :
    ∀ product ∈ d.amounts.map (·.1), (l.stock.find? product).isSome := by
  intro product member
  have totals := CheckoutDraft.reservations?_totals committed.reserved
  obtain ⟨⟨product, requested⟩, listed, rfl⟩ :=
    List.mem_map.mp ((totals.products product).mpr member)
  have enough : requested ≤ l.available product := by
    simpa using List.find?_eq_none.mp committed.stocked _ listed
  have positive : 0 < requested := (CheckoutDraft.tallied committed.reserved).positive
    (CheckoutDraft.finalize_ok committed.finalized).positive _ listed
  rw [available] at enough
  cases known : l.stock.find? product with
  | some count => rfl
  | none =>
    rw [known, Option.getD_none] at enough
    omega

theorem Committed.booked {l' : Ledger} {final : FinalCheckout}
    (committed : l.Committed l' d eventId now final wanted) : l.Booked l' d eventId now where
  sequences day := by
    rw [committed.entered]
    refine (Assoc.find?_insert _ _ _ _).trans (ite_congr rfl (fun same => ?_) fun _ => rfl)
    rw [← same]
    rfl
  reserved := committed.reserved_known
  stock product := by
    rw [committed.entered, enter, find?_takeOut,
      (CheckoutDraft.tallied committed.reserved).amounts]
  posted := by
    have finalized := CheckoutDraft.finalize_ok committed.finalized
    refine ⟨_, committed.rows, rfl, ?_⟩
    rw [Row.new, finalized.posting, finalized.event]
    exact ⟨rfl, rfl, rfl⟩
  recorded := by
    have finalized := CheckoutDraft.finalize_ok committed.finalized
    have key : final.record.key = d.key := by rw [finalized.record]
    refine ⟨final.record, fun key' => ?_, key, ?_⟩
    · rw [committed.entered, ← key]
      exact Assoc.find?_insert _ _ _ _
    · rw [finalized.replay, finalized.outcome, finalized.record]
      exact ⟨rfl, rfl, rfl, rfl⟩

/-- **A draft is committed all at once or not at all.** Its answer is that of the first rule that
applies; unless it becomes an order nothing changes, and if it does, exactly its own number, its own
products, its own row and its own record do. -/
theorem commit_all_or_nothing [EmailCheck]
    (counts : -2 ^ 31 ≤ l.lastNumber now.day ∧ l.lastNumber now.day < 2 ^ 31 - 1)
    (fits : RunsFit d.amounts) (dated : (now.shift d.keep).inCalendar) :
    (∀ answer, (l.commit d eventId now).1 = answer ↔ l.Verdict d eventId now answer) ∧
      ((l.commit d eventId now).1.outcome? = none → (l.commit d eventId now).2 = l) ∧
      ((l.commit d eventId now).1.outcome? ≠ none →
        l.Booked (l.commit d eventId now).2 d eventId now) := by
  have next : CheckoutDraft.fits32 (l.lastNumber now.day + 1) := by
    simp only [CheckoutDraft.fits32, Bool.and_eq_true, decide_eq_true_eq]
    omega
  refine ⟨fun answer => commit_iff_verdict next fits dated, ?_⟩
  rcases commit_cases (Prod.eta (l.commit d eventId now)).symm with
    ⟨final, wanted, answered, committed⟩ | ⟨refused, stays⟩
  · rw [answered]
    exact ⟨(fun refused => by cases refused), fun _ => committed.booked⟩
  · exact ⟨fun _ => stays, fun sold => absurd refused sold⟩

end

/-- The last three pieces are sold, in two lines, under a key whose record has just run out. -/
theorem last_pieces_sold :
    let draft := Samples.draft [2, 1]
    let l : Ledger := { records := [("k", ⟨"k", "", 201, "", ⟨0⟩, ⟨5⟩⟩)], stock := [(default, 3)] }
    let answer : CommitAnswer :=
      .committed ⟨201, ⟨"ORD-19700101-001", default, "PENDING", draft.notice⟩, false⟩
    (-2 ^ 31 ≤ l.lastNumber ⟨1970, 1, 1⟩ ∧ l.lastNumber ⟨1970, 1, 1⟩ < 2 ^ 31 - 1) ∧
      RunsFit draft.amounts ∧ ((Instant.mk 5).shift draft.keep).inCalendar ∧
      l.Verdict draft default ⟨5⟩ answer ∧
      l.Booked (l.commit draft default ⟨5⟩).2 draft default ⟨5⟩ := by
  intro draft l answer
  have counts : -2 ^ 31 ≤ l.lastNumber (Instant.mk 5).day ∧
      l.lastNumber (Instant.mk 5).day < 2 ^ 31 - 1 := by decide +kernel
  have fits : RunsFit draft.amounts := draft.reservations?_isSome.mp (by decide +kernel)
  have dated : ((Instant.mk 5).shift draft.keep).inCalendar := by decide +kernel
  have answered : (l.commit draft default ⟨5⟩).1 = answer := by decide +kernel
  obtain ⟨verdicts, -, booked⟩ := @commit_all_or_nothing l draft default ⟨5⟩ _ counts fits dated
  refine ⟨by decide +kernel, fits, dated, (verdicts answer).mp answered, booked ?_⟩
  rw [answered]
  exact fun refused => by cases refused

end Ledger

end OrderFlow
