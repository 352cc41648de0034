import Mathlib.Data.List.Basic
import OrderFlow.Outbox.Table

/-!
What a claim gets. A row can be delivered if it waits, its time has come, nobody holds it, and no
row of its aggregate that waits stands in front of it. A claim gets the first ones of these, as many
as it asks for, and changes nothing else (`claim_exact`). It reads the rows once, from the first to
the last, and what it knows of the rows behind it is which aggregates still wait (`Blocks`); that is
enough to tell whether the next row can be delivered.
-/
namespace OrderFlow.Outbox

/-- A row that is held until a deadline. -/
def Row.heldUntil (deadline : Instant) (r : Row) : Row := { r with claimedUntil := some deadline }

/-- The row of an event that nobody has tried to send yet. -/
def fresh (id : Nat) (aggregate : String) : Row :=
  .new ⟨.ofNat id, aggregate, "", "orders.created", .nat 1⟩ ⟨0⟩

namespace Table
variable {t : Table} {now deadline : Instant} {limit i : Nat} {blocked : List String}
  {front rows : List Row} {r : Row}

/-- The row in a place can be delivered. -/
def IsDeliverable (t : Table) (now : Instant) (i : Nat) : Prop :=
  ∃ r ∈ t.rows[i]?, r.status = .pending ∧ r.nextAttemptAt ≤ now ∧
    (∀ u ∈ r.claimedUntil, u < now) ∧
    ∀ e ∈ t.rows.take i, e.status = .pending → e.posting.aggregateId ≠ r.posting.aggregateId

instance (t : Table) (now : Instant) (i : Nat) : Decidable (t.IsDeliverable now i) :=
  inferInstanceAs (Decidable (∃ r ∈ t.rows[i]?, r.status = .pending ∧ r.nextAttemptAt ≤ now ∧
    (∀ u ∈ r.claimedUntil, u < now) ∧
    ∀ e ∈ t.rows.take i, e.status = .pending → e.posting.aggregateId ≠ r.posting.aggregateId))

/-- The places of the rows that can be delivered, the first one first. -/
def deliverable (t : Table) (now : Instant) : List Nat :=
  (List.range t.rows.length).filter (t.IsDeliverable now ·)

/-- The aggregates in `blocked` are those that wait in front. -/
def Blocks (front : List Row) (blocked : List String) : Prop :=
  ∀ a, a ∈ blocked ↔ ∃ e ∈ front, e.isPending = true ∧ e.posting.aggregateId = a

theorem Blocks.snoc (blocks : Blocks front blocked) (r : Row) :
    Blocks (front ++ [r]) (if r.isPending then r.posting.aggregateId :: blocked else blocked) := by
  intro a
  by_cases pending : r.isPending = true
  · rw [if_pos pending, List.mem_cons, blocks a]
    constructor
    · rintro (rfl | ⟨e, member, waits⟩)
      · exact ⟨r, by simp, pending, rfl⟩
      · exact ⟨e, List.mem_append_left _ member, waits⟩
    · rintro ⟨e, member, waits⟩
      rcases List.mem_append.mp member with old | new
      · exact .inr ⟨e, old, waits⟩
      · cases List.mem_singleton.mp new
        exact .inl waits.2.symm
  · rw [if_neg pending, blocks a]
    constructor
    · rintro ⟨e, member, waits⟩
      exact ⟨e, List.mem_append_left _ member, waits⟩
    · rintro ⟨e, member, waits⟩
      rcases List.mem_append.mp member with old | new
      · exact ⟨e, old, waits⟩
      · cases List.mem_singleton.mp new
        exact absurd waits.1 pending

/-- What a claim asks of the next row. -/
theorem isDeliverable_next (parts : t.rows = front ++ r :: rows) (blocks : Blocks front blocked) :
    t.IsDeliverable now front.length ↔
      r.isPending = true ∧ r.posting.aggregateId ∉ blocked ∧ r.isDue now = true := by
  have place : t.rows[front.length]? = some r := by simp [parts]
  have before : t.rows.take front.length = front := by simp [parts]
  have free : (∀ u ∈ r.claimedUntil, u < now) ↔ r.claimedUntil.all (· < now) = true := by
    cases r.claimedUntil <;> simp
  rw [IsDeliverable, place, before, blocks]
  simp only [Option.mem_some_iff, exists_eq_left', free, Row.isPending, Row.isDue, Bool.and_eq_true,
    decide_eq_true_eq, not_exists, not_and]
  tauto

/-- The places from `n` on that a claim chooses. -/
def chosenFrom (t : Table) (now : Instant) (limit n count : Nat) : List Nat :=
  ((List.range' n count).filter (t.IsDeliverable now ·)).take limit

theorem chosenFrom_succ (t : Table) (now : Instant) (limit n count : Nat) :
    t.chosenFrom now limit n (count + 1) =
      if 0 < limit ∧ t.IsDeliverable now n then n :: t.chosenFrom now (limit - 1) (n + 1) count
      else t.chosenFrom now limit (n + 1) count := by
  rw [chosenFrom, List.range'_succ, List.filter_cons]
  cases limit with
  | zero => simp [chosenFrom]
  | succ limit =>
    by_cases free : t.IsDeliverable now n
    · simp [free, chosenFrom]
    · simp [free, chosenFrom]

theorem le_of_mem_chosenFrom {n count : Nat} (chosen : i ∈ t.chosenFrom now limit n count) :
    n ≤ i := by
  have member := List.mem_of_mem_filter (List.mem_of_mem_take chosen)
  exact (List.mem_range'_1.mp member).1

/-- **One pass over the rows finds those that can be delivered**, wherever it has got to. -/
theorem claimFrom_eq (parts : t.rows = front ++ rows) (blocks : Blocks front blocked) :
    claimFrom now deadline limit blocked rows =
      ((t.chosenFrom now limit front.length rows.length).filterMap fun i =>
          (t.rows[i]?).map (Row.heldUntil deadline),
        rows.mapIdx fun j r =>
          if front.length + j ∈ t.chosenFrom now limit front.length rows.length
          then r.heldUntil deadline else r) := by
  induction rows generalizing front limit blocked with
  | nil => simp [claimFrom, chosenFrom]
  | cons r rows ih =>
    have place : t.rows[front.length]? = some r := by simp [parts]
    have parts' : t.rows = (front ++ [r]) ++ rows := by simp [parts]
    have length : (front ++ [r]).length = front.length + 1 := by simp
    have ih (limit : Nat) := @ih limit _ _ parts' (blocks.snoc r)
    simp only [length] at ih
    have free : (0 < limit ∧ r.isPending = true ∧ r.posting.aggregateId ∉ blocked ∧
        r.isDue now = true) ↔ 0 < limit ∧ t.IsDeliverable now front.length := by
      rw [isDeliverable_next parts blocks]
    have onward (places : List Nat) (j : Nat) :
        front.length + (j + 1) ∈ places ↔ front.length + 1 + j ∈ places := by
      rw [Nat.add_right_comm, Nat.add_assoc]
    rw [List.length_cons, chosenFrom_succ, claimFrom]
    dsimp only
    by_cases takes : 0 < limit ∧ t.IsDeliverable now front.length
    · rw [if_pos (free.mpr takes), if_pos takes, ih, List.filterMap_cons, place, List.mapIdx_cons]
      have first : front.length + 0 ∈
          front.length :: t.chosenFrom now (limit - 1) (front.length + 1) rows.length := by simp
      have later (j : Nat) : front.length + (j + 1) ∈
          front.length :: t.chosenFrom now (limit - 1) (front.length + 1) rows.length ↔
            front.length + 1 + j ∈
              t.chosenFrom now (limit - 1) (front.length + 1) rows.length := by
        rw [onward _ j, List.mem_cons]
        exact or_iff_right (by omega)
      simp only [first, later, ↓reduceIte]
      rfl
    · rw [if_neg (mt free.mp takes), if_neg takes, ih, List.mapIdx_cons]
      have behind : front.length + 0 ∉
          t.chosenFrom now limit (front.length + 1) rows.length := by
        intro chosen
        have := le_of_mem_chosenFrom chosen
        omega
      simp only [onward, behind, ↓reduceIte]

theorem mem_deliverable : i ∈ t.deliverable now ↔ t.IsDeliverable now i := by
  rw [deliverable, List.mem_filter, decide_eq_true_eq, List.mem_range]
  refine and_iff_right_of_imp fun free => ?_
  obtain ⟨r, place, -⟩ := free
  exact (List.getElem?_eq_some_iff.mp place).1

theorem deliverable_sorted (t : Table) (now : Instant) :
    (t.deliverable now).Pairwise (· < ·) :=
  List.pairwise_lt_range.filter _

/-- The rows that can be delivered belong to different aggregates: of two of them the first one
waits in front of the other. -/
theorem aggregates_differ {i j : Nat} {r r' : Row} (before : i < j)
    (free : t.IsDeliverable now i) (free' : t.IsDeliverable now j) (at_ : t.rows[i]? = some r)
    (at_' : t.rows[j]? = some r') : r.posting.aggregateId ≠ r'.posting.aggregateId := by
  obtain ⟨_, place, waits, -⟩ := free
  obtain ⟨_, place', -, -, -, alone⟩ := free'
  cases at_.symm.trans place
  cases at_'.symm.trans place'
  refine alone r (List.mem_of_getElem? (i := i) ?_) waits
  rw [List.getElem?_take_of_lt before, at_]

theorem claim_eq (t : Table) (limit : Nat) (now deadline : Instant) :
    t.claim limit now deadline =
      (((t.deliverable now).take limit).filterMap fun i =>
          (t.rows[i]?).map (Row.heldUntil deadline),
        ⟨t.rows.mapIdx fun i r =>
          if i ∈ (t.deliverable now).take limit then r.heldUntil deadline else r⟩) := by
  have none : Blocks [] [] := by simp [Blocks]
  have chosen : t.chosenFrom now limit 0 t.rows.length = (t.deliverable now).take limit := by
    rw [chosenFrom, deliverable, List.range_eq_range']
  have parts : t.rows = [] ++ t.rows := rfl
  rw [claim, claimFrom_eq parts none]
  simp only [List.length_nil, Nat.zero_add, chosen]

/-- What becomes of the row in a place. -/
theorem getElem?_claim (limit : Nat) (now deadline : Instant) (at_ : t.rows[i]? = some r) :
    (t.claim limit now deadline).2.rows[i]? =
      some (if i ∈ (t.deliverable now).take limit then r.heldUntil deadline else r) := by
  simp only [claim_eq, List.getElem?_mapIdx, at_, Option.map_some]

/-- The rows that a claim gets are rows of the table that it leaves behind. -/
theorem claimed_eq (t : Table) (limit : Nat) (now deadline : Instant) :
    (t.claim limit now deadline).1 =
      ((t.deliverable now).take limit).filterMap ((t.claim limit now deadline).2.rows[·]?) := by
  have taken (i : Nat) (chosen : i ∈ (t.deliverable now).take limit) :
      (t.rows[i]?).map (Row.heldUntil deadline) = (t.claim limit now deadline).2.rows[i]? := by
    obtain ⟨r, place, -⟩ := mem_deliverable.mp (List.mem_of_mem_take chosen)
    rw [getElem?_claim limit now deadline place, if_pos chosen, place]
    rfl
  rw [← List.filterMap_congr taken, claim_eq]

theorem length_claimed (t : Table) (limit : Nat) (now deadline : Instant) :
    (t.claim limit now deadline).1.length = min limit (t.deliverable now).length := by
  have held (i : Nat) (chosen : i ∈ (t.deliverable now).take limit) :
      ((t.rows[i]?).map (Row.heldUntil deadline)).isSome := by
    obtain ⟨r, place, -⟩ := mem_deliverable.mp (List.mem_of_mem_take chosen)
    rw [place]
    rfl
  rw [claim_eq, List.filterMap_length_eq_length.mpr held, List.length_take]

/-- No two of the rows that a claim gets belong to one aggregate. -/
theorem nodup_claimed (t : Table) (limit : Nat) (now deadline : Instant) :
    ((t.claim limit now deadline).1.map (·.posting.aggregateId)).Nodup := by
  have sorted := (deliverable_sorted t now).sublist (List.take_sublist limit _)
  rw [List.Nodup, List.pairwise_map, claim_eq, List.pairwise_filterMap]
  refine sorted.imp_of_mem ?_
  intro i j first second before e at_ e' at_'
  obtain ⟨r, place, rfl⟩ := Option.map_eq_some_iff.mp at_
  obtain ⟨r', place', rfl⟩ := Option.map_eq_some_iff.mp at_'
  have differ := aggregates_differ before (mem_deliverable.mp (List.mem_of_mem_take first))
    (mem_deliverable.mp (List.mem_of_mem_take second)) place place'
  exact differ

/-- What a claim for a number of nanoseconds comes to. -/
theorem claim?_eq (t : Table) (limit : Nat) (now : Instant) (lease : Int) :
    t.claim? limit now lease =
      if (t.deliverable now).take limit ≠ [] ∧ (now.shift lease).inCalendar = false then none
      else some (t.claim limit now (now.shift lease)) := by
  have empty : (t.claim limit now (now.shift lease)).1 = [] ↔
      (t.deliverable now).take limit = [] := by
    rw [← List.length_eq_zero_iff, length_claimed, ← List.length_take, List.length_eq_zero_iff]
  simp only [claim?, ne_eq, empty, Bool.not_eq_true]

/-- **A claim gets exactly the first rows that can be delivered**, in the order in which they were
inserted: as many as it asks for, or all of them if there are fewer. These rows, which belong to
different aggregates, are held from now on until the end of the lease; apart from that they are as
they were, and so is every other row. There is no claim only if there is something to claim and the
calendar has no such end. -/
theorem claim_exact (t : Table) (limit : Nat) (now : Instant) (lease : Int) :
    let deadline := now.shift lease
    let places := t.deliverable now
    (∀ i, i ∈ places ↔ t.IsDeliverable now i) ∧ places.Pairwise (· < ·) ∧
    (places.take limit ≠ [] → deadline.inCalendar = false → t.claim? limit now lease = none) ∧
    (places.take limit = [] ∨ deadline.inCalendar = true → ∃ claimed t',
      t.claim? limit now lease = some (claimed, t') ∧
      claimed = (places.take limit).filterMap (t'.rows[·]?) ∧
      claimed.length = min limit places.length ∧
      t'.rows.length = t.rows.length ∧
      (∀ i r, t.rows[i]? = some r → t'.rows[i]? =
        some (if i ∈ places.take limit then { r with claimedUntil := some deadline } else r)) ∧
      (claimed.map (·.posting.aggregateId)).Nodup) := by
  intro deadline places
  refine ⟨fun i => mem_deliverable, deliverable_sorted t now, fun chosen beyond => ?_,
    fun tellable => ⟨(t.claim limit now deadline).1, (t.claim limit now deadline).2, ?_,
      claimed_eq t limit now deadline, length_claimed t limit now deadline, ?_,
      fun i r => getElem?_claim limit now deadline, nodup_claimed t limit now deadline⟩⟩
  · rw [claim?_eq, if_pos ⟨chosen, beyond⟩]
  · rw [claim?_eq, if_neg]
    rintro ⟨chosen, beyond⟩
    rcases tellable with nothing | within
    · exact chosen nothing
    · exact Bool.false_ne_true (beyond.symm.trans within)
  · simp [claim_eq]

/-- Of two events of one aggregate and one of another, the first of each is claimed. -/
theorem first_of_each_claimed :
    let t : Table := ⟨[fresh 1 "a", fresh 2 "a", fresh 3 "b"]⟩
    let deadline : Instant := ⟨30000000000⟩
    (t.deliverable ⟨0⟩).take 10 = [0, 2] ∧ deadline.inCalendar = true ∧
      ∃ claimed t', t.claim? 10 ⟨0⟩ 30000000000 = some (claimed, t') ∧ claimed.length = 2 ∧
        t'.rows[0]? = some { fresh 1 "a" with claimedUntil := some deadline } ∧
        t'.rows[1]? = some (fresh 2 "a") := by
  intro t deadline
  have places : (t.deliverable ⟨0⟩).take 10 = [0, 2] := by decide +kernel
  have within : deadline.inCalendar = true := by decide +kernel
  obtain ⟨-, -, -, told⟩ := claim_exact t 10 ⟨0⟩ 30000000000
  obtain ⟨claimed, t', claims, rows, -, -, becomes, -⟩ := told (.inr within)
  have first := becomes 0 _ rfl
  have second := becomes 1 _ rfl
  have third := becomes 2 _ rfl
  rw [places] at rows first second third
  refine ⟨places, within, claimed, t', claims, ?_, first, second⟩
  rw [rows, List.filterMap_cons, first, List.filterMap_cons, third]
  rfl

/-- An event that can be delivered is not claimed until a moment that the calendar does not have. -/
theorem unclaimed_beyond_calendar :
    let t : Table := ⟨[fresh 1 "a"]⟩
    t.IsDeliverable ⟨0⟩ 0 ∧ t.claim? 10 ⟨0⟩ 9000000000000000000000 = none := by
  decide +kernel

end Table

end OrderFlow.Outbox
