import Mathlib.Algebra.Ring.Nat
import Mathlib.Data.List.Forall2
import OrderFlow.Outbox.Loop
import OrderFlow.Proofs.Outbox.Moves
import OrderFlow.Proofs.Outbox.Rows

/-!
How often the rows of an outbox can still fail. No call of a publisher wins a try back
(`Move.wanes`), and a report on a row that waits uses up one at least, whatever it says
(`marked_lt`, `recorded_lt`). A report is on the first row of its identifier, so this wants
every row that waits to be the first one of its own (`Table.IsHopeful`).
-/
namespace OrderFlow.Outbox
variable {maxAttempts : Int} {r r' : Row}

namespace Row

/-- How often a row can still fail. -/
def triesLeft (maxAttempts : Int) (r : Row) : Nat :=
  if r.isPending then (maxAttempts - r.attempts).toNat else 0

/-- What may become of a row that wins no try back. -/
structure Wanes (maxAttempts : Int) (r r' : Row) : Prop where
  posting : r'.posting = r.posting
  pending : r'.isPending = true → r.isPending = true
  attempts : r.attempts ≤ r'.attempts
  untried : (r.isPending = true → r.attempts < maxAttempts) →
    r'.isPending = true → r'.attempts < maxAttempts

theorem Wanes.refl (r : Row) : Wanes maxAttempts r r := ⟨rfl, id, Nat.le_refl _, id⟩

theorem Wanes.triesLeft_le (wanes : Wanes maxAttempts r r') :
    r'.triesLeft maxAttempts ≤ r.triesLeft maxAttempts := by
  have more := wanes.attempts
  unfold triesLeft
  split
  · next waits =>
    rw [if_pos (wanes.pending waits)]
    omega
  · exact Nat.zero_le _

theorem wanes_sent (now : Instant) (r : Row) : Wanes maxAttempts r (Table.Row.sent now r) := by
  unfold Table.Row.sent
  split
  · exact ⟨rfl, (fun waits => nomatch waits), Nat.le_refl _, fun _ waits => nomatch waits⟩
  · exact .refl r

theorem wanes_missed (error : String) (now next : Instant) (r : Row) :
    Wanes maxAttempts r (Table.Row.missed error now next maxAttempts r) := by
  unfold Table.Row.missed
  split
  · next waits =>
    dsimp only
    split
    · exact ⟨rfl, fun _ => waits, Nat.le_succ _, fun _ gone => nomatch gone⟩
    · next more => exact ⟨rfl, fun _ => waits, Nat.le_succ _, fun _ _ => Int.not_le.mp more⟩
  · exact .refl r

/-- A row that was sent has no tries left. -/
theorem triesLeft_sent (now : Instant) (waits : r.isPending = true)
    (untried : r.attempts < maxAttempts) :
    (Table.Row.sent now r).triesLeft maxAttempts < r.triesLeft maxAttempts := by
  have settled : (Table.Row.sent now r).isPending = false := by
    simp only [Table.Row.sent, waits, ↓reduceIte]
    rfl
  rw [triesLeft, triesLeft, settled, if_pos waits]
  simp only [Bool.false_eq_true, ↓reduceIte]
  omega

/-- A row that could not be sent has a try less. -/
theorem triesLeft_missed (error : String) (now next : Instant) (waits : r.isPending = true)
    (untried : r.attempts < maxAttempts) :
    (Table.Row.missed error now next maxAttempts r).triesLeft maxAttempts <
      r.triesLeft maxAttempts := by
  have used : (Table.Row.missed error now next maxAttempts r).attempts = r.attempts + 1 := by
    simp only [Table.Row.missed, waits, ↓reduceIte]
    split <;> rfl
  rw [triesLeft, triesLeft, used, if_pos waits]
  split <;> omega

end Row

theorem triesLeft_eq_sum (c : Config) (t : Table) :
    triesLeft c t = (t.rows.map (Row.triesLeft c.maxAttempts)).sum := by
  rw [triesLeft, ← List.sum_eq_foldl]
  induction t.rows with
  | nil => rfl
  | cons r rows ih =>
    rw [List.filter_cons, List.map_cons, List.sum_cons, ← ih, Row.triesLeft]
    by_cases waits : r.isPending = true
    · rw [if_pos waits, if_pos waits, List.map_cons, List.sum_cons]
    · rw [if_neg waits, if_neg waits, Nat.zero_add]

namespace Table
variable {t t' : Table} {id : Uuid} {f : Row → Row} {rows : List Row} {c : Config}

/-- The table `t'` may have become of `t`, and no row has won a try back. -/
def Wanes (maxAttempts : Int) (t t' : Table) : Prop :=
  List.Forall₂ (Row.Wanes maxAttempts) t.rows t'.rows

/-- Every row that waits can be tried once more and is the first one of its identifier. -/
structure IsHopeful (maxAttempts : Int) (t : Table) : Prop where
  untried : ∀ r ∈ t.rows, r.isPending = true → r.attempts < maxAttempts
  own : t.rows.Pairwise fun e r => r.isPending = true → e.posting.id ≠ r.posting.id

theorem Wanes.refl (t : Table) : Wanes maxAttempts t t :=
  List.forall₂_same.mpr fun r _ => .refl r

theorem Wanes.triesLeft_le (wanes : Wanes c.maxAttempts t t') : triesLeft c t' ≤ triesLeft c t := by
  rw [triesLeft_eq_sum, triesLeft_eq_sum]
  unfold Wanes at wanes
  generalize t.rows = rows, t'.rows = rows' at wanes
  induction wanes with
  | nil => exact Nat.le_refl _
  | cons first _ ih =>
    have := first.triesLeft_le
    simp only [List.map_cons, List.sum_cons]
    omega

/-- A row has become of one that was there. -/
theorem exists_of_mem {rows rows' : List Row}
    (wanes : List.Forall₂ (Row.Wanes maxAttempts) rows rows') (member : r' ∈ rows') :
    ∃ r ∈ rows, Row.Wanes maxAttempts r r' := by
  induction wanes with
  | nil => cases member
  | @cons r _ _ _ first _ ih =>
    rcases List.mem_cons.mp member with rfl | later
    · exact ⟨r, List.mem_cons_self, first⟩
    · obtain ⟨r, old, wanes⟩ := ih later
      exact ⟨r, List.mem_cons_of_mem _ old, wanes⟩

theorem Wanes.isHopeful (wanes : Wanes maxAttempts t t') (hopeful : t.IsHopeful maxAttempts) :
    t'.IsHopeful maxAttempts := by
  obtain ⟨untried, own⟩ := hopeful
  refine ⟨fun r' member waits => ?_, ?_⟩
  · obtain ⟨r, old, became⟩ := exists_of_mem wanes member
    exact became.untried (untried r old) waits
  · unfold Wanes at wanes
    clear untried
    generalize t.rows = rows, t'.rows = rows' at *
    induction wanes with
    | nil => exact .nil
    | @cons e e' _ _ first rest ih =>
      obtain ⟨apart, own⟩ := List.pairwise_cons.mp own
      refine List.pairwise_cons.mpr ⟨fun r' member waits => ?_, ih own⟩
      obtain ⟨r, old, became⟩ := exists_of_mem rest member
      rw [first.posting, became.posting]
      exact apart r old (became.pending waits)

theorem wanes_change (wanes : ∀ r, Row.Wanes maxAttempts r (f r)) (id : Uuid) (rows : List Row) :
    List.Forall₂ (Row.Wanes maxAttempts) rows (change id f rows) := by
  induction rows with
  | nil => exact .nil
  | cons r rows ih =>
    rw [change]
    split
    · exact .cons (wanes r) (List.forall₂_same.mpr fun r _ => .refl r)
    · exact .cons (.refl r) ih

theorem wanes_claimFrom (now deadline : Instant) (limit : Nat) (blocked : List String)
    (rows : List Row) :
    List.Forall₂ (Row.Wanes maxAttempts) rows (claimFrom now deadline limit blocked rows).2 := by
  induction rows generalizing limit blocked with
  | nil => exact .nil
  | cons r rows ih =>
    simp only [claimFrom]
    split
    · exact .cons ⟨rfl, id, Nat.le_refl _, id⟩ (ih _ _)
    · exact .cons (.refl r) (ih _ _)

theorem mem_change_of_ne (member : r ∈ rows) (other : r.posting.id ≠ id) :
    r ∈ change id f rows := by
  induction rows with
  | nil => cases member
  | cons first rows ih =>
    rw [change]
    rcases List.mem_cons.mp member with rfl | later
    · rw [if_neg other]
      exact List.mem_cons_self
    · split
      · exact List.mem_cons_of_mem _ later
      · exact List.mem_cons_of_mem _ (ih later)

/-- A report on a row that waits is a report on this row. -/
theorem sum_change_lt (own : rows.Pairwise fun e r => r.isPending = true →
      e.posting.id ≠ r.posting.id) (member : r ∈ rows) (waits : r.isPending = true)
    (less : (f r).triesLeft maxAttempts < r.triesLeft maxAttempts) :
    ((change r.posting.id f rows).map (Row.triesLeft maxAttempts)).sum <
      (rows.map (Row.triesLeft maxAttempts)).sum := by
  induction rows with
  | nil => cases member
  | cons first rows ih =>
    obtain ⟨apart, own⟩ := List.pairwise_cons.mp own
    rw [change]
    rcases List.mem_cons.mp member with rfl | later
    · simp only [↓reduceIte, List.map_cons, List.sum_cons]
      omega
    · have := ih own later
      simp only [apart r later waits, ↓reduceIte, List.map_cons, List.sum_cons]
      omega

/-- Marking a row that waits uses up its tries. -/
theorem marked_lt {now : Instant} (hopeful : t.IsHopeful c.maxAttempts) (member : r ∈ t.rows)
    (waits : r.isPending = true) (marked : t.markPublished r.posting.id now = .ok t') :
    triesLeft c t' < triesLeft c t := by
  rw [markPublished_ok marked, triesLeft_eq_sum, triesLeft_eq_sum]
  exact sum_change_lt hopeful.own member waits
    (Row.triesLeft_sent now waits (hopeful.untried r member waits))

/-- A failure of a row that waits uses up a try. -/
theorem recorded_lt {error : String} {now next : Instant} {status : Status}
    (hopeful : t.IsHopeful c.maxAttempts) (member : r ∈ t.rows) (waits : r.isPending = true)
    (recorded : t.recordFailure r.posting.id error now next c.maxAttempts = .ok (status, t')) :
    triesLeft c t' < triesLeft c t := by
  rw [recordFailure_ok recorded, triesLeft_eq_sum, triesLeft_eq_sum]
  exact sum_change_lt hopeful.own member waits
    (Row.triesLeft_missed error now next waits (hopeful.untried r member waits))

end Table

/-- No call of a batch wins a try back. -/
theorem Move.wanes {c : Config} {d d' : Desk} {b b' : Batch} (move : Move c d d' b b') :
    d.table.Wanes c.maxAttempts d'.table := by
  cases move with
  | claims claimed writes =>
    rw [writes.table]
    cases claimed
    exact Table.wanes_claimFrom _ _ _ _ _
  | sends _ writes | misses _ writes =>
    rw [writes.table]
    exact .refl _
  | marks marked writes =>
    rw [writes.table, Table.markPublished_ok marked]
    exact Table.wanes_change (Row.wanes_sent _) _ _
  | records recorded writes =>
    rw [writes.table, Table.recordFailure_ok recorded]
    exact Table.wanes_change (Row.wanes_missed _ _ _) _ _
  | ends aside =>
    rw [aside.table]
    exact .refl _

end OrderFlow.Outbox
