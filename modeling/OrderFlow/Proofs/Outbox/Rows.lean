import OrderFlow.Outbox.Table

/-!
What becomes of the rows of an outbox. Whatever is done to a table, its rows keep their places and
what they are to send, and a row that no longer waits stays as it is (`Table.Follows`). A row is
claimed only while none of its aggregate waits in front of it (`claim_behind`), so none ever will
(`Table.Follows.behind`).
-/
namespace OrderFlow.Outbox

/-- What may have become of the row `r`. -/
structure Row.Becomes (r r' : Row) : Prop where
  posting : r'.posting = r.posting
  createdAt : r'.createdAt = r.createdAt
  settled : r.isPending = false → r' = r

namespace Row.Becomes
variable {r r' r'' : Row}

theorem refl (r : Row) : r.Becomes r := ⟨rfl, rfl, fun _ => rfl⟩

theorem trans (first : r.Becomes r') (second : r'.Becomes r'') : r.Becomes r'' := by
  refine ⟨second.posting.trans first.posting, second.createdAt.trans first.createdAt,
    fun settled => ?_⟩
  have same := first.settled settled
  rw [second.settled (same ▸ settled), same]

theorem claimed (pending : r.isPending = true) (until? : Option Instant) :
    r.Becomes { r with claimedUntil := until? } :=
  ⟨rfl, rfl, fun settled => by rw [pending] at settled; cases settled⟩

theorem sent (now : Instant) (r : Row) : r.Becomes (Table.Row.sent now r) := by
  unfold Table.Row.sent
  split
  · next pending => exact ⟨rfl, rfl, fun settled => by rw [pending] at settled; cases settled⟩
  · exact refl r

theorem missed (error : String) (now next : Instant) (maxAttempts : Int) (r : Row) :
    r.Becomes (Table.Row.missed error now next maxAttempts r) := by
  unfold Table.Row.missed
  split
  · next pending =>
    dsimp only
    split <;> exact ⟨rfl, rfl, fun settled => by rw [pending] at settled; cases settled⟩
  · exact refl r

end Row.Becomes

namespace Table
variable {t t' t'' : Table} {p : Posting} {id : Uuid} {f : Row → Row} {r : Row}

/-- The table `t'` may have become of `t`. -/
def Follows (t t' : Table) : Prop :=
  ∀ (i : Nat) (r : Row), t.rows[i]? = some r → ∃ r', t'.rows[i]? = some r' ∧ r.Becomes r'

theorem Follows.refl (t : Table) : t.Follows t := fun _ r at_ => ⟨r, at_, .refl r⟩

theorem Follows.trans (first : t.Follows t') (second : t'.Follows t'') : t.Follows t'' := by
  intro i r at_
  obtain ⟨r', at_, becomes⟩ := first i r at_
  obtain ⟨r'', at_, later⟩ := second i r' at_
  exact ⟨r'', at_, becomes.trans later⟩

theorem follows_insert (t : Table) (p : Posting) (now : Instant) : t.Follows (t.insert p now) := by
  intro i r at_
  obtain ⟨below, _⟩ := List.getElem?_eq_some_iff.mp at_
  exact ⟨r, by rw [insert, List.getElem?_append_left below, at_], .refl r⟩

theorem getElem?_change {rows : List Row} {i : Nat} (at_ : rows[i]? = some r) :
    (change id f rows)[i]? = some r ∨ (change id f rows)[i]? = some (f r) := by
  induction rows generalizing i with
  | nil => cases at_
  | cons first rows ih =>
    rw [change]
    cases i with
    | zero =>
      cases at_
      split
      · exact .inr rfl
      · exact .inl rfl
    | succ i =>
      have at_ : rows[i]? = some r := at_
      split
      · exact .inl at_
      · exact ih at_

theorem mem_change {rows : List Row} (member : r ∈ change id f rows) :
    r ∈ rows ∨ ∃ r' ∈ rows, r'.posting.id = id ∧ r = f r' := by
  induction rows with
  | nil => cases member
  | cons first rows ih =>
    rw [change] at member
    split at member
    · next same =>
      rcases List.mem_cons.mp member with rfl | later
      · exact .inr ⟨first, List.mem_cons_self, same, rfl⟩
      · exact .inl (List.mem_cons_of_mem _ later)
    · rcases List.mem_cons.mp member with rfl | later
      · exact .inl List.mem_cons_self
      · refine (ih later).imp (List.mem_cons_of_mem _) ?_
        rintro ⟨r', old, rest⟩
        exact ⟨r', List.mem_cons_of_mem _ old, rest⟩

theorem follows_change (becomes : ∀ r : Row, r.Becomes (f r)) (id : Uuid) (t : Table) :
    t.Follows ⟨change id f t.rows⟩ := by
  intro i r at_
  have stands : (change id f t.rows)[i]? = some r ∨ (change id f t.rows)[i]? = some (f r) :=
    getElem?_change at_
  rcases stands with same | changed
  · exact ⟨r, same, .refl r⟩
  · exact ⟨f r, changed, becomes r⟩

theorem markPublished_ok {now : Instant} (marked : t.markPublished id now = .ok t') :
    t' = ⟨change id (Row.sent now) t.rows⟩ := by
  unfold markPublished at marked
  split at marked
  · cases marked
  · cases marked
    rfl

theorem recordFailure_ok {error : String} {now next : Instant} {maxAttempts : Int}
    {status : Status}
    (recorded : t.recordFailure id error now next maxAttempts = .ok (status, t')) :
    t' = ⟨change id (Row.missed error now next maxAttempts) t.rows⟩ := by
  unfold recordFailure at recorded
  split at recorded
  · cases recorded
  · cases recorded
    rfl

theorem follows_markPublished {now : Instant} (marked : t.markPublished id now = .ok t') :
    t.Follows t' := by
  rw [markPublished_ok marked]
  exact follows_change (Row.Becomes.sent now) id t

theorem follows_recordFailure {error : String} {now next : Instant} {maxAttempts : Int}
    {status : Status}
    (recorded : t.recordFailure id error now next maxAttempts = .ok (status, t')) :
    t.Follows t' := by
  rw [recordFailure_ok recorded]
  exact follows_change (Row.Becomes.missed error now next maxAttempts) id t

/-- An event of the table in front of which none of its aggregate waits; those in front are as `P`
says. -/
def Behind (t : Table) (P : Row → Prop) (p : Posting) : Prop :=
  ∃ (i : Nat) (r : Row), t.rows[i]? = some r ∧ r.posting = p ∧
    ∀ k < i, ∀ e, t.rows[k]? = some e → e.posting.aggregateId = p.aggregateId →
      e.isPending = false ∧ P e

/-- **Nothing ever waits in front of an event again.** -/
theorem Follows.behind {P : Row → Prop} (follows : t.Follows t') (behind : t.Behind P p) :
    t'.Behind P p := by
  obtain ⟨i, r, at_, posting, front⟩ := behind
  obtain ⟨r', at_', becomes⟩ := follows i r at_
  refine ⟨i, r', at_', becomes.posting.trans posting, fun k before e' place same => ?_⟩
  have below : k < t.rows.length := by
    have within := (List.getElem?_eq_some_iff.mp at_).1
    omega
  obtain ⟨e'', place', became⟩ := follows k _ (List.getElem?_eq_getElem below)
  cases place.symm.trans place'
  have settled := front k before _ (List.getElem?_eq_getElem below)
    (became.posting.symm ▸ same)
  rw [became.settled settled.1]
  exact settled

theorem Behind.imp {P Q : Row → Prop} (behind : t.Behind P p)
    (implies : ∀ e ∈ t.rows, P e → Q e) : t.Behind Q p := by
  obtain ⟨i, r, at_, posting, front⟩ := behind
  refine ⟨i, r, at_, posting, fun k before e place same => ?_⟩
  obtain ⟨settled, holds⟩ := front k before e place same
  exact ⟨settled, implies e (List.mem_of_getElem? place) holds⟩

section
variable {now deadline : Instant} {rows : List Row} {limit : Nat} {blocked : List String}

theorem getElem?_claimFrom {i : Nat} (at_ : rows[i]? = some r) :
    (claimFrom now deadline limit blocked rows).2[i]? = some r ∨
      r.isPending = true ∧
        (claimFrom now deadline limit blocked rows).2[i]? =
          some { r with claimedUntil := some deadline } := by
  induction rows generalizing limit blocked i with
  | nil => cases at_
  | cons first rows ih =>
    simp only [claimFrom]
    split
    · next free =>
      cases i with
      | zero =>
        cases at_
        exact .inr ⟨free.2.1, rfl⟩
      | succ i => exact ih at_
    · cases i with
      | zero =>
        cases at_
        exact .inl rfl
      | succ i => exact ih at_

theorem mem_claimFrom (member : r ∈ (claimFrom now deadline limit blocked rows).2) :
    ∃ r' ∈ rows, r = r' ∨ r = { r' with claimedUntil := some deadline } := by
  induction rows generalizing limit blocked with
  | nil => cases member
  | cons first rows ih =>
    simp only [claimFrom] at member
    split at member
    · rcases List.mem_cons.mp member with rfl | later
      · exact ⟨first, List.mem_cons_self, .inr rfl⟩
      · obtain ⟨r', old, rest⟩ := ih later
        exact ⟨r', List.mem_cons_of_mem _ old, rest⟩
    · rcases List.mem_cons.mp member with rfl | later
      · exact ⟨r, List.mem_cons_self, .inl rfl⟩
      · obtain ⟨r', old, rest⟩ := ih later
        exact ⟨r', List.mem_cons_of_mem _ old, rest⟩

/-- The claimed rows are those of the table as they stand then. -/
theorem claimFrom_sublist (now deadline : Instant) (limit : Nat) (blocked : List String)
    (rows : List Row) : (claimFrom now deadline limit blocked rows).1.Sublist
      (claimFrom now deadline limit blocked rows).2 := by
  induction rows generalizing limit blocked with
  | nil => exact .slnil
  | cons first rows ih =>
    simp only [claimFrom]
    split
    · exact (ih _ _).cons_cons _
    · exact (ih _ _).cons _

/-- A claimed row was waiting and due, and is claimed until the deadline. -/
theorem claimFrom_due (member : r ∈ (claimFrom now deadline limit blocked rows).1) :
    ∃ e ∈ rows, e.isPending = true ∧ e.isDue now = true ∧
      r = { e with claimedUntil := some deadline } := by
  induction rows generalizing limit blocked with
  | nil => cases member
  | cons first rows ih =>
    have later {limit : Nat} {blocked : List String}
        (member : r ∈ (claimFrom now deadline limit blocked rows).1) :
        ∃ e ∈ first :: rows, e.isPending = true ∧ e.isDue now = true ∧
          r = { e with claimedUntil := some deadline } := by
      obtain ⟨e, old, rest⟩ := ih member
      exact ⟨e, List.mem_cons_of_mem _ old, rest⟩
    simp only [claimFrom] at member
    split at member
    · next free =>
      rcases List.mem_cons.mp member with rfl | rest
      · exact ⟨first, List.mem_cons_self, free.2.1, free.2.2.2, rfl⟩
      · exact later rest
    · exact later member

/-- A row that was not claimed is as it was. -/
theorem mem_or_claimed (member : r ∈ (claimFrom now deadline limit blocked rows).2) :
    r ∈ rows ∨ r ∈ (claimFrom now deadline limit blocked rows).1 := by
  induction rows generalizing limit blocked with
  | nil => cases member
  | cons first rows ih =>
    simp only [claimFrom] at member ⊢
    split at member
    · next free =>
      rw [if_pos free]
      rcases List.mem_cons.mp member with rfl | rest
      · exact .inr List.mem_cons_self
      · exact (ih rest).imp (List.mem_cons_of_mem _) (List.mem_cons_of_mem _)
    · next kept =>
      rw [if_neg kept]
      rcases List.mem_cons.mp member with rfl | rest
      · exact .inl List.mem_cons_self
      · exact (ih rest).imp_left (List.mem_cons_of_mem _)

/-- A claimed row has its place behind rows of its aggregate that no longer wait, and those of its
aggregate are not blocked. -/
theorem claimFrom_front (member : r ∈ (claimFrom now deadline limit blocked rows).1) :
    r.posting.aggregateId ∉ blocked ∧ ∃ (i : Nat) (r' : Row), rows[i]? = some r' ∧
      r'.posting = r.posting ∧ ∀ k < i, ∀ e, rows[k]? = some e →
        e.posting.aggregateId = r.posting.aggregateId → e.isPending = false := by
  induction rows generalizing limit blocked with
  | nil => cases member
  | cons first rows ih =>
    have later {limit : Nat} (member : r ∈ (claimFrom now deadline limit
        (if first.isPending then first.posting.aggregateId :: blocked else blocked) rows).1) :
        r.posting.aggregateId ∉ blocked ∧ ∃ (i : Nat) (r' : Row), (first :: rows)[i]? = some r' ∧
          r'.posting = r.posting ∧ ∀ k < i, ∀ e, (first :: rows)[k]? = some e →
            e.posting.aggregateId = r.posting.aggregateId → e.isPending = false := by
      obtain ⟨free, i, r', at_, posting, front⟩ := ih member
      have unblocked : r.posting.aggregateId ∉ blocked ∧
          (first.isPending = true → first.posting.aggregateId ≠ r.posting.aggregateId) := by
        split at free
        · next pending =>
          obtain ⟨other, free⟩ := not_or.mp (mt List.mem_cons.mpr free)
          exact ⟨free, fun _ => Ne.symm other⟩
        · next settled => exact ⟨free, fun pending => absurd pending settled⟩
      refine ⟨unblocked.1, i + 1, r', at_, posting, fun k before e place same => ?_⟩
      cases k with
      | zero =>
        cases place
        exact Bool.eq_false_iff.mpr fun pending => unblocked.2 pending same
      | succ k => exact front k (Nat.lt_of_succ_lt_succ before) e place same
    simp only [claimFrom] at member
    split at member
    · next free =>
      rcases List.mem_cons.mp member with rfl | rest
      · exact ⟨free.2.2.1, 0, first, rfl, rfl, fun k before => absurd before (Nat.not_lt_zero k)⟩
      · exact later rest
    · exact later member

end

section
variable {limit : Nat} {now deadline : Instant} {rows : List Row}

theorem follows_claim (claimed : t.claim limit now deadline = (rows, t')) : t.Follows t' := by
  cases claimed
  intro i r at_
  have stands : (claimFrom now deadline limit [] t.rows).2[i]? = some r ∨
      r.isPending = true ∧ (claimFrom now deadline limit [] t.rows).2[i]? =
        some { r with claimedUntil := some deadline } := getElem?_claimFrom at_
  rcases stands with same | ⟨pending, changed⟩
  · exact ⟨r, same, .refl r⟩
  · exact ⟨_, changed, .claimed pending _⟩

/-- **A row is claimed only while none of its aggregate waits in front of it.** -/
theorem claim_behind (claimed : t.claim limit now deadline = (rows, t')) (member : r ∈ rows) :
    t.Behind (fun _ => True) r.posting := by
  cases claimed
  obtain ⟨-, i, r', at_, posting, front⟩ := claimFrom_front member
  exact ⟨i, r', at_, posting, fun k before e place same => ⟨front k before e place same, trivial⟩⟩

end

/-- The events that count as sent. -/
def sent (t : Table) : List Uuid :=
  (t.rows.filter fun r => r.status = .published).map fun r => r.posting.id

theorem mem_sent : id ∈ t.sent ↔ ∃ r ∈ t.rows, r.status = .published ∧ r.posting.id = id := by
  simp [sent, and_assoc]

theorem sent_insert (t : Table) (p : Posting) (now : Instant) : (t.insert p now).sent = t.sent := by
  simp [sent, insert, Row.new]

theorem sent_claim {limit : Nat} {now deadline : Instant} {rows : List Row}
    (claimed : t.claim limit now deadline = (rows, t')) (member : id ∈ t'.sent) : id ∈ t.sent := by
  cases claimed
  obtain ⟨r, held, published, same⟩ := mem_sent.mp member
  obtain ⟨r', old, rfl | rfl⟩ := mem_claimFrom held
  · exact mem_sent.mpr ⟨_, old, published, same⟩
  · exact mem_sent.mpr ⟨_, old, published, same⟩

theorem sent_markPublished {now : Instant} {id' : Uuid}
    (marked : t.markPublished id now = .ok t') (member : id' ∈ t'.sent) :
    id' = id ∨ id' ∈ t.sent := by
  obtain ⟨r, held, published, same⟩ := mem_sent.mp member
  rw [markPublished_ok marked] at held
  rcases mem_change held with old | ⟨r', old, named, rfl⟩
  · exact .inr (mem_sent.mpr ⟨r, old, published, same⟩)
  · rw [(Row.Becomes.sent now r').posting, named] at same
    exact .inl same.symm

theorem sent_recordFailure {error : String} {now next : Instant} {maxAttempts : Int}
    {status : Status} {id' : Uuid}
    (recorded : t.recordFailure id error now next maxAttempts = .ok (status, t'))
    (member : id' ∈ t'.sent) : id' ∈ t.sent := by
  obtain ⟨r, held, published, same⟩ := mem_sent.mp member
  rw [recordFailure_ok recorded] at held
  rcases mem_change held with old | ⟨r', old, named, rfl⟩
  · exact mem_sent.mpr ⟨r, old, published, same⟩
  · refine mem_sent.mpr ⟨r', old, ?_, ?_⟩
    · unfold Row.missed at published
      split at published
      · next pending =>
        dsimp only at published
        split at published
        · cases published
        · exact published
      · exact published
    · rw [← same, (Row.Becomes.missed error now next maxAttempts r').posting]

end Table

end OrderFlow.Outbox
