import Mathlib.Data.List.Nodup
import OrderFlow.Proofs.Outbox.Sequence

/-!
The life of a row. It waits until it was sent or given up, then it stays as it is, and what it says
about its tries always fits (`Row.IsRegular`), however late a report on it arrives. Nothing is lost
on the way: what counts as sent is on the broker, and whatever the publishers have put there is the
message of a row (`rows_stay_regular`).
-/
namespace OrderFlow.Outbox

/-- A row whose tries, error and time of sending fit its status, if it may be tried `maxAttempts`
times. -/
structure Row.IsRegular (maxAttempts : Int) (r : Row) : Prop where
  bounded : r.attempts ≤ maxAttempts
  failed : r.status = .failed ↔ r.attempts = maxAttempts
  published : r.publishedAt.isSome ↔ r.status = .published
  error : r.lastError.isSome ↔ 1 ≤ r.attempts
  short : ∀ error, r.lastError = some error → error.length ≤ errorLimit

theorem length_shortened (error : String) : (shortened error).length ≤ errorLimit := by
  rw [shortened, String.length_ofList]
  exact List.length_take_le _ _

namespace Row.IsRegular
variable {maxAttempts : Int} {r : Row}

theorem of_new (tried : 1 ≤ maxAttempts) (p : Posting) (now : Instant) :
    (Row.new p now).IsRegular maxAttempts where
  bounded := by simp only [Row.new]; omega
  failed := by simp only [Row.new, reduceCtorEq, false_iff]; omega
  published := by simp [Row.new]
  error := by simp [Row.new]
  short := fun _ none => nomatch none

/-- A row that waits may be tried once more. -/
theorem untried (regular : r.IsRegular maxAttempts) (pending : r.isPending = true) :
    r.attempts < maxAttempts := by
  have waits : r.status = .pending := of_decide_eq_true pending
  have others : (r.attempts : Int) ≠ maxAttempts := fun all => by
    rw [regular.failed.mpr all] at waits
    cases waits
  have := regular.bounded
  omega

theorem sent (regular : r.IsRegular maxAttempts) (now : Instant) :
    (Table.Row.sent now r).IsRegular maxAttempts := by
  unfold Table.Row.sent
  split
  · next pending =>
    have untried := regular.untried pending
    refine { regular with failed := ?_, published := by simp }
    simp only [reduceCtorEq, false_iff]
    omega
  · exact regular

theorem missed (regular : r.IsRegular maxAttempts) (error : String) (now next : Instant) :
    (Table.Row.missed error now next maxAttempts r).IsRegular maxAttempts := by
  unfold Table.Row.missed
  split
  · next pending =>
    have untried := regular.untried pending
    have waits : r.status = .pending := of_decide_eq_true pending
    have unsent : ¬ r.publishedAt.isSome := fun sent => by
      rw [regular.published.mp sent] at waits
      cases waits
    have short : ∀ e, some (shortened error) = some e → e.length ≤ errorLimit :=
      fun e same => Option.some.inj same ▸ length_shortened error
    have bounded : ((r.attempts + 1 : Nat) : Int) ≤ maxAttempts := by omega
    dsimp only
    split
    -- it was the last try
    · next last =>
      exact ⟨bounded, iff_of_true rfl (Int.le_antisymm bounded last), by simpa using unsent,
        by simp, short⟩
    · next more =>
      refine ⟨bounded, iff_of_false (by simp [waits]) fun all => more (Int.le_of_eq all.symm), ?_,
        by simp, short⟩
      simpa [waits] using unsent
  · exact regular

end Row.IsRegular

/-- Every row of the table is regular. -/
def Table.IsRegular (maxAttempts : Int) (t : Table) : Prop :=
  ∀ r ∈ t.rows, r.IsRegular maxAttempts

variable {c : Config} {d d' : Desk} {b b' : Batch}

/-- A call of a publisher that allows so many tries keeps the rows regular. -/
theorem Move.regular (move : Move c d d' b b') (regular : d.table.IsRegular c.maxAttempts) :
    d'.table.IsRegular c.maxAttempts := by
  cases move with
  | claims claimed writes =>
    rw [writes.table]
    cases claimed
    intro r member
    obtain ⟨r', old, rfl | rfl⟩ := Table.mem_claimFrom member
    · exact regular _ old
    · exact { regular _ old with }
  | sends _ writes | misses _ writes =>
    rw [writes.table]
    exact regular
  | marks marked writes =>
    rw [writes.table, Table.markPublished_ok marked]
    intro r member
    rcases Table.mem_change member with old | ⟨r', old, -, rfl⟩
    · exact regular r old
    · exact (regular r' old).sent _
  | records recorded writes =>
    rw [writes.table, Table.recordFailure_ok recorded]
    intro r member
    rcases Table.mem_change member with old | ⟨r', old, -, rfl⟩
    · exact regular r old
    · exact (regular r' old).missed _ _ _
  | ends aside =>
    rw [aside.table]
    exact regular

namespace Office
variable {o o' : Office} {e : Event} {events : List Event} {maxAttempts : Int}

/-- What an event posts. -/
def Event.posting? : Event → Option Posting
  | .post p => some p
  | _ => none

/-- How many tries a publisher allows that begins a batch. -/
def Event.allows (maxAttempts : Int) : Event → Prop
  | .begin c => c.maxAttempts = maxAttempts
  | _ => True

theorem Step.postings (step : Step o e o') :
    o'.desk.table.postings = o.desk.table.postings ++ e.posting?.toList := by
  cases step with
  | posts p => exact Table.postings_insert _ p _
  | begins | rests | weather => exact (List.append_nil _).symm
  | acts _ move => exact move.postings.trans (List.append_nil _).symm

/-- The rows are to send what was posted, in this order. -/
theorem run_postings (o : Office) (events : List Event) :
    (o.run events).desk.table.postings =
      o.desk.table.postings ++ events.filterMap Event.posting? := by
  induction events generalizing o with
  | nil => exact (List.append_nil _).symm
  | cons e events ih =>
    refine (ih (o.step e)).trans ?_
    rw [(step_cases o e).postings, List.append_assoc, List.filterMap_cons]
    cases e.posting? <;> rfl

theorem Step.tables (step : Step o e o') : o.desk.table.Follows o'.desk.table := by
  cases step with
  | posts p => exact Table.follows_insert _ p _
  | begins | rests | weather => exact .refl _
  | acts _ move => exact move.tables

/-- Rows keep their places, and those that no longer wait stay as they are. -/
theorem run_follows (o : Office) (events : List Event) :
    o.desk.table.Follows (o.run events).desk.table :=
  run_keeps (P := fun o' => o.desk.table.Follows o'.desk.table) (.refl _)
    fun _ _ _ follows step => follows.trans step.tables

/-- An office of regular rows, all publishers of which allow so many tries. -/
structure IsRegular (maxAttempts : Int) (o : Office) : Prop where
  agreed : ∀ batch ∈ o.batches, batch.1.maxAttempts = maxAttempts
  rows : o.desk.table.IsRegular maxAttempts

theorem IsRegular.step (regular : IsRegular maxAttempts o) (tried : 1 ≤ maxAttempts)
    (allowed : e.allows maxAttempts) (step : Step o e o') : IsRegular maxAttempts o' := by
  cases step with
  | posts p =>
    refine { regular with rows := fun r member => ?_ }
    rcases List.mem_append.mp member with old | new
    · exact regular.rows r old
    · rw [List.mem_singleton.mp new]
      exact .of_new tried p _
  | begins c =>
    refine { regular with agreed := fun batch member => ?_ }
    rcases List.mem_append.mp member with old | new
    · exact regular.agreed batch old
    · rw [List.mem_singleton.mp new]
      exact allowed
  | rests => exact regular
  | @acts doer c b b' later under move =>
    have own : c.maxAttempts = maxAttempts := regular.agreed _ (List.mem_of_getElem? under)
    refine ⟨fun batch member => ?_, own ▸ move.regular (own ▸ regular.rows)⟩
    rcases mem_batches_acted member with old | rfl
    · exact regular.agreed batch old
    · exact own
  | weather w => exact { regular with }

/-- What batches hold and what the broker has accepted was posted. -/
structure IsOwn (o : Office) : Prop where
  held : ∀ batch ∈ o.batches, ∀ row ∈ batch.2.rows, row.posting ∈ o.desk.table.postings
  accepted : ∀ row ∈ o.accepted, row.posting ∈ o.desk.table.postings

theorem IsOwn.step (own : IsOwn o) (step : Step o e o') : IsOwn o' := by
  have grows {p : Posting} (old : p ∈ o.desk.table.postings) : p ∈ o'.desk.table.postings :=
    step.postings ▸ List.mem_append_left _ old
  cases step with
  | posts p =>
    exact ⟨fun batch member row held => grows (own.held batch member row held),
      fun row member => grows (own.accepted row member)⟩
  | begins c =>
    refine { own with held := fun batch member => ?_ }
    rcases List.mem_append.mp member with old | new
    · exact own.held batch old
    · rw [List.mem_singleton.mp new]
      exact fun row held => nomatch held
  | rests => exact own
  | @acts doer c b b' later under move =>
    have before := own.held _ (List.mem_of_getElem? under)
    refine ⟨fun batch member row held => ?_, fun row member => ?_⟩
    · rcases mem_batches_acted member with old | rfl
      · exact grows (own.held batch old row held)
      · exact (move.rows row held).elim (fun old => grows (before row old)) grows
    · rw [accepted_acted] at member
      rcases List.mem_append.mp member with old | new
      · exact grows (own.accepted row old)
      · exact grows (before row (held_of_accepted (Option.mem_toList.mp new)))
  | weather w => exact { own with }

theorem opening_isOwn (around : Surroundings) (broker : Broker) : IsOwn (opening around broker) :=
  ⟨(fun _ member => nomatch member), fun _ member => nomatch member⟩

theorem message_eq {r r' : Row} (same : r.posting = r'.posting) : r.message = r'.message := by
  rw [Row.message, Row.message, same]

/-- A row that counts as sent was accepted, as long as its identifier is its alone. -/
theorem IsOwn.published (own : IsOwn o) (ordered : IsOrdered o)
    (distinct : (o.desk.table.postings.map (·.id)).Nodup) {r : Row} (member : r ∈ o.desk.table.rows)
    (published : r.status = .published) : r.message ∈ o.accepted.map Row.message := by
  obtain ⟨a, accepted, same⟩ := ordered.sent _ (Table.mem_sent.mpr ⟨r, member, published, rfl⟩)
  have one : a.posting ∈ o.desk.table.postings := own.accepted a accepted
  have other : r.posting ∈ o.desk.table.postings := List.mem_map_of_mem member
  exact List.mem_map.mpr
    ⟨a, accepted, message_eq (List.inj_on_of_nodup_map distinct one other same)⟩

/-- **The life of the rows.** If every publisher allows the same number of tries, at least one, and
no identifier is posted twice, then the rows are what was posted, in this order, and they are
regular. Whatever a row has said at some time, it still has its place and what it is to send, and it
is unchanged unless it was waiting then. The broker has got the message of every row that
counts as sent, and from the publishers it has got the messages of rows only. -/
theorem rows_stay_regular (around : Surroundings) (broker : Broker) (events : List Event)
    {maxAttempts : Int} (tried : 1 ≤ maxAttempts)
    (agreed : ∀ c, .begin c ∈ events → c.maxAttempts = maxAttempts)
    (distinct : ((events.filterMap Event.posting?).map (·.id)).Nodup) :
    let o := (opening around broker).run events
    o.desk.table.rows.map (·.posting) = events.filterMap Event.posting? ∧
    (∀ r ∈ o.desk.table.rows, r.IsRegular maxAttempts) ∧
    (∀ earlier later, events = earlier ++ later → ∀ (i : Nat) (r : Row),
      ((opening around broker).run earlier).desk.table.rows[i]? = some r →
      ∃ r', o.desk.table.rows[i]? = some r' ∧
        r'.posting = r.posting ∧ r'.createdAt = r.createdAt ∧
        (r.status ≠ .pending → r' = r) ∧
        (r'.status ≠ r.status → r.status = .pending ∧
          (r'.status = .published ∨ r'.status = .failed))) ∧
    ∃ sent, o.desk.broker.log = broker.log ++ sent ∧
      (∀ r ∈ o.desk.table.rows, r.status = .published → r.message ∈ sent) ∧
      ∀ m ∈ sent, ∃ r ∈ o.desk.table.rows, m = r.message := by
  intro o
  have posted : o.desk.table.postings = events.filterMap Event.posting? :=
    (run_postings (opening around broker) events).trans (List.nil_append _)
  have regular : IsRegular maxAttempts o := by
    refine run_keeps_where (Q := Event.allows maxAttempts) (fun e member => ?_)
      ⟨(fun _ none => nomatch none), fun _ none => nomatch none⟩
      fun _ _ _ allowed regular step => regular.step tried allowed step
    cases e with
    | begin c => exact agreed c member
    | post | advance | change => trivial
  have own : IsOwn o := run_keeps (opening_isOwn around broker) fun _ _ _ own step => own.step step
  have ordered : IsOrdered o :=
    run_keeps (opening_isOrdered around broker) fun _ _ _ ordered step => ordered.step step
  have told : o.desk.broker.log = broker.log ++ o.accepted.map Row.message :=
    run_keeps (P := fun o => o.desk.broker.log = broker.log ++ o.accepted.map Row.message)
      (List.append_nil _).symm fun _ _ _ told step => log_step step told
  refine ⟨posted, regular.rows, fun earlier later parts i r at_ => ?_, _, told,
    fun r member published => own.published ordered (posted ▸ distinct) member published,
    fun m sent => ?_⟩
  · have follows := run_follows ((opening around broker).run earlier) later
    rw [← run_append, ← parts] at follows
    obtain ⟨r', at_', becomes⟩ := follows i r at_
    have stays (settled : r.status ≠ .pending) : r' = r :=
      becomes.settled (decide_eq_false settled)
    refine ⟨r', at_', becomes.posting, becomes.createdAt, stays, fun moved => ?_⟩
    have waited : r.status = .pending := by
      by_contra settled
      exact moved (congrArg Row.status (stays settled))
    refine ⟨waited, ?_⟩
    rw [waited] at moved
    cases status : r'.status with
    | pending => exact absurd status moved
    | published => exact .inl rfl
    | failed => exact .inr rfl
  · obtain ⟨a, accepted, rfl⟩ := List.mem_map.mp sent
    obtain ⟨r, member, same⟩ := List.mem_map.mp (own.accepted a accepted)
    exact ⟨r, member, message_eq same.symm⟩

/-- One try for each event and two publishers for each of two events. The first event is given up
before the broker accepts it from the other publisher, and the second is marked before it is missed
once more. -/
theorem reports_too_late :
    let c : Config := ⟨.zero, 10, 1, {}, .ofSeconds 30⟩
    let posting (n : Nat) : Posting := ⟨.ofNat n, "order", "", "orders.created", .nat n⟩
    let shut (seconds : Int) : Weather :=
      { now := ⟨seconds * 1000000000⟩, brokerAvailable := false }
    let open_ (seconds : Int) : Weather := { now := ⟨seconds * 1000000000⟩ }
    let events : List Event :=
      [.post (posting 1), .begin c, .advance 0, .change (shut 60), .begin c, .advance 1, .advance 1,
        .advance 1, .change (open_ 61), .advance 0, .advance 0,
        .post (posting 2), .begin c, .advance 2, .change (open_ 120), .begin c, .advance 3,
        .advance 3, .advance 3, .change (shut 121), .advance 2, .advance 2]
    let o := (opening { now := ⟨0⟩ } {}).run events
    o.desk.table.rows.map (fun r => (r.status, r.attempts)) = [(.failed, 1), (.published, 0)] ∧
      o.accepted.map (fun r => r.posting.id) = [.ofNat 1, .ofNat 2] ∧
      (∀ r ∈ o.desk.table.rows, r.IsRegular 1) ∧
      ∃ sent, o.desk.broker.log = [] ++ sent ∧
        (∀ r ∈ o.desk.table.rows, r.status = .published → r.message ∈ sent) ∧
        ∀ m ∈ sent, ∃ r ∈ o.desk.table.rows, m = r.message := by
  intro c posting shut open_ events o
  have agreed (c' : Config) (member : .begin c' ∈ events) : c'.maxAttempts = 1 := by
    simp [events] at member
    rw [member]
  obtain ⟨-, regular, -, told⟩ :=
    rows_stay_regular { now := ⟨0⟩ } {} events (Int.le_refl 1) agreed (by decide +kernel)
  have same : o = (opening { now := ⟨0⟩ } {}).run events := rfl
  rw [← same] at regular told
  exact ⟨by decide +kernel, by decide +kernel, regular, told⟩

end Office

end OrderFlow.Outbox
