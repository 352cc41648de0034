import OrderFlow.Outbox.Publisher
import OrderFlow.Proofs.Effects

/-!
What a batch of a publisher can do in one call. Rows are claimed, sent and reported on, but what
they are to send stays what it was (`Move.postings`).
-/
namespace OrderFlow.Outbox
open Surroundings

/-- What the rows of a table are to send, oldest first. -/
def Table.postings (t : Table) : List Posting := t.rows.map (·.posting)

namespace Table

theorem postings_insert (t : Table) (posting : Posting) (now : Instant) :
    (t.insert posting now).postings = t.postings ++ [posting] := by
  simp [postings, insert, Row.new]

theorem claimFrom_postings (now deadline : Instant) (rows : List Row) (limit : Nat)
    (blocked : List String) :
    (claimFrom now deadline limit blocked rows).2.map (·.posting) = rows.map (·.posting) ∧
      ∀ r ∈ (claimFrom now deadline limit blocked rows).1,
        r.posting ∈ rows.map (·.posting) := by
  induction rows generalizing limit blocked with
  | nil => exact ⟨rfl, fun r member => nomatch member⟩
  | cons r rows ih =>
    simp only [claimFrom]
    split
    · obtain ⟨same, claimed⟩ := ih (limit - 1)
        (if r.isPending = true then r.posting.aggregateId :: blocked else blocked)
      refine ⟨by simp [same], fun r' member => ?_⟩
      rcases List.mem_cons.mp member with rfl | later
      · simp
      · exact List.mem_cons_of_mem _ (claimed r' later)
    · obtain ⟨same, claimed⟩ := ih limit
        (if r.isPending = true then r.posting.aggregateId :: blocked else blocked)
      exact ⟨by simp [same], fun r' member => List.mem_cons_of_mem _ (claimed r' member)⟩

theorem claim_postings {t t' : Table} {limit : Nat} {now deadline : Instant} {rows : List Row}
    (claimed : t.claim limit now deadline = (rows, t')) :
    t'.postings = t.postings ∧ ∀ r ∈ rows, r.posting ∈ t.postings := by
  cases claimed
  exact claimFrom_postings now deadline t.rows limit []

theorem change_postings {f : Row → Row} (keeps : ∀ r, (f r).posting = r.posting) (id : Uuid)
    (rows : List Row) : (change id f rows).map (·.posting) = rows.map (·.posting) := by
  induction rows with
  | nil => rfl
  | cons r rows ih =>
    simp only [change]
    split
    · simp [keeps]
    · simp [ih]

theorem markPublished_postings {t t' : Table} {id : Uuid} {now : Instant}
    (marked : t.markPublished id now = .ok t') : t'.postings = t.postings := by
  unfold markPublished at marked
  split at marked
  · cases marked
  · cases marked
    refine change_postings (fun r => ?_) id t.rows
    unfold Row.sent
    split <;> rfl

theorem recordFailure_postings {t t' : Table} {id : Uuid} {error : String} {now next : Instant}
    {maxAttempts : Int} {status : Status}
    (recorded : t.recordFailure id error now next maxAttempts = .ok (status, t')) :
    t'.postings = t.postings := by
  unfold recordFailure at recorded
  split at recorded
  · cases recorded
  · cases recorded
    refine change_postings (fun r => ?_) id t.rows
    unfold Row.missed
    split
    · dsimp only
      split <;> rfl
    · rfl

end Table

/-- The desk `d'` may come about from `d` by a call that leaves behind a table and a broker. -/
structure Desk.Writes (d d' : Desk) (table : Table) (broker : Broker) : Prop where
  around : d.around.Follows d'.around
  table : d'.table = table
  broker : d'.broker = broker

/-- The desk `d'` may come about from `d` by a call that changes no table and sends nothing. -/
abbrev Desk.Aside (d d' : Desk) : Prop := d.Writes d' d.table d.broker

open Desk

/-- What a batch may do in one call. -/
inductive Move (c : Config) (d d' : Desk) : Batch → Batch → Prop where
  | claims {rows : List Row} {table : Table} {report : Report}
      (claimed : d.table.claim c.batchSize d.around.now (d.around.now.after c.claimLease) =
        (rows, table)) (writes : Writes d d' table d.broker) :
      Move c d d' .claiming (.sending rows report)
  | sends {row : Row} {rows : List Row} {report : Report} {broker : Broker}
      (accepted : d.broker.send row.message = (.ok (), broker))
      (writes : Writes d d' d.table broker) :
      Move c d d' (.sending (row :: rows) report) (.marking row rows report)
  | misses {row : Row} {rows : List Row} {report : Report} {broker : Broker} {e : Failure}
      (refused : d.broker.send row.message = (.error e, broker))
      (writes : Writes d d' d.table broker) :
      Move c d d' (.sending (row :: rows) report) (.missing row e rows report)
  | marks {row : Row} {rows : List Row} {report report' : Report} {table : Table}
      (marked : d.table.markPublished row.posting.id d.around.now = .ok table)
      (writes : Writes d d' table d.broker) :
      Move c d d' (.marking row rows report) (.sending rows report')
  | records {row : Row} {e : Failure} {rows : List Row} {report report' : Report} {table : Table}
      {next : Instant} {status : Status}
      (recorded : d.table.recordFailure row.posting.id e.message d.around.now next c.maxAttempts =
        .ok (status, table)) (writes : Writes d d' table d.broker) :
      Move c d d' (.missing row e rows report) (.sending rows report')
  | ends {b : Batch} {r : Except Failure Report} (aside : Aside d d') : Move c d d' b (.done r)

variable {c : Config} {d d' d'' : Desk}

theorem Desk.Aside.refl (d : Desk) : Aside d d := ⟨.refl _, rfl, rfl⟩

theorem Desk.Aside.then_writes {table : Table} {broker : Broker} (first : Aside d d')
    (second : Writes d' d'' table broker) : Writes d d'' table broker :=
  ⟨first.around.trans second.around, second.table, second.broker⟩

theorem Desk.Aside.then_aside (first : Aside d d') (second : Aside d' d'') : Aside d d'' :=
  ⟨first.around.trans second.around, second.table.trans first.table,
    second.broker.trans first.broker⟩

theorem Desk.Writes.then_aside {table : Table} {broker : Broker}
    (first : Writes d d' table broker) (second : Aside d' d'') : Writes d d'' table broker :=
  ⟨first.around.trans second.around, second.table.trans first.table,
    second.broker.trans first.broker⟩

theorem lift_yields {α : Type} {act : StateM Surroundings α} {P : α → Surroundings → Prop}
    (yields : Yields act d.around fun a s => P a s ∧ d.around.Follows s) :
    Yields (liftM act) d fun a d' => P a d'.around ∧ Aside d d' :=
  .lifted (yields.mono fun _ _ ⟨holds, follows⟩ => ⟨holds, follows, rfl, rfl⟩)

theorem lift_aside {α : Type} {act : StateM Surroundings α}
    (yields : Yields act d.around fun _ s => d.around.Follows s) :
    Yields (liftM act) d fun _ d' => Aside d d' :=
  (lift_yields (yields.mono fun _ _ follows => ⟨trivial, follows⟩)).mono fun _ _ both => both.2

theorem reporting_yields {α : Type} (call : StoreCall) (f : Table → Except Failure (α × Table))
    (d : Desk) :
    Yields (reporting call f) d fun r d' =>
      (∃ a table, r = .ok a ∧ f d.table = .ok (a, table) ∧ Writes d d' table d.broker) ∨
        ∃ e, r = .error e ∧ Aside d d' := by
  refine (lift_aside (failure_yields call d.around)).bind fun failure d₁ aside₁ => ?_
  cases failure with
  | some e => exact .returned (.inr ⟨e, rfl, aside₁⟩)
  | none =>
    refine .seen ?_
    rw [aside₁.table]
    cases told : f d.table with
    | error e => exact .returned (.inr ⟨e, rfl, aside₁⟩)
    | ok answer =>
      obtain ⟨a, table⟩ := answer
      exact .changed (.returned (.inl ⟨a, table, rfl, rfl, aside₁.around, rfl, aside₁.broker⟩))

theorem Batch.step_moves (c : Config) (b : Batch) (d : Desk) :
    Yields (b.step c) d fun b' d' => Move c d d' b b' := by
  cases b with
  | claiming =>
    refine (lift_aside (failure_yields .claimBatch d.around)).bind fun failure d₁ aside₁ => ?_
    cases failure with
    | some e => exact .returned (.ends aside₁)
    | none =>
      refine (lift_yields (clock_yields d₁.around)).bind fun now d₂ ⟨same, aside₂⟩ => ?_
      have before := aside₁.then_aside aside₂
      have same : now = d.around.now := same.trans aside₁.around.now
      refine .seen ?_
      rw [before.table, same]
      split
      · exact .returned (.ends before)
      · next rows table claims =>
        have claimed := Table.claim_of_claim? claims
        exact .changed (.returned (.claims claimed ⟨before.around, rfl, before.broker⟩))
  | sending rows report =>
    cases rows with
    | nil => exact .returned (.ends (.refl d))
    | cons row rows =>
      refine .seen ?_
      cases sent : d.broker.send row.message with
      | mk result broker =>
        cases result with
        | ok _ => exact .changed (.returned (.sends sent ⟨.refl _, rfl, rfl⟩))
        | error e => exact .changed (.returned (.misses sent ⟨.refl _, rfl, rfl⟩))
  | marking row rows report =>
    refine (lift_yields (clock_yields d.around)).bind fun now d₁ ⟨same, aside₁⟩ => ?_
    subst same
    refine (reporting_yields .markPublished _ d₁).bind fun r d₂ told => ?_
    rw [aside₁.table, aside₁.broker] at told
    rcases told with ⟨a, table, rfl, marked, writes⟩ | ⟨e, rfl, aside₂⟩
    · refine (lift_aside (meter_yields _ d₂.around)).bind fun _ d₃ aside₃ => ?_
      have marked : d.table.markPublished row.posting.id d.around.now = .ok table := by
        cases m : d.table.markPublished row.posting.id d.around.now with
        | error e => simp [m, Except.map] at marked
        | ok table' =>
          simp only [m, Except.map] at marked
          cases marked
          rfl
      exact .returned (.marks marked ((aside₁.then_writes writes).then_aside aside₃))
    · exact .returned (.ends (aside₁.then_aside aside₂))
  | missing row error rows report =>
    refine (lift_yields (clock_yields d.around)).bind fun now d₁ ⟨same, aside₁⟩ => ?_
    subst same
    split
    · exact .returned (.ends aside₁)
    · refine (reporting_yields .recordFailure _ d₁).bind fun r d₂ told => ?_
      rw [aside₁.table, aside₁.broker] at told
      rcases told with ⟨status, table, rfl, recorded, writes⟩ | ⟨e, rfl, aside₂⟩
      · have before := aside₁.then_writes writes
        cases status with
        | pending | published | failed =>
          refine (lift_aside (meter_yields _ d₂.around)).bind fun _ d₃ aside₃ => ?_
          exact .returned (.records recorded (before.then_aside aside₃))
      · exact .returned (.ends (aside₁.then_aside aside₂))
  | done r => exact .returned (.ends (.refl d))

/-- The rows that a batch holds and has not reported on. -/
def Batch.rows : Batch → List Row
  | .sending rows _ => rows
  | .marking row rows _ | .missing row _ rows _ => row :: rows
  | _ => []

variable {b b' : Batch}

/-- What a table is to send stays what it was. -/
theorem Move.postings (move : Move c d d' b b') : d'.table.postings = d.table.postings := by
  cases move with
  | claims claimed writes => rw [writes.table, (Table.claim_postings claimed).1]
  | sends _ writes | misses _ writes => rw [writes.table]
  | marks marked writes => rw [writes.table, Table.markPublished_postings marked]
  | records recorded writes => rw [writes.table, Table.recordFailure_postings recorded]
  | ends aside => rw [aside.table]

/-- A batch holds rows of the table only. -/
theorem Move.rows (move : Move c d d' b b') (r : Row) (held : r ∈ b'.rows) :
    r ∈ b.rows ∨ r.posting ∈ d.table.postings := by
  cases move with
  | claims claimed => exact .inr ((Table.claim_postings claimed).2 r held)
  | sends | misses => exact .inl held
  | marks | records => exact .inl (List.mem_cons_of_mem _ held)
  | ends => cases held

/-- A batch sends the messages of its rows only. -/
theorem Move.log (move : Move c d d' b b') :
    d'.broker.log = d.broker.log ∨
      ∃ row ∈ b.rows, d'.broker.log = d.broker.log ++ [row.message] := by
  have sent {row : Row} {broker : Broker} {r : Except Failure Unit}
      (sends : d.broker.send row.message = (r, broker)) :
      broker.log = d.broker.log ∨ broker.log = d.broker.log ++ [row.message] := by
    have both := d.broker.send_log row.message
    rw [sends] at both
    rcases both with ⟨_, grows⟩ | ⟨_, stays⟩
    · exact .inr grows
    · exact .inl stays
  cases move with
  | claims _ writes | marks _ writes | records _ writes => exact .inl (by rw [writes.broker])
  | ends aside => exact .inl (by rw [aside.broker])
  | sends accepted writes =>
    rw [writes.broker]
    exact (sent accepted).imp_right fun grows => ⟨_, .head _, grows⟩
  | misses refused writes =>
    rw [writes.broker]
    exact (sent refused).imp_right fun grows => ⟨_, .head _, grows⟩

theorem Move.follows (move : Move c d d' b b') : d.around.Follows d'.around := by
  cases move with
  | claims _ writes | sends _ writes | misses _ writes | marks _ writes | records _ writes =>
    exact writes.around
  | ends aside => exact aside.around

end OrderFlow.Outbox
