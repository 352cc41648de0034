import OrderFlow.Outbox.Table
import OrderFlow.Retry.Policy
import OrderFlow.Settings.Sections
import OrderFlow.Surroundings

/-!
Publishers send the events of an outbox. A batch claims some rows, sends them one after the other
and reports on each; every phase of a batch makes one call of the store or of the broker, so that
several publishers can be followed call by call. A running publisher does batch after batch as long
as they are full, then waits for the next poll, or until somebody has put something into the
outbox.
-/
namespace OrderFlow.Outbox
open OrderFlow Surroundings

/-- How a publisher works. -/
structure Config where
  pollInterval : Span
  batchSize : Nat
  maxAttempts : Int
  backoff : RetryPolicy
  claimLease : Span
  deriving DecidableEq, Repr, Inhabited

namespace Config

/-- The longest lease that can be written down, in seconds. -/
def longestLease : Int := 9223372036854775

/-- The configuration that the settings ask for, none if the lease is too long. Batches have room
for one event and every event is tried once at least. -/
def ofSettings? (s : Settings.Outbox) : Option Config :=
  let lease := max 1 s.claimLeaseSeconds
  if longestLease < lease then none
  else some {
    pollInterval := .ofMillis s.pollIntervalMs
    batchSize := (max 1 s.batchSize).toNat
    maxAttempts := max 1 s.maxAttempts
    backoff := RetryPolicy.withDelays {} (.ofMillis s.initialBackoffMs) (.ofMillis s.maxBackoffMs)
    claimLease := .ofSeconds lease.toNat }

end Config

/-- What came of a batch. -/
structure Report where
  claimed : Nat := 0
  published : Nat := 0
  retried : Nat := 0
  failed : Nat := 0
  deriving DecidableEq, Repr, Inhabited

/-- What a publisher works on. -/
structure Desk where
  around : Surroundings
  table : Table
  broker : Broker
  /-- Whether somebody has asked for a batch while nobody was waiting. -/
  notified : Bool := false

instance : Situated Desk := ⟨Desk.around, fun d around => { d with around }⟩

/-- Where a batch stands: the next call that it makes. -/
inductive Batch where
  | claiming
  | sending (rows : List Row) (report : Report)
  /-- The first row was accepted by the broker. -/
  | marking (row : Row) (rows : List Row) (report : Report)
  /-- The first row was not accepted. -/
  | missing (row : Row) (error : Failure) (rows : List Row) (report : Report)
  | done (result : Except Failure Report)
  deriving Inhabited

/-- The longest delay that counts, in nanoseconds; a longer one counts as none. -/
def longestDelay : Nat := 9223372036854775807000000

/-- When an event that could not be sent is tried again, none if that is beyond the calendar. -/
def nextAttempt? (c : Config) (row : Row) (now : Instant) : Option Instant :=
  let delay := c.backoff.delayFor row.attempts
  let next := now.after (if longestDelay < delay.nanos then .zero else delay)
  if next.inCalendar then some next else none

/-- The table answers a report, or fails. -/
def reporting {α : Type} (call : StoreCall) (f : Table → Except Failure (α × Table)) :
    StateM Desk (Except Failure α) := do
  match ← failure? call with
  | some e => return .error e
  | none =>
    match f (← get).table with
    | .error e => return .error e
    | .ok (a, table) =>
      modify fun d => { d with table }
      return .ok a

/-- The next call of a batch. -/
def Batch.step (c : Config) : Batch → StateM Desk Batch
  | .claiming => do
    match ← failure? .claimBatch with
    | some e => return .done (.error e)
    | none =>
      let now ← clock
      match (← get).table.claim? c.batchSize now c.claimLease.nanos with
      | none => return .done (.error .overflow)
      | some (rows, table) =>
        modify fun d => { d with table }
        return .sending rows { claimed := rows.length }
  | .sending [] report => return .done (.ok report)
  | .sending (row :: rows) report => do
    let (result, broker) := (← get).broker.send row.message
    modify fun d => { d with broker }
    match result with
    | .ok () => return .marking row rows report
    | .error e => return .missing row e rows report
  | .marking row rows report => do
    let now ← clock
    match ← reporting .markPublished fun t => (t.markPublished row.posting.id now).map ((), ·) with
    | .error e => return .done (.error e)
    | .ok () =>
      meter (Meters.outboxEvent row.posting.kind "published")
      return .sending rows { report with published := report.published + 1 }
  | .missing row error rows report => do
    let now ← clock
    match nextAttempt? c row now with
    | none => return .done (.error .overflow)
    | some next =>
      let record (t : Table) := t.recordFailure row.posting.id error.message now next c.maxAttempts
      match ← reporting .recordFailure record with
      | .error e => return .done (.error e)
      | .ok .failed =>
        meter (Meters.outboxEvent row.posting.kind "failed")
        return .sending rows { report with failed := report.failed + 1 }
      | .ok _ =>
        meter (Meters.outboxEvent row.posting.kind "retry")
        return .sending rows { report with retried := report.retried + 1 }
  | .done result => return .done result

/-- How many calls a batch still makes at most, given the size of a batch. -/
def Batch.callsLeft (size : Nat) : Batch → Nat
  | .claiming => 2 * size + 2
  | .sending rows _ => 2 * rows.length + 1
  | .marking _ rows _ | .missing _ _ rows _ => 2 * rows.length + 2
  | .done _ => 0

/-- Makes calls until a batch is done, `fuel` of them at most. -/
def Batch.run (c : Config) : Nat → Batch → StateM Desk Batch
  | 0, b => return b
  | _ + 1, .done result => return .done result
  | fuel + 1, b => do Batch.run c fuel (← b.step c)

/-- Does one batch. -/
def publishBatch (c : Config) : StateM Desk (Except Failure Report) := do
  let size := min c.batchSize (← get).table.rows.length
  match ← Batch.run c (Batch.callsLeft size .claiming) .claiming with
  | .done result => return result
  | _ => return .error .overflow

/-- Does one batch and shows on the meters what is left; whether the next batch should follow at
once. An overflow ends the work. -/
def round (c : Config) (name : String) : StateM Desk (Except Failure Bool) := do
  let result ← publishBatch c
  if let .error .overflow := result then return .error .overflow
  if (← failure? .countPending).isNone then
    let pending := (← get).table.pendingCount
    meter (Meters.outboxPending name pending)
  meter (Meters.worker name (← clock).seconds)
  match result with
  | .ok report => return .ok (c.batchSize ≤ report.claimed)
  | .error _ => return .ok false

end OrderFlow.Outbox
