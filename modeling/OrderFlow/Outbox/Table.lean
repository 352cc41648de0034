import OrderFlow.Outbox.Row

/-!
An outbox: rows in the order in which they were inserted. Publishers claim rows for a while, send
them, and report what came of it. Of the rows of one aggregate only the first that is still pending
can be claimed, so that its events go out in order.
-/
namespace OrderFlow.Outbox
open OrderFlow

/-- The rows of an outbox, oldest first. -/
structure Table where
  rows : List Row := []
  deriving Repr, Inhabited

namespace Table

/-- Puts an event at the end. -/
def insert (t : Table) (posting : Posting) (now : Instant) : Table :=
  ⟨t.rows ++ [Row.new posting now]⟩

/-- Claims at most `limit` rows from the left until `deadline`. Rows of the aggregates in `blocked`
have to wait. The claimed rows, and all rows. -/
def claimFrom (now deadline : Instant) : Nat → List String → List Row → List Row × List Row
  | _, _, [] => ([], [])
  | limit, blocked, r :: rest =>
    let blocked' := if r.isPending then r.posting.aggregateId :: blocked else blocked
    if 0 < limit ∧ r.isPending ∧ r.posting.aggregateId ∉ blocked ∧ r.isDue now then
      let r := { r with claimedUntil := some deadline }
      let (claimed, rest) := claimFrom now deadline (limit - 1) blocked' rest
      (r :: claimed, r :: rest)
    else
      let (claimed, rest) := claimFrom now deadline limit blocked' rest
      (claimed, r :: rest)

/-- Claims at most `limit` rows until `deadline`. -/
def claim (t : Table) (limit : Nat) (now deadline : Instant) : List Row × Table :=
  let (claimed, rows) := claimFrom now deadline limit [] t.rows
  (claimed, ⟨rows⟩)

/-- Claims at most `limit` rows for a number of nanoseconds, none if there is something to claim and
the end of the lease is beyond the calendar. -/
def claim? (t : Table) (limit : Nat) (now : Instant) (lease : Int) : Option (List Row × Table) :=
  let deadline := now.shift lease
  let (claimed, table) := t.claim limit now deadline
  if claimed ≠ [] ∧ ¬ deadline.inCalendar then none else some (claimed, table)

theorem claim_of_claim? {t table : Table} {limit : Nat} {now : Instant} {lease : Int}
    {claimed : List Row} (claims : t.claim? limit now lease = some (claimed, table)) :
    t.claim limit now (now.shift lease) = (claimed, table) := by
  unfold claim? at claims
  dsimp only at claims
  split at claims
  · cases claims
  · exact Option.some.inj claims

/-- The row of an event. -/
def find? (t : Table) (id : Uuid) : Option Row := t.rows.find? fun r => r.posting.id = id

/-- Changes the first row of an event. -/
def change (id : Uuid) (f : Row → Row) : List Row → List Row
  | [] => []
  | r :: rest => if r.posting.id = id then f r :: rest else r :: change id f rest

/-- The failure of a report on an event that is not there. -/
def missing (id : Uuid) : Failure := .notFound "OutboxEvent" id.text

/-- The row of an event that was sent; only a pending one changes. -/
def Row.sent (now : Instant) (r : Row) : Row :=
  if r.isPending then
    { r with status := .published, publishedAt := some now, lastAttemptAt := some now,
             claimedUntil := none }
  else r

/-- The row of an event that could not be sent. After the last try it is given up. -/
def Row.missed (error : String) (now next : Instant) (maxAttempts : Int) (r : Row) : Row :=
  if r.isPending then
    let r := { r with attempts := r.attempts + 1, lastError := some (shortened error),
                      lastAttemptAt := some now, claimedUntil := none }
    if maxAttempts ≤ r.attempts then { r with status := .failed }
    else { r with nextAttemptAt := next }
  else r

/-- Reports that an event was sent. -/
def markPublished (t : Table) (id : Uuid) (now : Instant) : Except Failure Table :=
  match t.find? id with
  | none => .error (missing id)
  | some _ => .ok ⟨change id (Row.sent now) t.rows⟩

/-- Reports that an event could not be sent; the status that it has then. -/
def recordFailure (t : Table) (id : Uuid) (error : String) (now next : Instant)
    (maxAttempts : Int) : Except Failure (Status × Table) :=
  match t.find? id with
  | none => .error (missing id)
  | some r =>
    .ok ((Row.missed error now next maxAttempts r).status,
      ⟨change id (Row.missed error now next maxAttempts) t.rows⟩)

/-- How many events wait to be sent. -/
def pendingCount (t : Table) : Nat := (t.rows.filter Row.isPending).length

/-- Makes every row due and ends every claim. -/
def makeAllDue (t : Table) (now : Instant) : Table :=
  ⟨t.rows.map fun r => { r with nextAttemptAt := now, claimedUntil := none }⟩

end Table

end OrderFlow.Outbox
