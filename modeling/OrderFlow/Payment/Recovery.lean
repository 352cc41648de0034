import OrderFlow.Payment.Attempt

/-!
The recovery of payments that got stuck. A sweep attempts the payments that were never attempted,
the oldest first, and then gives up those whose attempt was never settled and must be over by now.
How many payments it has settled is its result; a payment with an error is left to the next sweep.
-/
namespace OrderFlow.Payment
open OrderFlow Surroundings

/-- How stuck payments are found. Points in time are told by how long they are ago, in nanoseconds.
-/
structure Recovery where
  interval : Span
  stalledAfter : Int
  unsettledAfter : Int
  batchSize : Int
  deriving DecidableEq, Repr, Inhabited

namespace Recovery

/-- The longest span, either way, that can be told in seconds. -/
def longestSeconds : Int := 9223372036854775

/-- The longest span that can be told in nanoseconds. -/
def longestNanos : Int := 9223372036854775807000000

/-- The configuration that the settings ask for, none if a span cannot be told. A payment that is
under way may take as long as its budget before it counts as not settled; a budget that cannot be
told leaves it at the time after which a payment counts as stalled. -/
def ofSettings? (s : Settings.Recovery) (p : PaymentPolicy) : Option Recovery := do
  if longestSeconds < s.stalledAfterSeconds ∨ s.stalledAfterSeconds < -longestSeconds then none
  else
    let stalledAfter := s.stalledAfterSeconds * 1000000000
    let budget : Int := (← p.callBudget?).nanos
    return {
      interval := .ofSeconds (max 1 s.intervalSeconds)
      stalledAfter
      unsettledAfter := if budget ≤ longestNanos then max stalledAfter budget else stalledAfter
      batchSize := max 1 s.batchSize }

end Recovery

/-- Where a sweep stands. -/
inductive Sweep where
  | seekingStalled
  /-- Attempts a payment, with more to come. -/
  | charging (attempt : Phase) (more : List Uuid) (start : Instant) (settled : Nat)
  | seekingUnsettled (start : Instant) (settled : Nat)
  /-- Gives up a payment, with more to come. -/
  | expiring (attempt : Phase) (more : List Uuid) (settled : Nat)
  | done (result : Except OrderError Nat)
  deriving Inhabited

namespace Sweep

/-- The point in time that a sweep has to wait for. -/
def until? : Sweep → Option Instant
  | charging attempt .. | expiring attempt .. => attempt.until?
  | _ => none

/-- Whether a sweep is at its end. -/
def isDone : Sweep → Bool
  | done _ => true
  | _ => false

/-- One more if an attempt has settled its payment. -/
def count (settled : Nat) : Result → Nat
  | .ok (some _) => settled + 1
  | _ => settled

/-- Whether an attempt has left the range of numbers. -/
def isOverflow : Result → Bool
  | .error (.shared .overflow) => true
  | _ => false

/-- Goes on with the next stalled payment, or with those that are not settled. -/
def charge (start : Instant) (settled : Nat) : List Uuid → Sweep
  | [] => seekingUnsettled start settled
  | id :: more => charging (.reading .charge id) more start settled

/-- Goes on with the next payment that is not settled, or ends. -/
def expire (settled : Nat) : List Uuid → Sweep
  | [] => done (.ok settled)
  | id :: more => expiring (.reading .expire id) more settled

/-- The phase of a sweep after a search. -/
def search (cutoff : Instant) (find : Instant → StateM OrderDesk (Except OrderError (List Uuid)))
    (next : List Uuid → Sweep) : StateM OrderDesk Sweep := do
  if ¬ cutoff.inCalendar then return done (.error (.shared .overflow))
  match ← find cutoff with
  | .error e => return done (.error e)
  | .ok ids => return next ids

/-- What a sweep does next. -/
def step (cfg : Config) (r : Recovery) : Sweep → StateM OrderDesk Sweep
  | seekingStalled => do
    let now ← clock
    search (now.shift (-r.stalledAfter)) (OrderDesk.findStalled · r.batchSize) (charge now 0)
  | charging (.done result) more start settled =>
    return if isOverflow result then done (.error (.shared .overflow))
      else charge start (count settled result) more
  | charging attempt more start settled => return charging (← attempt.step cfg) more start settled
  | seekingUnsettled start settled =>
    search (start.shift (-r.unsettledAfter)) (OrderDesk.findUnsettled · r.batchSize)
      (expire settled)
  | expiring (.done result) more settled =>
    return if isOverflow result then done (.error (.shared .overflow))
      else expire (count settled result) more
  | expiring attempt more settled => return expiring (← attempt.step cfg) more settled
  | done result => return done result

/-- How many phases an attempt has at most, with the one in which its result is taken. -/
def perPayment (p : PaymentPolicy) : Nat := (Phase.reading .charge default).left p + 1

/-- How many phases can still follow at most while no more than `limit` payments are found. -/
def left (p : PaymentPolicy) (limit : Nat) : Sweep → Nat
  | seekingStalled => 2 * (limit * perPayment p + 1)
  | charging attempt more .. =>
    attempt.left p + 1 + more.length * perPayment p + 1 + limit * perPayment p
  | seekingUnsettled .. => 1 + limit * perPayment p
  | expiring attempt more _ => attempt.left p + 1 + more.length * perPayment p
  | done _ => 0

end Sweep

end OrderFlow.Payment
