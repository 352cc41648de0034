import OrderFlow.Number.Binary64

/-!
Meters: counters that only grow and gauges that show their last value, each told apart by a name and
labels.
-/
namespace OrderFlow

/-- The readings of all meters that have been used, by series. -/
structure Meters where
  readings : List (String × Int) := []
  deriving DecidableEq, Repr, Inhabited

namespace Meters

/-- The series of a name and labels. -/
def series (name : String) (labels : List (String × String)) : String :=
  let label (l : String × String) := l.1 ++ "=\"" ++ l.2 ++ "\""
  name ++ "\x7b" ++ String.intercalate "," (labels.map label) ++ "\x7d"

/-- Replaces the reading of a series. -/
def update (s : String) (f : Int → Int) : List (String × Int) → List (String × Int)
  | [] => [(s, f 0)]
  | (t, n) :: rest => if t = s then (t, f n) :: rest else (t, n) :: update s f rest

/-- Counts one more. -/
def count (name : String) (labels : List (String × String)) (m : Meters) : Meters :=
  ⟨update (series name labels) (· + 1) m.readings⟩

/-- Shows a value, as a double would hold it. -/
def gauge (name : String) (labels : List (String × String)) (n : Int) (m : Meters) : Meters :=
  ⟨update (series name labels) (fun _ => (Binary64.ofInt n).units / 2 ^ 1074) m.readings⟩

/-- An answer over HTTP. -/
def request (method path : String) (status : Nat) : Meters → Meters :=
  count "http_requests_total"
    [("method", method), ("path", path), ("status", toString status)]

/-- The outcome of a checkout. -/
def checkout (outcome : String) : Meters → Meters :=
  count "checkout_requests_total" [("outcome", outcome)]

/-- The outcome of sending an event from an outbox. -/
def outboxEvent (kind outcome : String) : Meters → Meters :=
  count "outbox_events_total" [("event_type", kind), ("outcome", outcome)]

/-- How many events wait in an outbox. -/
def outboxPending (source : String) (n : Int) : Meters → Meters :=
  gauge "outbox_pending_events" [("source", source)] n

/-- The outcome of a message. -/
def consumed (topic outcome : String) : Meters → Meters :=
  count "consumer_events_total" [("topic", topic), ("outcome", outcome)]

/-- A dead letter was sent. -/
def deadLetter (topic kind : String) : Meters → Meters :=
  count "dlq_messages_total" [("source_topic", topic), ("error_kind", kind)]

/-- The outcome of a charge. -/
def charge (outcome : String) : Meters → Meters :=
  count "payment_attempts_total" [("outcome", outcome)]

/-- The end of a payment. -/
def payment (status : String) : Meters → Meters :=
  count "payment_outcomes_total" [("status", status)]

/-- When a worker was last at work, in whole seconds since the start of 1970. -/
def worker (name : String) (seconds : Int) : Meters → Meters :=
  gauge "worker_last_run_timestamp" [("worker", name)] seconds

/-- A circuit breaker changed its state; its number is shown as well. -/
def breakerChange (name source target : String) (number : Int) (m : Meters) : Meters :=
  let labels := [("name", name), ("from", source), ("to", target)]
  (m.count "circuit_breaker_transitions_total" labels).gauge "circuit_breaker_state"
    [("name", name)] number

/-- A circuit breaker refused a call. -/
def breakerRejection (name : String) : Meters → Meters :=
  count "circuit_breaker_rejections_total" [("name", name)]

end Meters

end OrderFlow
