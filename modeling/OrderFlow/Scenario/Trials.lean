import OrderFlow.DeadLetter.Sending
import OrderFlow.Retry.Run
import OrderFlow.Scenario.Steps

/-!
Scenarios without steps: an operation under a retry policy, a dead letter on its way to the broker,
and calls of the simulated gateway.
-/
namespace OrderFlow.Scenario
open OrderFlow Json Node

/-- What one try of an operation does: how long it takes and how it ends. -/
def trial (x : Node) : Reading (Span × Except Failure Json) := do
  let delay ← x.findD "delay" asSpan .zero
  if x.isSet "kafka" then return (delay, .error (.broker (.stated (← x.need "kafka" asText))))
  if x.isSet "database" then return (delay, .error (.store .noConnection))
  if x.isSet "fatal" then return (delay, .error (.invalid (.stated (← x.need "fatal" asText))))
  return (delay, .ok (← x.findD "ok" any .null))

/-- The operation that follows the tries, the last of them again and again. -/
def trials (ts : List (Span × Except Failure Json)) (n : Nat) (now : Instant) :
    Except Failure Json × Instant :=
  match ts[min n (ts.length - 1)]? with
  | some (delay, result) => (result, now.after delay)
  | none => (.ok .null, now)

/-- A scenario of an operation under a retry policy. -/
def retryRun (x : Node) : Reading Answer := do
  let around ← surroundings x
  let p ← x.findD "policy" newRetryPolicy {}
  let ts ← (← x.nodes "outcomes").mapM trial
  match p.run Failure.retryable (trials ts) (fun n => (around.draws n).number) 0 around.now with
  | none => return .overflow
  | some run =>
    return .value (.object [("result", (Answer.of id run.result).toJson),
      ("calls", .array (run.starts.map fun t => span (t.since around.now))),
      ("end", span (run.finish.since around.now))])

/-- A scenario of a dead letter. -/
def deadLetter (x : Node) : Reading Answer := do
  let around ← surroundings x
  let d := DeadLetter.ofMessage (← message x) (← x.need "message_id" asText)
    (← x.need "error" asText) (← x.need "error_kind" asText) (← x.need "retry_count" asNat)
    (← x.need "first_failed_at" asInstant) around.now (← x.need "service" asText)
  let broker : Broker := {
    available := ← x.findD "available" asFlag true, refusals := ← x.findD "fail_next" asNat 0 }
  let ((result, broker), around) := (d.submit broker).run around
  return .value (.object [("message", d.toJson), ("targetTopic", .text d.topic),
    ("sent", (Answer.of (fun () => .null) result).toJson),
    ("published", .array (broker.log.map sent)), ("metrics", meters around.meters)])

/-- A call of a gateway from its beginning to its end. -/
def chargeOnce (g : Gateway) (request : ChargeRequest) :
    StateM Surroundings (Option (Except PaymentError String)) := do
  let (call, _) := g.start request (← Surroundings.clock)
  Surroundings.pass call.delay
  call.answer

/-- What came of a call of a gateway. -/
def chargeAnswer : Option (Except PaymentError String) → Answer
  | some (.ok transaction) => .value (.text transaction)
  | some (.error e) => .failed e.kind e.message
  | none => .done

/-- Calls a gateway several times. -/
def chargeTimes (start : Instant) (g : Gateway) (request : ChargeRequest) :
    Nat → StateM Surroundings (List Json)
  | 0 => return []
  | n + 1 => do
    let answer := chargeAnswer (← chargeOnce g request)
    let shown := Json.object (answer.members ++ [elapsed start (← get)])
    return shown :: (← chargeTimes start g request n)

/-- A scenario of the simulated gateway. -/
def simulatedGateway (x : Node) : Reading Answer := do
  let around ← surroundings x
  let gateway ← if x.isSet "latency_ms" ∨ x.isSet "failure_rate" then
      let failureRate ← x.findD "failure_rate" asReal (.ofNat 0)
      pure (.simulate (← x.findD "latency_ms" asSpan .zero) failureRate)
    else pure Gateway.simulatedDefault
  let request : ChargeRequest := ⟨default, "", default, "USD"⟩
  let times ← x.findD "times" asNat 1
  let (answers, _) := (chargeTimes around.now gateway request times).run around
  return .value (.array answers)

end OrderFlow.Scenario
