import OrderFlow.Outbox.Loop
import OrderFlow.Scenario.Steps

/-!
Scenarios of outboxes: the table alone, at times that every step names, and a publisher at work on a
table and a broker.
-/
namespace OrderFlow.Scenario
open OrderFlow Json Node

/-- A step of a table. -/
def tableStep (x : Node) : Act Outbox.Table Answer := do
  match ← action x with
  | "insert" =>
    set ((← get).insert (← newPosting x) (← x.need "now" asInstant))
    return .done
  | "claim" =>
    let now ← x.need "now" asInstant
    let limit ← x.need "limit" asInt
    let lease := (← x.need "lease_ms" asInt) * 1000000
    match (← get).claim? limit.toNat now lease with
    | none => return .overflow
    | some (claimed, table) =>
      set table
      return .value (.array (claimed.map fun r =>
        .array [r.posting.id.toJson, .optional millis r.claimedUntil]))
  | "mark_published" =>
    let result := (← get).markPublished (← x.need "id" Uuid.reader) (← x.need "now" asInstant)
    if let .ok table := result then set table
    return .of (fun _ => .null) result
  | "record_failure" =>
    let result := (← get).recordFailure (← x.need "id" Uuid.reader) (← x.need "error" asText)
      (← x.need "now" asInstant) (← x.need "next" asInstant) (← x.need "max" asInt)
    if let .ok (_, table) := result then set table
    return .of (fun r => .text r.1.name) result
  | "count" => return .value (.nat (← get).pendingCount)
  | _ => return .value (rows (← get))

/-- A scenario of a table. -/
def outboxTable (x : Node) : Reading Answer := do
  let (entries, _) ← (runSteps tableStep (fun _ => []) (← x.nodes "steps")).run {}
  return (entries.map fun js => .value (.array js)).getD .overflow

/-- Takes the broker away, brings it back, or lets it refuse messages, as far as a step says so. -/
def brokerStep (x : Node) (b : Broker) : Reading Broker := do
  let available ← x.findD "available" asFlag b.available
  return { b with available }.refuseNext (← x.findD "times" asNat 0)

/-- Something that happens while a publisher runs, and the time from which the next thing counts. -/
def happening (time : Instant) (x : Node) : Reading Outbox.Happening := do
  let time := time.after (← x.findD "after_ms" asSpan .zero)
  let posting? ← if x.isSet "id" ∧ x.isSet "aggregate" then some <$> newPosting x else pure none
  let available ← x.find "available" asFlag
  return ⟨time, fun d => { d with
    table := posting?.elim d.table fun p => d.table.insert p time
    broker := { d.broker with available := available.getD d.broker.available }
    notified := d.notified || x.isSet "notify" }⟩

/-- Things that happen one after the other. -/
def happenings (time : Instant) : List Node → Reading (List Outbox.Happening)
  | [] => return []
  | x :: rest => do
    let h ← happening time x
    return h :: (← happenings h.time rest)

/-- A step of a publisher. -/
def publisherStep (c : Outbox.Config) (name : String) (x : Node) : Act Outbox.Desk Answer := do
  match ← action x with
  | "insert" =>
    let posting ← newPosting x
    modify fun d => { d with table := d.table.insert posting d.around.now }
    return .done
  | "wait" =>
    let d ← x.need "ms" asSpan
    doing (Surroundings.pass d : StateM Outbox.Desk Unit)
    return .done
  | "broker" | "fail_next" =>
    let broker ← brokerStep x (← get).broker
    modify fun d => { d with broker }
    return .done
  | "make_all_due" =>
    modify fun d => { d with table := d.table.makeAllDue d.around.now }
    return .done
  | "notify" =>
    modify fun d => { d with notified := true }
    return .done
  | "publish" => return .of report (← doing (Outbox.publishBatch c))
  | "messages" => return .value (.array ((← get).broker.log.map sent))
  | "messages_for" =>
    let topic ← x.need "topic" asText
    return .value (.array (((← get).broker.onTopic topic).map sent))
  | "drain" =>
    let log := (← get).broker.log
    modify fun d => { d with broker := { d.broker with log := [] } }
    return .value (.array (log.map sent))
  | "fault" =>
    let more ← newMishaps x
    doing (arrange more : StateM Outbox.Desk Unit)
    return .done
  | "run" =>
    let now := (← get).around.now
    let stop := now.after (← x.need "ms" asSpan)
    let meanwhile ← happenings now (← x.nodes "during")
    return .of (fun () => .null) (← doing (Outbox.runUntil c name stop meanwhile))
  | _ => return .value (rows (← get).table)

/-- A scenario of a publisher. -/
def outboxPublisher (x : Node) : Reading Answer := do
  let around ← surroundings x
  let name ← x.findD "name" asText "test_outbox"
  match Outbox.Config.ofSettings? (← settings x "config" Settings.Outbox.catalog {}) with
  | none => return .overflow
  | some c =>
    let (entries, d) ← (runSteps (publisherStep c name) (fun d => [elapsed around.now d.around])
      (← x.nodes "steps")).run { around, table := {}, broker := {} }
    return withMeters entries d.around []

end OrderFlow.Scenario
