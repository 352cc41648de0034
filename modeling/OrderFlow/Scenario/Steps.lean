import OrderFlow.Json.Lookup
import OrderFlow.Message
import OrderFlow.Outbox.Table
import OrderFlow.Retry.Policy
import OrderFlow.Scenario.Answer
import OrderFlow.Scenario.Shown
import OrderFlow.Settings.Catalog
import OrderFlow.Surroundings

/-!
What all scenarios share: their steps one after the other, their clock, and the things that their
steps are written in.
-/
namespace OrderFlow.Scenario
open OrderFlow Json

/-- Reads a step and does it. -/
abbrev Act (σ : Type) := StateT σ (Except DecodeError)

/-- Something that is done to the state of a scenario. -/
def doing {σ α : Type} (f : StateM σ α) : Act σ α := fun s => .ok (f.run s)

/-- Does the steps in order; an overflow ends the scenario without an answer. Every answer is shown
with what `more` adds from the state behind the step. -/
def runSteps {σ : Type} (step : Node → Act σ Answer) (more : σ → List (String × Json)) :
    List Node → Act σ (Option (List Json))
  | [] => return some []
  | x :: rest => do
    match ← step x with
    | .overflow => return none
    | answer =>
      let shown := Json.object (answer.members ++ more (← get))
      return (← runSteps step more rest).map (shown :: ·)

/-- The time since the start of a scenario. -/
def elapsed (start : Instant) (a : Surroundings) : String × Json := ("t", span (a.now.since start))

/-- The answer of a scenario with meters. -/
def withMeters (entries : Option (List Json)) (a : Surroundings) (more : List (String × Json)) :
    Answer :=
  match entries with
  | none => .overflow
  | some steps => .value (.object (more ++ [("metrics", meters a.meters), ("steps", .array steps)]))

/-- The clock of a scenario that does not set it: noon of the first day of 2025. -/
def defaultStart : Instant := .ofMillis 1735732800000

/-- The surroundings at the start of a scenario. -/
def surroundings (x : Node) : Reading Surroundings :=
  return { now := ← x.findD "now" Node.asInstant defaultStart }

/-- What a step does. -/
def action (x : Node) : Reading String := x.need "do" Node.asText

mutual

/-- JSON as a value of settings. -/
def settingsValue : Json → Settings.Value
  | .null => .list []
  | .bool b => .flag b
  | .int n => .int n
  | .real x => .real x
  | .text s => .text s
  | .array xs => .list (settingsValues xs)
  | .object ms => .table (settingsMembers ms)

/-- JSON values as values of settings. -/
def settingsValues : List Json → List Settings.Value
  | [] => []
  | x :: rest => settingsValue x :: settingsValues rest

/-- Members of an object as members of a table of settings. -/
def settingsMembers : List (String × Json) → List (String × Settings.Value)
  | [] => []
  | (name, x) :: rest => (name, settingsValue x) :: settingsMembers rest

end

/-- A section of settings, by default with nothing set. -/
def settings {σ : Type} (x : Node) (name : String) (catalog : List (Settings.Setting σ))
    (start : σ) : Reading σ := do
  match ← x.find name any with
  | none => return start
  | some v =>
    match Settings.Setting.takeAll catalog (settingsValue v) start with
    | .ok s => return s
    | .error () => throw .wrongValue

/-- Octets in base sixteen. -/
def octetsOfHex : List Char → Option (List UInt8)
  | a :: b :: rest => do
    let n ← Text.hexValue? [a, b]
    return UInt8.ofNat n :: (← octetsOfHex rest)
  | [] => some []
  | _ => none

/-- The octets of a payload, as text or in base sixteen. -/
def payload (x : Node) : Reading (List UInt8) := do
  match ← x.find "payload_hex" (Node.asWritten octetsOfHex) with
  | some octets => return octets
  | none => return Octets.ofText (← x.findD "payload" Node.asText "")

/-- A message. -/
def message (x : Node) : Reading Message := do
  return {
    topic := ← x.findD "topic" Node.asText ""
    partition := ← x.findD "partition" Node.asInt 0
    position := ← x.findD "offset" Node.asInt 0
    key := ← x.find "key" Node.asText
    payload := ← payload x }

/-- An event that is put into an outbox. -/
def newPosting (x : Node) : Reading Outbox.Posting := do
  return {
    id := ← x.need "id" Uuid.reader
    aggregateId := ← x.need "aggregate" Node.asText
    kind := ← x.findD "event_type" Node.asText EventKind.orderCreated.name
    topic := ← x.findD "topic" Node.asText EventKind.orderCreated.topic
    payload := (← x.findD "payload" any (.object [])).ordered }

/-- A retry policy: the default one, or that of a number of tries, with what else is given. -/
def newRetryPolicy (x : Node) : Reading RetryPolicy := do
  let p : RetryPolicy := ((← x.find "max_attempts" Node.asNat).map .withMaxAttempts).getD {}
  let first ← x.findD "initial_ms" Node.asSpan p.initialDelay
  let most ← x.findD "max_ms" Node.asSpan p.maxDelay
  let multiplier ← x.findD "multiplier" Node.asReal p.multiplier
  let p := (p.withDelays first most).withMultiplier multiplier
  match ← x.find "jitter" Node.asReal with
  | some jitter => return p.withJitter jitter
  | none => return p

/-- What calls of the stores are called in scenarios. -/
def storeCalls : List (String × StoreCall) :=
  [("find_idempotency", .findRecord), ("commit_checkout", .commitCheckout),
   ("build_draft", .buildDraft), ("delete_expired_idempotency", .sweepRecords),
   ("checkout_health", .checkoutHealth), ("is_processed", .isProcessed),
   ("create_order_from_event", .createOrder), ("finalize_payment", .finalizePayment),
   ("find_order", .findOrder), ("find_order_by_number", .findOrderByNumber),
   ("find_payment", .findPayment), ("update_order_status", .updateStatus),
   ("find_stalled_payments", .findStalled), ("find_unsettled_payments", .findUnsettled),
   ("orders_health", .ordersHealth), ("claim_batch", .claimBatch),
   ("mark_published", .markPublished), ("record_failure", .recordFailure),
   ("count_pending", .countPending)]

/-- The mishap of a name, for a call that can meet it; any other name is an internal failure. -/
def mishapOf (name : String) (call : StoreCall) : Mishap :=
  match name, call with
  | "database", _ => .fails (.store .noConnection)
  | "kafka", _ => .fails (.broker (.stated "injected"))
  | "not_found", _ => .fails (.notFound "Injected" "x")
  | "validation", _ => .fails (.invalid (.stated "injected"))
  | "none", _ => .none
  | "hide", .findRecord | "hide", .isProcessed | "hide", .findPayment => .hides
  | "key_taken", .commitCheckout => .taken
  | "lost", .updateStatus => .loses
  | "after", .finalizePayment => .failsAfterwards (.store .noConnection)
  | _, _ => .fails (.internal "injected")

/-- The mishaps that a step arranges. -/
def newMishaps (x : Node) : Reading (List (StoreCall × Mishap)) := do
  let call ← x.need "target" (Node.asVariant storeCalls)
  let name ← x.findD "kind" Node.asText ""
  return List.replicate (← x.findD "times" Node.asNat 1) (call, mishapOf name call)

/-- Arranges mishaps. -/
def arrange (more : List (StoreCall × Mishap)) : StateM Surroundings Unit :=
  modify fun s => { s with mishaps := s.mishaps ++ more }

end OrderFlow.Scenario
