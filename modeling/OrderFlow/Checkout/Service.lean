import OrderFlow.Checkout.Ledger
import OrderFlow.Surroundings
import OrderFlow.Text.Blank

/-!
The checkout service. A call goes through phases, each of which makes one call of a store; what one
call does in a phase cannot be interrupted by another. A request that was answered before gets the
same answer again, and a request that comes second under a key is answered from the record of the
first.
-/
namespace OrderFlow
open Surroundings

/-- What the checkout service works on. -/
structure CheckoutDesk where
  around : Surroundings
  ledger : Ledger := {}
  carts : Assoc Uuid (List CartLine) := []
  /-- Whether the publisher of the outbox was asked for a batch. -/
  notified : Bool := false

instance : Situated CheckoutDesk := ⟨CheckoutDesk.around, fun d around => { d with around }⟩

namespace Checkout

/-- The longest key, in octets. -/
def longestKey : Nat := 255

/-- The key that counts: without the blanks at its ends. -/
def checkKey (key : String) : Except CheckoutError String :=
  let key := Text.trim key
  if key = "" then .error .missingKey
  else if longestKey < key.utf8ByteSize then .error (.shared (.invalid .keyTooLong))
  else .ok key

/-- The answer from a record: the one that was given before, to the same request only. -/
def replay (key fingerprint : String) (r : KeyRecord) : Except CheckoutError CheckoutOutcome :=
  if r.fingerprint = fingerprint then r.replay else .error (.shared (.keyReused key))

/-- A request that has passed its checks. -/
structure Order where
  key : String
  fingerprint : String
  request : CheckoutRequest
  deriving DecidableEq, Repr, Inhabited

/-- Where a call stands: the next call of a store that it makes. -/
inductive Phase where
  | seeking (order : Order)
  | drafting (order : Order)
  | committing (order : Order) (draft : CheckoutDraft)
  /-- Somebody else has taken the key meanwhile. -/
  | seekingAgain (order : Order)
  | done (result : Except CheckoutError CheckoutOutcome)
  deriving Inhabited

/-- The first phase of a call. -/
def begin [EmailCheck] (key : String) (request : CheckoutRequest) : Phase :=
  match checkKey key with
  | .error e => .done (.error e)
  | .ok key =>
    match request.check with
    | .error e => .done (.error (.shared (.invalid e)))
    | .ok () => .seeking ⟨key, request.fingerprint, request⟩

/-- The record of a key that still counts. -/
def findRecord (key : String) : StateM CheckoutDesk (Except Failure (Option KeyRecord)) := do
  match ← mishap .findRecord with
  | .fails e => return .error e
  | .hides => return .ok none
  | _ => return .ok ((← get).ledger.find? key (← clock))

/-- The lines of a cart; a cart that nobody knows is empty. -/
def cartLines (cart : Uuid) : StateM CheckoutDesk (Except Failure (List CartLine)) := do
  match ← failure? .buildDraft with
  | some e => return .error e
  | none => return .ok (((← get).carts.find? cart).getD [])

/-- Turns a draft into an order. -/
def commit [EmailCheck] (draft : CheckoutDraft) : StateM CheckoutDesk CommitAnswer := do
  match ← mishap .commitCheckout with
  | .fails e => return .refused (.shared e)
  | .taken => return .keyTaken
  | _ =>
    let eventId ← orderedId
    let (answer, ledger) := (← get).ledger.commit draft eventId (← clock)
    modify fun d => { d with ledger }
    return answer

/-- The draft of an order: fresh identifiers for the order and for what belongs to it. -/
def draft (keep : Int) (o : Order) (lines : List CartLine) : StateM Surroundings CheckoutDraft := do
  return {
    key := o.key
    fingerprint := o.fingerprint
    orderId := ← orderedId
    correlationId := "checkout-" ++ (← randomId).text
    cartId := o.request.cartId
    customer := o.request.customer
    lines
    keep }

/-- The next phase of a call. Answers are kept for `keep` nanoseconds. -/
def Phase.step [EmailCheck] (keep : Int) : Phase → StateM CheckoutDesk Phase
  | .seeking o => do
    match ← findRecord o.key with
    | .error e => return .done (.error (.shared e))
    | .ok (some r) => return .done (replay o.key o.fingerprint r)
    | .ok none => return .drafting o
  | .drafting o => do
    match ← cartLines o.request.cartId with
    | .error e => return .done (.error (.shared e))
    | .ok [] => return .done (.error (.emptyCart o.request.cartId))
    | .ok lines => return .committing o (← draft keep o lines)
  | .committing o d => do
    match ← commit d with
    | .refused e => return .done (.error e)
    | .keyTaken => return .seekingAgain o
    | .committed outcome =>
      modify fun d => { d with notified := true }
      return .done (.ok outcome)
  | .seekingAgain o => do
    match ← findRecord o.key with
    | .error e => return .done (.error (.shared e))
    | .ok (some r) => return .done (replay o.key o.fingerprint r)
    | .ok none =>
      return .done (.error (.shared (.internal ("幂等键 " ++ o.key ++ " 写入冲突后未找到记录"))))
  | .done result => return .done result

/-- What the meters call a result. -/
def label : Except CheckoutError CheckoutOutcome → String
  | .ok outcome => if outcome.replayed then "replayed" else "created"
  | .error (.shared (.keyReused _)) => "conflict"
  | .error e => if e.retryable then "error" else "rejected"

/-- Goes on until a call is done; it has at most four phases. -/
def Phase.finish [EmailCheck] (keep : Int) (p : Phase) :
    StateM CheckoutDesk (Except CheckoutError CheckoutOutcome) := do
  let p ← p.step keep
  let p ← p.step keep
  let p ← p.step keep
  match ← p.step keep with
  | .done result => return result
  | _ => return .error (.shared .overflow)

/-- Checks out a cart under a key. -/
def call [EmailCheck] (keep : Int) (key : String) (request : CheckoutRequest) :
    StateM CheckoutDesk (Except CheckoutError CheckoutOutcome) := do
  let result ← (begin key request).finish keep
  meter (Meters.checkout (label result))
  return result

/-- Drops the records that no longer count; how many there were. -/
def sweep : StateM CheckoutDesk (Except CheckoutError Nat) := do
  match ← failure? .sweepRecords with
  | some e => return .error (.shared e)
  | none =>
    let (n, ledger) := (← get).ledger.sweep (← clock)
    modify fun d => { d with ledger }
    return .ok n

/-- A round of the worker that drops records. -/
def cleanUp : StateM CheckoutDesk Unit := do
  let _ ← sweep
  meter (Meters.worker "idempotency_cleanup" (← clock).seconds)

/-- Whether the store of the service answers. -/
def health : StateM CheckoutDesk (Except CheckoutError Unit) := do
  match ← failure? .checkoutHealth with
  | some e => return .error (.shared e)
  | none => return .ok ()

end Checkout

end OrderFlow
