import OrderFlow.Failure
import OrderFlow.Meters
import OrderFlow.Time.Instant
import OrderFlow.Uuid

/-!
What every part of a service has around it: the clock, fresh identifiers, random numbers, meters,
and the mishaps that calls of the stores are about to meet. Identifiers and random numbers come
from sequences that are given from outside, so a run is determined by its surroundings.
-/
namespace OrderFlow

/-- Two sequences of identifiers: random ones, and ones that also tell when they were made. -/
structure IdSource where
  random : Nat → Uuid
  ordered : Nat → Uuid

namespace IdSource

/-- The identifier number `n` of a version, of the variant that versions belong to. -/
def numbered (version n : Nat) : Uuid :=
  .ofNat (0x5eed0f1d * 2 ^ 96 + version * 2 ^ 76 + 2 ^ 63 + n % 2 ^ 62)

/-- Identifiers counted up. -/
def counting : IdSource := ⟨numbered 4, numbered 7⟩

end IdSource

/-- The calls of the stores that can meet a mishap. -/
inductive StoreCall where
  | findRecord
  | commitCheckout
  | buildDraft
  | sweepRecords
  | checkoutHealth
  | isProcessed
  | createOrder
  | finalizePayment
  | findOrder
  | findOrderByNumber
  | findPayment
  | updateStatus
  | findStalled
  | findUnsettled
  | ordersHealth
  | claimBatch
  | markPublished
  | recordFailure
  | countPending
  deriving DecidableEq, Repr, Inhabited

/-- What a call of a store meets. -/
inductive Mishap where
  /-- The call fails and changes nothing. -/
  | fails (cause : Failure)
  /-- Nothing happens to this call. -/
  | none
  /-- What is looked for is not found. -/
  | hides
  /-- A key is said to be taken. -/
  | taken
  /-- A change is said not to have taken place, and has not. -/
  | loses
  /-- The call does its work and fails then. -/
  | failsAfterwards (cause : Failure)
  deriving DecidableEq, Repr, Inhabited

/-- What a part of a service has around it. -/
structure Surroundings where
  now : Instant
  ids : IdSource := .counting
  /-- How many identifiers have been handed out. -/
  issued : Nat := 0
  /-- Random numbers. -/
  draws : Nat → Draw := fun _ => .half
  /-- How many random numbers have been drawn. -/
  drawn : Nat := 0
  /-- The mishaps to come, in order, each for the next call of its kind. -/
  mishaps : List (StoreCall × Mishap) := []
  meters : Meters := {}
  /-- Whether an answer had to be given although a number had left its range. -/
  overflowed : Bool := false

namespace Surroundings

/-- A fresh random identifier. -/
def randomId : StateM Surroundings Uuid :=
  modifyGet fun s => (s.ids.random s.issued, { s with issued := s.issued + 1 })

/-- A fresh identifier that also tells when it was made. -/
def orderedId : StateM Surroundings Uuid :=
  modifyGet fun s => (s.ids.ordered s.issued, { s with issued := s.issued + 1 })

/-- A random number. -/
def draw : StateM Surroundings Draw :=
  modifyGet fun s => (s.draws s.drawn, { s with drawn := s.drawn + 1 })

/-- The present point in time. -/
def clock : StateM Surroundings Instant := return (← get).now

/-- Lets time pass. -/
def pass (d : Span) : StateM Surroundings Unit := modify fun s => { s with now := s.now.after d }

/-- Notes that a number has left its range. -/
def overflow : StateM Surroundings Unit := modify fun s => { s with overflowed := true }

/-- Records something on the meters. -/
def meter (f : Meters → Meters) : StateM Surroundings Unit :=
  modify fun s => { s with meters := f s.meters }

/-- The mishap of the next call of a kind, and what remains of the mishaps to come. -/
def takeFrom (call : StoreCall) : List (StoreCall × Mishap) → Mishap × List (StoreCall × Mishap)
  | [] => (.none, [])
  | m :: ms =>
    if m.1 = call then (m.2, ms)
    else
      let (mishap, rest) := takeFrom call ms
      (mishap, m :: rest)

/-- The mishap that a call meets. -/
def mishap (call : StoreCall) : StateM Surroundings Mishap :=
  modifyGet fun s =>
    let (m, rest) := takeFrom call s.mishaps
    (m, { s with mishaps := rest })

/-- The failure that a call meets before it does anything. -/
def failure? (call : StoreCall) : StateM Surroundings (Option Failure) := do
  match ← mishap call with
  | .fails e => return some e
  | _ => return none

end Surroundings

/-- A state that holds surroundings. -/
class Situated (σ : Type) where
  around : σ → Surroundings
  setAround : σ → Surroundings → σ

instance : Situated Surroundings := ⟨id, fun _ s => s⟩

/-- What happens in the surroundings happens wherever they are. -/
instance {σ : Type} [Situated σ] : MonadLift (StateM Surroundings) (StateM σ) where
  monadLift act := modifyGet fun s =>
    let (a, around) := act.run (Situated.around s)
    (a, Situated.setAround s around)

end OrderFlow
