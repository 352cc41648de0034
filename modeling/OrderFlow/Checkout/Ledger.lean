import OrderFlow.Assoc
import OrderFlow.Checkout.Draft
import OrderFlow.Outbox.Table

/-!
The checkout ledger: records by idempotency key, the stock, the last order number of each day, and
the outbox of the checkout service. `commit` turns a draft into an order; it either does all of its
work or leaves the ledger as it is.
-/
namespace OrderFlow

/-- The checkout ledger. -/
structure Ledger where
  records : Assoc String KeyRecord := []
  stock : Assoc Uuid Int := []
  sequences : Assoc CalendarDay Int := []
  outbox : Outbox.Table := {}
  deriving Repr, Inhabited

/-- What came of committing a draft. -/
inductive CommitAnswer where
  | committed (outcome : CheckoutOutcome)
  /-- The key has a record that still counts. -/
  | keyTaken
  | refused (error : CheckoutError)
  deriving DecidableEq, Repr, Inhabited

namespace Ledger

/-- The record of a key that still counts. -/
def find? (l : Ledger) (key : String) (now : Instant) : Option KeyRecord :=
  (l.records.find? key).filter (·.isLive now)

/-- How much of a product there is. -/
def available (l : Ledger) (product : Uuid) : Int := (l.stock.find? product).getD 0

/-- The number that the next order of a day gets. -/
def nextSequence (l : Ledger) (day : CalendarDay) : Int := (l.sequences.find? day).getD 0 + 1

/-- The first product of which more is wanted than there is. -/
def shortage? (l : Ledger) (wanted : List (Uuid × Int)) : Option (Uuid × Int) :=
  wanted.find? fun w => l.available w.1 < w.2

/-- The stock after products have been taken out. -/
def takeOut (stock : Assoc Uuid Int) (wanted : List (Uuid × Int)) : Assoc Uuid Int :=
  wanted.foldl (fun stock w => stock.modify w.1 (· - w.2)) stock

/-- Writes a checkout that has become an order. -/
def enter (l : Ledger) (day : CalendarDay) (sequence : Int) (wanted : List (Uuid × Int))
    (final : FinalCheckout) (now : Instant) : Ledger where
  records := l.records.insert final.record.key final.record
  stock := takeOut l.stock wanted
  sequences := l.sequences.insert day sequence
  outbox := l.outbox.insert final.posting now

/-- Turns a draft into an order with the given identifier for its event. -/
def commit [EmailCheck] (l : Ledger) (d : CheckoutDraft) (eventId : Uuid) (now : Instant) :
    CommitAnswer × Ledger :=
  if (l.find? d.key now).isSome then (.keyTaken, l)
  else
    let day := now.day
    let sequence := l.nextSequence day
    if ¬ CheckoutDraft.fits32 sequence then (.refused (.shared .overflow), l)
    else
      match checkSequence day sequence with
      | .error e => (.refused e, l)
      | .ok () =>
        match d.reservations? with
        | none => (.refused (.shared .overflow), l)
        | some wanted =>
          match l.shortage? wanted with
          | some (product, requested) =>
            (.refused (.insufficientStock product requested (l.available product)), l)
          | none =>
            match d.finalize (orderNumber day sequence) eventId now now with
            | .error e => (.refused e, l)
            | .ok final => (.committed final.outcome, l.enter day sequence wanted final now)

/-- Drops the records that no longer count; how many there were. -/
def sweep (l : Ledger) (now : Instant) : Nat × Ledger :=
  let kept := l.records.filter fun r => r.2.isLive now
  (l.records.length - kept.length, { l with records := kept })

end Ledger

end OrderFlow
