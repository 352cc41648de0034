import OrderFlow.Failure

/-!
The life of an order: `pending → processing → paid → fulfilled`, with `failed` after a failed
payment and `cancelled` before a payment. `mayBecome` is the whole table of steps, every change
goes through `step`, and an order that is in a final state has no further step (`step_of_isFinal`).
-/
namespace OrderFlow

/-- Where an order stands. -/
inductive OrderStatus where
  | pending
  | processing
  | paid
  | fulfilled
  | cancelled
  | failed
  deriving DecidableEq, Repr, Inhabited

namespace OrderStatus

/-- The name of a status. -/
def name : OrderStatus → String
  | .pending => "PENDING"
  | .processing => "PROCESSING"
  | .paid => "PAID"
  | .fulfilled => "FULFILLED"
  | .cancelled => "CANCELLED"
  | .failed => "FAILED"

/-- Every status by name. -/
def named : List (String × OrderStatus) :=
  [pending, processing, paid, fulfilled, cancelled, failed].map fun s => (s.name, s)

/-- The status of a name. -/
def ofName (s : String) : Except Failure OrderStatus :=
  match named.find? fun k => k.1 = s with
  | some k => .ok k.2
  | none => .error (.invalid (.unknownOrderStatus s))

/-- The written form. -/
def toJson (s : OrderStatus) : Json := .text s.name

/-- Whether nothing follows any more. -/
def isFinal : OrderStatus → Bool
  | .fulfilled | .cancelled | .failed => true
  | _ => false

/-- The steps that an order may take. -/
def mayBecome : OrderStatus → OrderStatus → Bool
  | .pending, .processing | .processing, .paid | .processing, .failed | .paid, .fulfilled
  | .pending, .cancelled | .processing, .cancelled => true
  | _, _ => false

/-- Takes one step, or refuses it. -/
def step (source target : OrderStatus) : Except Failure OrderStatus :=
  if source.mayBecome target then .ok target
  else .error (.illegalTransition source.name target.name)

/-- The result of a payment settles an order; one that was still pending passes through
`processing`. -/
def settle (current : OrderStatus) (succeeded : Bool) : Except Failure OrderStatus := do
  let source ← if current = .pending then step current .processing else pure current
  step source (if succeeded then .paid else .failed)

/-- Where an order stands after the result of its payment: one that can no longer be settled stays.
-/
def afterPayment (current : OrderStatus) (succeeded : Bool) : OrderStatus :=
  match settle current succeeded with
  | .ok next => next
  | .error _ => current

theorem ofName_name (s : OrderStatus) : ofName s.name = .ok s := by cases s <;> rfl

theorem step_of_isFinal {source : OrderStatus} (final : source.isFinal = true)
    (target : OrderStatus) :
    step source target = .error (.illegalTransition source.name target.name) := by
  cases source <;> cases target <;> first | rfl | cases final

end OrderStatus

end OrderFlow
