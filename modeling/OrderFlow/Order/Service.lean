import OrderFlow.Order.Desk

/-!
What callers can ask of the order service: to show orders and payments, to cancel an order, and to
fulfil one. A change of status is checked against the table of steps first, and then made only if
the order still has the status that was read.
-/
namespace OrderFlow.OrderService
open OrderFlow

/-- An order that was looked for, or the error that it is not there. -/
def found (name : String) : Except OrderError (Option Order) → Except OrderError Order
  | .ok (some order) => .ok order
  | .ok none => .error (.orderNotFound name)
  | .error e => .error e

/-- Shows an order. -/
def getOrder (id : Uuid) : StateM OrderDesk (Except OrderError Order) :=
  return found id.text (← OrderDesk.findOrder id)

/-- Shows the order of a number. -/
def getByNumber (number : String) : StateM OrderDesk (Except OrderError Order) :=
  return found number (← OrderDesk.findByNumber number)

/-- Shows the payment of an order. -/
def getPayment (id : Uuid) : StateM OrderDesk (Except OrderError PaymentTransaction) := do
  match ← OrderDesk.findPayment id with
  | .ok (some payment) => return .ok payment
  | .ok none => return .error (.paymentNotFound id)
  | .error e => return .error e

/-- Where a change of status stands: the next call of the store that it makes. -/
inductive Phase where
  | reading
  | swapping (order : Order)
  /-- The change was made. -/
  | showing
  /-- The order had another status by then. -/
  | lost
  | done (result : Except OrderError Order)
  deriving Inhabited

/-- The next phase of a change of status. -/
def Phase.step (id : Uuid) (target : OrderStatus) : Phase → StateM OrderDesk Phase
  | .reading => do
    match ← getOrder id with
    | .error e => return .done (.error e)
    | .ok order =>
      match order.status.step target with
      | .error e => return .done (.error (.shared e))
      | .ok _ => return .swapping order
  | .swapping order => do
    match ← OrderDesk.swapStatus id order.status target with
    | .error e => return .done (.error e)
    | .ok true => return .showing
    | .ok false => return .lost
  | .showing => return .done (← getOrder id)
  | .lost => do
    match ← getOrder id with
    | .error e => return .done (.error e)
    | .ok order =>
      return .done (.error (.shared (.illegalTransition order.status.name target.name)))
  | .done result => return .done result

/-- Changes the status of an order; a change has three phases. -/
def changeStatus (id : Uuid) (target : OrderStatus) :
    StateM OrderDesk (Except OrderError Order) := do
  let p ← Phase.reading.step id target
  let p ← p.step id target
  match ← p.step id target with
  | .done result => return result
  | _ => return .error (.shared .overflow)

/-- Cancels an order that is not paid yet. -/
def cancel (id : Uuid) : StateM OrderDesk (Except OrderError Order) := changeStatus id .cancelled

/-- Fulfils an order that is paid. -/
def fulfil (id : Uuid) : StateM OrderDesk (Except OrderError Order) := changeStatus id .fulfilled

end OrderFlow.OrderService
