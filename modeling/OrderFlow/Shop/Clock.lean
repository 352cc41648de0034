import OrderFlow.Shop.Basic

/-!
Time in the shop. Whatever goes on in the background goes on only while the foreground waits: first
every task that need not wait does what it can, the oldest first; then the clock moves on to the
next point in time at which somebody need not wait any more.
-/
namespace OrderFlow.Shop
open OrderFlow Surroundings

/-- Sets the clock. -/
def setClock (now : Instant) : StateM Shop Unit :=
  modify fun s => { s with around := { s.around with now } }

/-- Lets an attempt do what it can without waiting, in `fuel` phases at most. -/
def advance (cfg : Config) : Nat → Payment.Phase → StateM Shop Payment.Phase
  | 0, p => return p
  | fuel + 1, p => do
    if p.isDone ∨ ¬ p.isReady (← clock) then return p
    else advance cfg fuel (← atOrders (p.step cfg.payment))

/-- Lets tasks do what they can without waiting; those that are not at their end. -/
def advanceAll (cfg : Config) : List Payment.Phase → StateM Shop (List Payment.Phase)
  | [] => return []
  | p :: rest => do
    let p ← advance cfg (p.left cfg.payment.policy) p
    let rest ← advanceAll cfg rest
    return if p.isDone then rest else p :: rest

/-- Lets all tasks do what they can without waiting. -/
def work (cfg : Config) : StateM Shop Unit := do
  let tasks := (← get).tasks
  modify fun s => { s with tasks := [] }
  let tasks ← advanceAll cfg tasks
  modify fun s => { s with tasks := tasks ++ s.tasks }

/-- The earlier of two points in time. -/
def earlier (a b : Instant) : Instant := if a ≤ b then a else b

/-- The next point in time before `limit` at which a task need not wait any more. -/
def nextWake (limit : Instant) (s : Shop) : Instant :=
  (s.tasks.filterMap Payment.Phase.until?).foldl earlier limit

/-- How many phases of tasks can still follow at most. -/
def phasesLeft (cfg : Config) (s : Shop) : Nat :=
  (s.tasks.map (·.left cfg.payment.policy)).foldl (· + ·) 0

/-- Waits until a point in time, or until `called`; whether it was called. -/
def waitFor (cfg : Config) (called : Shop → Bool) (wake : Instant) : Nat → StateM Shop Bool
  | 0 => return false
  | fuel + 1 => do
    work cfg
    if called (← get) then return true
    let next := nextWake wake (← get)
    setClock (.latestOf (← clock) next)
    if next < wake then waitFor cfg called wake fuel else return false

/-- Waits until a point in time, or until `called`; whether it was called. There is no waiting for
what is past. -/
def waitUntil (cfg : Config) (called : Shop → Bool) (wake : Instant) : StateM Shop Bool := do
  if called (← get) then return true
  else if wake ≤ (← clock) then return false
  else waitFor cfg called wake (phasesLeft cfg (← get) + 1)

/-- Waits until a point in time. -/
def sleepUntil (cfg : Config) (wake : Instant) : StateM Shop Unit := do
  let _ ← waitUntil cfg (fun _ => false) wake

/-- Lets time pass. -/
def sleep (cfg : Config) (d : Span) : StateM Shop Unit := do sleepUntil cfg ((← clock).after d)

/-- Goes through the phases of something in the foreground, `fuel` of them at most; before a phase
that has to wait, time passes. -/
def follow {φ : Type} (cfg : Config) (until? : φ → Option Instant) (isDone : φ → Bool)
    (step : φ → StateM OrderDesk φ) : Nat → φ → StateM Shop φ
  | 0, p => return p
  | fuel + 1, p => do
    if isDone p then return p
    else
      if let some wake := until? p then sleepUntil cfg wake
      follow cfg until? isDone step fuel (← atOrders (step p))

/-- Attempts a payment in the foreground. -/
def attempt (cfg : Config) (p : Payment.Phase) : StateM Shop Payment.Result := do
  let fuel := p.left cfg.payment.policy + 1
  match ← follow cfg Payment.Phase.until? Payment.Phase.isDone (·.step cfg.payment) fuel p with
  | .done result => return result
  | _ => return .error (.shared .overflow)

/-- Sweeps up the payments that got stuck. -/
def recover (cfg : Config) : StateM Shop (Except OrderError Nat) := do
  let step (s : Payment.Sweep) := s.step cfg.payment cfg.recovery
  let fuel := Payment.Sweep.left cfg.payment.policy (← get).book.orders.length .seekingStalled + 1
  match ← follow cfg Payment.Sweep.until? Payment.Sweep.isDone step fuel .seekingStalled with
  | .done result => return result
  | _ => return .error (.shared .overflow)

/-- Delivers a message to the order service. -/
def deliver [EmailCheck] (cfg : Config) (m : Message) :
    StateM Shop (Except Failure Delivery.Handling) := do
  let step (p : Delivery.Phase) := p.step cfg.delivery m
  let fuel := Delivery.Phase.reading.left cfg.delivery + 1
  match ← follow cfg Delivery.Phase.until? Delivery.Phase.isDone step fuel .reading with
  | .done result =>
    Delivery.note m result
    return result
  | _ => return .error .overflow

end OrderFlow.Shop
