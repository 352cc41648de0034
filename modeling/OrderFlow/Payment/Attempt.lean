import OrderFlow.Order.Desk
import OrderFlow.Payment.Policy

/-!
Attempts to pay for an order. An attempt moves the order from `pending` to `processing`, and only
the one that has done so calls the gateway: again and again as the retry policy says, every call
behind the circuit breaker and cut off after a while. The outcome settles the payment. An attempt
may also expire a payment that another attempt has left behind, without calling the gateway.

An attempt goes through phases. What happens in a phase cannot be interrupted; before some phases
the attempt has to wait until a point in time (`Phase.until?`).
-/
namespace OrderFlow.Payment
open OrderFlow Surroundings

/-- How payments are attempted. -/
structure Config where
  policy : PaymentPolicy
  breaker : Breaker.Config
  deriving DecidableEq, Repr, Inhabited

namespace Config

/-- The configuration that the settings ask for, with a name for the circuit breaker. -/
def ofSettings (name : String) (s : Settings.Payment) : Config where
  policy := .ofSettings s
  breaker := .ofSettings name s.breaker

end Config

/-- What an attempt is for. -/
inductive Purpose where
  /-- To charge for an order that is pending. -/
  | charge
  /-- To give up a payment that was attempted and never settled. -/
  | expire
  deriving DecidableEq, Repr, Inhabited

/-- A charge that is under way: how often it was tried again, and how often the gateway was called.
-/
structure Charge where
  request : ChargeRequest
  retries : Nat := 0
  calls : Nat := 0
  deriving DecidableEq, Repr, Inhabited

/-- What the counter of the calls shows after so many calls. It has 32 bits: after the greatest
number it goes on with the least one. -/
@[irreducible] def counter (calls : Nat) : Int := Int.bmod calls (2 ^ 32)

theorem counter_of_lt {calls : Nat} (few : calls < 2 ^ 31) : counter calls = calls := by
  unfold counter
  exact Int.bmod_eq_of_le (by omega) (by omega)

theorem counter_range (calls : Nat) : -2 ^ 31 ≤ counter calls ∧ counter calls < 2 ^ 31 := by
  have lower := Int.le_bmod (x := calls) (m := 2 ^ 32) (by decide)
  have upper := Int.bmod_lt (x := calls) (m := 2 ^ 32) (by decide)
  unfold counter
  omega

/-- What an attempt has come to: an outcome, or nothing if there was nothing to do. -/
abbrev Result := Except OrderError (Option PaymentOutcome)

/-- Where an attempt stands: what it does next. -/
inductive Phase where
  | reading (purpose : Purpose) (order : Uuid)
  | readingPayment (purpose : Purpose) (order : Order)
  /-- Moves the order to `processing`. -/
  | claiming (order : Order) (payment : PaymentTransaction)
  /-- Asks the breaker, and calls the gateway if it may. -/
  | asking (charge : Charge)
  /-- The gateway is called; its answer is due at `ready`, and nobody waits for it after
  `deadline`. -/
  | calling (charge : Charge) (call : Gateway.Call) (ready deadline : Instant)
  /-- The gateway does not answer. -/
  | hanging (charge : Charge) (deadline : Instant)
  | pausing (charge : Charge) (wake : Instant)
  | settling (outcome : PaymentOutcome) (retries : Nat)
  | pausingToSettle (outcome : PaymentOutcome) (retries : Nat) (wake : Instant)
  | done (result : Result)
  deriving Inhabited

namespace Phase

/-- Whether an attempt is at its end. -/
def isDone : Phase → Bool
  | done _ => true
  | _ => false

/-- The result of an attempt that is at its end. -/
def result? : Phase → Option Result
  | done result => some result
  | _ => none

/-- The point in time that an attempt has to wait for. -/
def until? : Phase → Option Instant
  | calling _ _ ready deadline => some (if ready ≤ deadline then ready else deadline)
  | hanging _ deadline => some deadline
  | pausing _ wake | pausingToSettle _ _ wake => some wake
  | _ => none

/-- Whether an attempt need not wait any more. -/
def isReady (now : Instant) (p : Phase) : Bool := p.until?.all (· ≤ now)

end Phase

/-- The reason that is noted for a payment that was given up. -/
def expiryReason : String := "支付结果未确认：处理超时"

/-- Settles the payment with a success. -/
def succeed (c : Charge) (transaction : String) : StateM OrderDesk Phase :=
  return .settling (.succeeded (← orderedId) c.request.orderId transaction (counter c.calls)) 0

/-- Settles the payment with a failure. -/
def giveUp (order : Uuid) (reason : String) (attempts : Int) : StateM OrderDesk Phase :=
  return .settling (.failed (← orderedId) order reason attempts) 0

/-- After a charge has failed: another try, or the end. -/
def afterFailure (p : PaymentPolicy) (c : Charge) (e : PaymentError) : StateM OrderDesk Phase := do
  match p.retry.sequel e.retryable c.retries (← draw).number with
  | .again wait => return .pausing { c with retries := c.retries + 1 } ((← clock).after wait)
  | .last => giveUp c.request.orderId e.message (counter c.calls)
  | .breakOff => return .done (.error (.shared .overflow))

/-- What an answer of the gateway tells about its health. -/
def judge : Except PaymentError String → Breaker.Result
  | .ok _ => .success
  | .error e => if e.countsAgainstBreaker then .failure else .ignored

/-- What the meters call an answer of the gateway. -/
def label : Except PaymentError String → String
  | .ok _ => "success"
  | .error e => e.kind

/-- The gateway has answered, or nobody waits for it any more. -/
def conclude (cfg : Config) (c : Charge) (answer : Except PaymentError String) :
    StateM OrderDesk Phase := do
  meter (Meters.charge (label answer))
  let breaker ← Breaker.note cfg.breaker (judge answer) (← get).breaker
  modify fun d => { d with breaker }
  match answer with
  | .ok transaction => succeed c transaction
  | .error e => afterFailure cfg.policy c e

/-- Whether there is anything to do for an attempt. -/
def isOpen (purpose : Purpose) (order : Order) (payment : PaymentTransaction) : Bool :=
  payment.status = .pending && match purpose with
    | .charge => order.status = .pending
    | .expire => order.status = .processing

/-- What the gateway is asked for. -/
def chargeRequest (order : Order) (payment : PaymentTransaction) : ChargeRequest :=
  ⟨order.id, order.number, payment.amount, payment.currency⟩

/-- Asks the breaker for a charge, and calls the gateway if it may. -/
def ask (cfg : Config) (c : Charge) : StateM OrderDesk Phase := do
  let (admitted, breaker) ← Breaker.askForCall cfg.breaker (← get).breaker
  modify fun d => { d with breaker }
  if admitted then
    let now ← clock
    let (call, gateway) := (← get).gateway.start c.request now
    modify fun d => { d with gateway }
    return .calling { c with calls := c.calls + 1 } call (now.after call.delay)
      (now.after cfg.policy.callTimeout)
  else afterFailure cfg.policy c (.circuitOpen cfg.breaker.name)

/-- Settles a payment; where the store is out of reach, again and again. -/
def settle (p : PaymentPolicy) (o : PaymentOutcome) (retries : Nat) : StateM OrderDesk Phase := do
  match ← OrderDesk.complete o with
  | .ok _ => return .done (.ok (some o))
  | .error e =>
    match p.retry.sequel e.retryable retries (← draw).number with
    | .again wait => return .pausingToSettle o (retries + 1) ((← clock).after wait)
    | .last => return .done (.error e)
    | .breakOff => return .done (.error (.shared .overflow))

/-- What an attempt does in a phase, and its next phase. -/
def Phase.step (cfg : Config) : Phase → StateM OrderDesk Phase
  | .reading purpose id => do
    match ← OrderDesk.findOrder id with
    | .error e => return .done (.error e)
    | .ok none => return .done (.error (.orderNotFound id.text))
    | .ok (some order) => return .readingPayment purpose order
  | .readingPayment purpose order => do
    match ← OrderDesk.findPayment order.id with
    | .error e => return .done (.error e)
    | .ok none => return .done (.error (.paymentNotFound order.id))
    | .ok (some payment) =>
      if ¬ isOpen purpose order payment then return .done (.ok none)
      else
        match purpose with
        | .charge => return .claiming order payment
        | .expire => giveUp order.id expiryReason 0
  | .claiming order payment => do
    match ← OrderDesk.swapStatus order.id order.status .processing with
    | .error e => return .done (.error e)
    | .ok false => return .done (.ok none)
    | .ok true => return .asking { request := chargeRequest order payment }
  | .asking c | .pausing c _ => ask cfg c
  | .calling c call ready deadline => do
    if ready ≤ deadline then
      let now ← clock
      modify fun d => { d with book := call.effect c.request now d.book }
      match ← call.answer with
      | some answer => conclude cfg c answer
      | none => return .hanging c deadline
    else conclude cfg c (.error (.timeout cfg.policy.callTimeout))
  | .hanging c _ => conclude cfg c (.error (.timeout cfg.policy.callTimeout))
  | .settling o retries | .pausingToSettle o retries _ => settle cfg.policy o retries
  | .done result => return .done result

/-- How often a payment can still be settled after `retries` tries. -/
def settlingLeft (p : PaymentPolicy) (retries : Nat) : Nat := p.retry.maxRetries - retries + 1

/-- How many phases can still follow the end of a call of the gateway after `retries` tries. -/
def chargingLeft (p : PaymentPolicy) (retries : Nat) : Nat :=
  3 * (p.retry.maxRetries - retries) + settlingLeft p 0

/-- How many phases can still follow at most, the end included. -/
def Phase.left (p : PaymentPolicy) : Phase → Nat
  | .reading .. => chargingLeft p 0 + 6
  | .readingPayment .. => chargingLeft p 0 + 5
  | .claiming .. => chargingLeft p 0 + 4
  | .asking c | .pausing c _ => chargingLeft p c.retries + 3
  | .calling c .. => chargingLeft p c.retries + 2
  | .hanging c _ => chargingLeft p c.retries + 1
  | .settling _ retries | .pausingToSettle _ retries _ => settlingLeft p retries
  | .done _ => 0

end OrderFlow.Payment
