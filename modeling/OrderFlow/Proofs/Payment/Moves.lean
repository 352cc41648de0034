import OrderFlow.Payment.Recovery
import OrderFlow.Proofs.Order.Calls

/-!
What an attempt to pay can do in one phase. `Move` lists it once for all: which phase follows which,
on what condition, and what becomes of the book and of the gateway. Everything that is said about
attempts is read off this list (`step_moves`).
-/
namespace OrderFlow

namespace Gateway

/-- A call that does nothing but charge. -/
def Call.IsPlain : Call → Prop
  | .scripted _ entry => entry.setStatus = none
  | .simulated .. => False

/-- A gateway whose calls do nothing but charge, each in the way that its script says. -/
def IsPlain : Gateway → Prop
  | .scripted script _ => ∀ entry ∈ script, entry.setStatus = none
  | .simulated .. => False

/-- The calls that a gateway has got. -/
def calls : Gateway → List LoggedCall
  | .scripted _ log => log
  | .simulated .. => []

/-- A call that begins is entered in the log, and is as plain as the gateway. -/
theorem IsPlain.start {g : Gateway} (plain : g.IsPlain) (request : ChargeRequest) (now : Instant) :
    (g.start request now).1.IsPlain ∧ (g.start request now).2.IsPlain ∧
      (g.start request now).2.calls = g.calls ++ [⟨now, request⟩] := by
  cases g with
  | simulated => exact plain.elim
  | scripted script log =>
    cases script with
    | nil => exact ⟨rfl, nofun, rfl⟩
    | cons entry script =>
      exact ⟨plain entry (.head _), fun e member => plain e (.tail _ member), rfl⟩

/-- What comes of a call within its time, none as long as there is no answer. -/
def Call.verdict? (timeout : Span) (ready deadline : Instant) :
    Call → Option (Except PaymentError String)
  | .scripted number entry =>
    if ready ≤ deadline then
      match entry.ending with
      | .confirms transaction => some (.ok (transaction.getD ("tx-" ++ toString number)))
      | .fails e => some (.error e)
      | .hangs => none
    else some (.error (.timeout timeout))
  | .simulated .. => none

theorem Call.IsPlain.effect {call : Call} (plain : call.IsPlain) (request : ChargeRequest)
    (now : Instant) (book : OrderBook) : call.effect request now book = book := by
  cases call with
  | simulated => exact plain.elim
  | scripted number entry =>
    obtain ⟨delay, setStatus, ending⟩ := entry
    cases plain
    rfl

end Gateway

/-- The desk `d'` comes about from `d` by a call of the gateway. -/
structure OrderDesk.Calls (d d' : OrderDesk) (request : ChargeRequest) (call : Gateway.Call) :
    Prop where
  around : d.around.Follows d'.around
  book : d'.book = d.book
  started : d.gateway.start request d.around.now = (call, d'.gateway)
  broker : d'.broker = d.broker
  dispatched : d'.dispatched = d.dispatched

namespace Payment
open OrderDesk Surroundings

/-- The outcome that a result shows. -/
def outcome? : Result → Option PaymentOutcome
  | .ok o => o
  | .error _ => none

namespace Phase

/-- An attempt that has not yet moved its order. -/
def isEarly : Phase → Bool
  | .reading .. | .readingPayment .. | .claiming .. => true
  | _ => false

/-- An attempt that has done nothing yet. -/
def isFresh : Phase → Bool
  | .reading .. => true
  | _ => false

/-- The charge that asks the breaker next. -/
def asks? : Phase → Option Charge
  | .asking c | .pausing c _ => some c
  | _ => none

/-- The charge that waits for the gateway. -/
def awaits? : Phase → Option Charge
  | .calling c .. | .hanging c _ => some c
  | _ => none

/-- The outcome that is to be settled. -/
def settles? : Phase → Option PaymentOutcome
  | .settling o _ | .pausingToSettle o _ _ => some o
  | _ => none

/-- What has come of the call that a charge waits for, none as long as there is no answer. -/
def verdict? (timeout : Span) : Phase → Option (Except PaymentError String)
  | .calling _ call ready deadline => call.verdict? timeout ready deadline
  | .hanging .. => some (.error (.timeout timeout))
  | _ => none

/-- An attempt that claims its order only from those that are pending, and whose call does nothing
but charge. -/
def IsSound : Phase → Prop
  | .claiming order _ => order.status = .pending
  | .calling _ call _ _ => call.IsPlain
  | _ => True

end Phase

/-- What an attempt may do in one phase. -/
inductive Move (cfg : Config) (d d' : OrderDesk) : Phase → Phase → Prop where
  /-- There is nothing to do, or no way to do it. -/
  | quits {p : Phase} {r : Result} (early : p.isEarly = true) (nothing : outcome? r = none)
      (aside : Aside d d') : Move cfg d d' p (.done r)
  | finds {purpose : Purpose} {id : Uuid} {order : Order}
      (found : d.book.findOrder id = some order) (aside : Aside d d') :
      Move cfg d d' (.reading purpose id) (.readingPayment purpose order)
  | prepares {order : Order} {payment : PaymentTransaction}
      (found : d.book.findPayment order.id = some payment)
      (unpaid : isOpen .charge order payment = true) (aside : Aside d d') :
      Move cfg d d' (.readingPayment .charge order) (.claiming order payment)
  | expires {order : Order} {payment : PaymentTransaction} {eventId : Uuid}
      (found : d.book.findPayment order.id = some payment)
      (unpaid : isOpen .expire order payment = true)
      (fresh : Fresh d.around d'.around eventId) (aside : Aside d d') :
      Move cfg d d' (.readingPayment .expire order)
        (.settling (.failed eventId order.id expiryReason 0) 0)
  | claims {order current : Order} {payment : PaymentTransaction}
      (found : d.book.findOrder order.id = some current) (pending : current.status = .pending)
      (writes : Writes d d' (d.book.put order.id (current.withStatus .processing d.around.now))) :
      Move cfg d d' (.claiming order payment) (.asking { request := chargeRequest order payment })
  | calls {p : Phase} {c : Charge} {call : Gateway.Call} (asks : p.asks? = some c)
      (calls : Calls d d' c.request call) :
      Move cfg d d' p (.calling { c with calls := c.calls + 1 } call (d.around.now.after call.delay)
        (d.around.now.after cfg.policy.callTimeout))
  /-- The breaker lets no call through. -/
  | refused {p : Phase} {c : Charge} {eventId : Uuid} (asks : p.asks? = some c)
      (fresh : Fresh d.around d'.around eventId) (aside : Aside d d') :
      Move cfg d d' p (.settling (.failed eventId c.request.orderId
        (PaymentError.circuitOpen cfg.breaker.name).message (counter c.calls)) 0)
  /-- The gateway leaves the call without an answer. -/
  | hangs {c : Charge} {call : Gateway.Call} {ready deadline : Instant}
      (unanswered : call.verdict? cfg.policy.callTimeout ready deadline = none)
      (aside : Aside d d') : Move cfg d d' (.calling c call ready deadline) (.hanging c deadline)
  | confirmed {p : Phase} {c : Charge} {transaction : String} {eventId : Uuid}
      (awaits : p.awaits? = some c)
      (verdict : p.verdict? cfg.policy.callTimeout = some (.ok transaction))
      (fresh : Fresh d.around d'.around eventId) (aside : Aside d d') :
      Move cfg d d' p
        (.settling (.succeeded eventId c.request.orderId transaction (counter c.calls)) 0)
  | pauses {p : Phase} {c : Charge} {e : PaymentError} {wake : Instant}
      (awaits : p.awaits? = some c)
      (verdict : p.verdict? cfg.policy.callTimeout = some (.error e)) (passing : e.retryable = true)
      (left : c.retries < cfg.policy.retry.maxRetries) (aside : Aside d d')
      (waits : ∃ draw, wake = d.around.now.after (cfg.policy.retry.backoff c.retries draw)) :
      Move cfg d d' p (.pausing { c with retries := c.retries + 1 } wake)
  | givesUp {p : Phase} {c : Charge} {e : PaymentError} {eventId : Uuid}
      (awaits : p.awaits? = some c)
      (verdict : p.verdict? cfg.policy.callTimeout = some (.error e))
      (fresh : Fresh d.around d'.around eventId) (aside : Aside d d') :
      Move cfg d d' p
        (.settling (.failed eventId c.request.orderId e.message (counter c.calls)) 0)
  /-- The charge is to be tried again, but the wait before that cannot be drawn. -/
  | breaksOff {p : Phase} {c : Charge} {e : PaymentError} (awaits : p.awaits? = some c)
      (verdict : p.verdict? cfg.policy.callTimeout = some (.error e)) (passing : e.retryable = true)
      (left : c.retries < cfg.policy.retry.maxRetries)
      (undrawn : ∃ draw : Draw, cfg.policy.retry.canDraw c.retries draw.number = false)
      (aside : Aside d d') : Move cfg d d' p (.done (.error (.shared .overflow)))
  | settled {p : Phase} {o : PaymentOutcome} {s : Settlement} (settles : p.settles? = some o)
      (does : Settles d d' o (.ok s)) : Move cfg d d' p (.done (.ok (some o)))
  /-- The store does not answer, whether or not it has done its work. -/
  | waitsToSettle {p : Phase} {o : PaymentOutcome} {e : OrderError} {retries : Nat} {wake : Instant}
      (settles : p.settles? = some o) (does : Settles d d' o (.error e)) :
      Move cfg d d' p (.pausingToSettle o retries wake)
  | failsToSettle {p : Phase} {o : PaymentOutcome} {e e' : OrderError}
      (settles : p.settles? = some o) (does : Settles d d' o (.error e)) :
      Move cfg d d' p (.done (.error e'))
  | rests {r : Result} (aside : Aside d d') : Move cfg d d' (.done r) (.done r)

variable {cfg : Config} {d : OrderDesk}

theorem giveUp_yields (order : Uuid) (reason : String) (attempts : Int) (d : OrderDesk) :
    Yields (giveUp order reason attempts) d fun p' d' =>
      ∃ eventId, p' = .settling (.failed eventId order reason attempts) 0 ∧
        Fresh d.around d'.around eventId ∧ Aside d d' :=
  (lift_yields (orderedId_yields d.around)).bind fun eventId _ ⟨fresh, aside⟩ =>
    .returned ⟨eventId, rfl, fresh, aside⟩

/-- A charge that has failed is tried again only where that can help and tries are left, and only
after the wait that the policy has for it. -/
theorem afterFailure_yields (policy : PaymentPolicy) (c : Charge) (e : PaymentError)
    (d : OrderDesk) :
    Yields (afterFailure policy c e) d fun p' d' =>
      (∃ wake, p' = .pausing { c with retries := c.retries + 1 } wake ∧ e.retryable = true ∧
          c.retries < policy.retry.maxRetries ∧
          (∃ draw, wake = d.around.now.after (policy.retry.backoff c.retries draw)) ∧
          Aside d d') ∨
        (∃ eventId,
          p' = .settling (.failed eventId c.request.orderId e.message (counter c.calls)) 0 ∧
          Fresh d.around d'.around eventId ∧ Aside d d') ∨
        p' = .done (.error (.shared .overflow)) ∧ e.retryable = true ∧
          c.retries < policy.retry.maxRetries ∧
          (∃ draw : Draw, policy.retry.canDraw c.retries draw.number = false) ∧ Aside d d' := by
  refine (lift_aside (draw_yields d.around)).bind fun draw d' aside => ?_
  split
  · next wait again =>
    obtain ⟨passing, left, -, rfl⟩ := RetryPolicy.of_sequel_again again
    refine (lift_yields (clock_yields d'.around)).bind fun now d'' ⟨same, aside'⟩ => ?_
    have now_eq : now = d.around.now := same.trans aside.around.now
    exact .returned (.inl ⟨_, rfl, passing, left, ⟨draw.number, by rw [now_eq]⟩,
      aside.then_aside aside'⟩)
  · refine (giveUp_yields _ _ _ d').mono fun p' d'' ⟨eventId, shape, fresh, aside'⟩ => ?_
    exact .inr (.inl ⟨eventId, shape, fresh.preceded aside.around, aside.then_aside aside'⟩)
  · next breaks =>
    obtain ⟨passing, left, undrawn⟩ := RetryPolicy.of_sequel_breakOff breaks
    exact .returned (.inr (.inr ⟨rfl, passing, left, ⟨draw, undrawn⟩, aside⟩))

/-- The breaker changes nothing but itself and the meters. -/
theorem note_yields (cfg : Breaker.Config) (r : Breaker.Result) (s : Breaker.State)
    (a : Surroundings) : Yields (Breaker.note cfg r s) a fun _ a' => a.Follows a' :=
  (clock_yields a).bind fun _ _ ⟨_, follows⟩ => (meter_yields _ _).bind fun _ _ follows' =>
    .returned (follows.trans follows')

theorem askForCall_yields (cfg : Breaker.Config) (s : Breaker.State) (a : Surroundings) :
    Yields (Breaker.askForCall cfg s) a fun _ a' => a.Follows a' := by
  have asked : Yields (Breaker.ask cfg s) a fun _ a' => a.Follows a' :=
    (clock_yields a).bind fun _ _ ⟨_, follows⟩ => (meter_yields _ _).bind fun _ _ follows' =>
      .returned (follows.trans follows')
  refine asked.bind fun answer a' follows => ?_
  obtain ⟨admitted, s'⟩ := answer
  cases admitted with
  | false =>
    simp only [Bool.false_eq_true, not_false_eq_true, if_true]
    exact (meter_yields _ a').bind fun _ _ follows' => .returned (follows.trans follows')
  | true =>
    simp only [not_true_eq_false, if_false]
    exact .returned follows

theorem conclude_moves {d₀ : OrderDesk} {p : Phase} {c : Charge}
    {answer : Except PaymentError String} (before : Aside d₀ d) (awaits : p.awaits? = some c)
    (verdict : p.verdict? cfg.policy.callTimeout = some answer) :
    Yields (conclude cfg c answer) d fun p' d' => Move cfg d₀ d' p p' := by
  refine (lift_aside (meter_yields _ d.around)).bind fun _ d₁ aside₁ => ?_
  refine .seen ((lift_aside (note_yields _ _ _ d₁.around)).bind fun breaker d₂ aside₂ => ?_)
  have before : Aside d₀ { d₂ with breaker } :=
    (before.then_aside (aside₁.then_aside aside₂)).then_aside ⟨.refl _, rfl, rfl, rfl, rfl⟩
  refine .changed ?_
  cases answer with
  | ok transaction =>
    refine (lift_yields (orderedId_yields _)).bind fun eventId d₃ ⟨fresh, aside⟩ => ?_
    exact .returned (.confirmed awaits verdict (fresh.preceded before.around)
      (before.then_aside aside))
  | error e =>
    refine (afterFailure_yields cfg.policy c e _).mono fun p' d₃ next => ?_
    rcases next with ⟨wake, rfl, passing, left, waits, aside⟩ | ⟨eventId, rfl, fresh, aside⟩ |
      ⟨rfl, passing, left, undrawn, aside⟩
    · rw [show d₂.around.now = d₀.around.now from before.around.now] at waits
      exact .pauses awaits verdict passing left (before.then_aside aside) waits
    · exact .givesUp awaits verdict (fresh.preceded before.around) (before.then_aside aside)
    · exact .breaksOff awaits verdict passing left undrawn (before.then_aside aside)

theorem ask_moves {p : Phase} {c : Charge} (asks : p.asks? = some c) :
    Yields (ask cfg c) d fun p' d' => Move cfg d d' p p' := by
  refine .seen ((lift_aside (askForCall_yields _ _ d.around)).bind fun answer d₁ aside₁ => ?_)
  obtain ⟨admitted, breaker⟩ := answer
  have before : Aside d { d₁ with breaker } :=
    aside₁.then_aside ⟨.refl _, rfl, rfl, rfl, rfl⟩
  refine .changed ?_
  cases admitted with
  | false =>
    simp only [Bool.false_eq_true, if_false]
    refine (afterFailure_yields cfg.policy c _ _).mono fun p' d₂ next => ?_
    rcases next with ⟨_, _, passing, _⟩ | ⟨eventId, rfl, fresh, aside⟩ | ⟨_, passing, _⟩
    · cases passing
    · exact .refused asks (fresh.preceded before.around) (before.then_aside aside)
    · cases passing
  | true =>
    simp only [if_true]
    refine (lift_yields (clock_yields _)).bind fun now d₂ ⟨same, aside₂⟩ => ?_
    have same : now = d.around.now := same.trans before.around.now
    have before := before.then_aside aside₂
    subst same
    refine .seen (.changed (.returned ?_))
    rw [before.gateway]
    exact .calls asks ⟨before.around, before.book, rfl, before.broker, before.dispatched⟩

theorem settle_moves {p : Phase} {o : PaymentOutcome} (settles : p.settles? = some o)
    (retries : Nat) :
    Yields (settle cfg.policy o retries) d fun p' d' => Move cfg d d' p p' := by
  refine (complete_yields o d).bind fun r d₁ does => ?_
  cases r with
  | ok s => exact .returned (.settled settles does)
  | error e =>
    refine (lift_aside (draw_yields d₁.around)).bind fun draw d₂ aside₂ => ?_
    split
    · refine (lift_yields (clock_yields d₂.around)).bind fun now d₃ ⟨_, aside₃⟩ => ?_
      exact .returned (.waitsToSettle settles (does.then_aside (aside₂.then_aside aside₃)))
    · exact .returned (.failsToSettle settles (does.then_aside aside₂))
    · exact .returned (.failsToSettle settles (does.then_aside aside₂))

theorem calling_moves {c : Charge} {call : Gateway.Call} {ready deadline : Instant}
    (plain : call.IsPlain) :
    Yields ((Phase.calling c call ready deadline).step cfg) d fun p' d' =>
      Move cfg d d' (.calling c call ready deadline) p' := by
  cases call with
  | simulated => exact plain.elim
  | scripted number entry =>
    simp only [Phase.step]
    by_cases inTime : ready ≤ deadline
    · simp only [inTime, if_true]
      refine (lift_yields (clock_yields d.around)).bind fun now d₁ ⟨_, aside₁⟩ => ?_
      refine .changed ?_
      rw [Gateway.Call.IsPlain.effect plain]
      have answered : Yields (liftM (Gateway.Call.scripted number entry).answer) d₁
          fun answer d₂ => answer = (Gateway.Call.scripted number entry).verdict?
            cfg.policy.callTimeout ready deadline ∧ Aside d₁ d₂ := by
        refine lift_yields (P := fun answer _ => answer = _) ?_
        simp only [Gateway.Call.verdict?, inTime, if_true, Gateway.Call.answer]
        cases entry.ending <;> exact .returned ⟨rfl, .refl _⟩
      refine answered.bind fun answer d₂ both => ?_
      obtain ⟨verdict, aside₂⟩ := both
      have before := aside₁.then_aside aside₂
      cases answer with
      | none => exact .returned (.hangs verdict.symm before)
      | some answer => exact conclude_moves before rfl verdict.symm
    · simp only [inTime, if_false]
      exact conclude_moves (.refl d) rfl (if_neg inTime)

/-- Everything that an attempt does is one of the moves. -/
theorem Phase.step_moves (cfg : Config) {p : Phase} (sound : p.IsSound) (d : OrderDesk) :
    Yields (p.step cfg) d fun p' d' => Move cfg d d' p p' := by
  cases p with
  | reading purpose id =>
    refine (findOrder_yields id d).bind fun r d' ⟨aside, found⟩ => ?_
    match r with
    | .error e => exact .returned (.quits rfl rfl aside)
    | .ok none => exact .returned (.quits rfl rfl aside)
    | .ok (some order) => exact .returned (.finds (found _ rfl).symm aside)
  | readingPayment purpose order =>
    refine (findPayment_yields order.id d).bind fun r d' ⟨aside, found⟩ => ?_
    match r with
    | .error e => exact .returned (.quits rfl rfl aside)
    | .ok none => exact .returned (.quits rfl rfl aside)
    | .ok (some payment) =>
      by_cases unpaid : isOpen purpose order payment = true
      · simp only [unpaid, not_true_eq_false, if_false]
        cases purpose with
        | charge => exact .returned (.prepares (found _ rfl) unpaid aside)
        | expire =>
          refine (giveUp_yields _ _ _ d').mono fun p' d'' ⟨eventId, shape, fresh, aside'⟩ => ?_
          subst shape
          exact .expires (found _ rfl) unpaid (fresh.preceded aside.around)
            (aside.then_aside aside')
      · simp only [unpaid]
        exact .returned (.quits rfl rfl aside)
  | claiming order payment =>
    have sound : order.status = .pending := sound
    refine (swapStatus_yields order.id order.status .processing d).bind fun r d' swaps => ?_
    rcases swaps with ⟨lost, aside⟩ | ⟨current, rfl, found, expected, writes⟩
    · match r with
      | .error e => exact .returned (.quits rfl rfl aside)
      | .ok false => exact .returned (.quits rfl rfl aside)
      | .ok true => exact absurd rfl lost
    · exact .returned (.claims found (expected.trans sound) writes)
  | asking c => exact ask_moves rfl
  | pausing c wake => exact ask_moves rfl
  | calling c call ready deadline => exact calling_moves sound
  | hanging c deadline => exact conclude_moves (.refl d) rfl rfl
  | settling o retries => exact settle_moves rfl retries
  | pausingToSettle o retries wake => exact settle_moves rfl retries
  | done result => exact .returned (.rests (.refl d))

/-- A move leaves a sound attempt and a plain gateway behind, and dispatches nothing. -/
theorem Move.sound {d' : OrderDesk} {p p' : Phase} (move : Move cfg d d' p p')
    (plain : d.gateway.IsPlain) :
    p'.IsSound ∧ d'.gateway.IsPlain ∧ d'.dispatched = d.dispatched := by
  cases move with
  | quits _ _ aside | finds _ aside | expires _ _ _ aside | refused _ _ aside | hangs _ aside
  | confirmed _ _ _ aside | pauses _ _ _ _ aside | givesUp _ _ _ aside
  | breaksOff _ _ _ _ _ aside | rests aside =>
    exact ⟨trivial, aside.gateway ▸ plain, aside.dispatched⟩
  | prepares _ unpaid aside =>
    refine ⟨?_, aside.gateway ▸ plain, aside.dispatched⟩
    simp only [isOpen, Bool.and_eq_true, decide_eq_true_eq] at unpaid
    exact unpaid.2
  | claims _ _ writes => exact ⟨trivial, writes.gateway ▸ plain, writes.dispatched⟩
  | @calls _ c call _ calls =>
    have started := plain.start c.request d.around.now
    rw [calls.started] at started
    exact ⟨started.1, started.2.1, calls.dispatched⟩
  | settled _ does | waitsToSettle _ does | failsToSettle _ does =>
    obtain ⟨_, writes⟩ := does.writes
    exact ⟨trivial, writes.gateway ▸ plain, writes.dispatched⟩

/-- A move is a call of the store, or one of the gateway. -/
theorem Move.does {d' : OrderDesk} {p p' : Phase} (move : Move cfg d d' p p') :
    (∃ book, Writes d d' book) ∨ ∃ c call, p.asks? = some c ∧ Calls d d' c.request call := by
  cases move with
  | quits _ _ aside | finds _ aside | prepares _ _ aside | expires _ _ _ aside | refused _ _ aside
  | hangs _ aside | confirmed _ _ _ aside | pauses _ _ _ _ aside | givesUp _ _ _ aside
  | breaksOff _ _ _ _ _ aside | rests aside => exact .inl ⟨_, aside⟩
  | claims _ _ writes => exact .inl ⟨_, writes⟩
  | calls asks calls => exact .inr ⟨_, _, asks, calls⟩
  | settled _ does | waitsToSettle _ does | failsToSettle _ does => exact .inl does.writes

/-- The log of the gateway only grows. -/
theorem Move.log {d' : OrderDesk} {p p' : Phase} (move : Move cfg d d' p p')
    (plain : d.gateway.IsPlain) : d.gateway.calls <+: d'.gateway.calls := by
  rcases move.does with ⟨_, writes⟩ | ⟨c, call, -, calls⟩
  · exact ⟨[], by rw [writes.gateway, List.append_nil]⟩
  · have started := (plain.start c.request d.around.now).2.2
    rw [calls.started] at started
    exact ⟨_, started.symm⟩

/-- Time stands still while an attempt moves. -/
theorem Move.follows {d' : OrderDesk} {p p' : Phase} (move : Move cfg d d' p p') :
    d.around.Follows d'.around := by
  rcases move.does with ⟨_, writes⟩ | ⟨_, _, -, calls⟩
  · exact writes.around
  · exact calls.around

/-- An attempt sends nothing. -/
theorem Move.broker {d' : OrderDesk} {p p' : Phase} (move : Move cfg d d' p p') :
    d'.broker = d.broker := by
  rcases move.does with ⟨_, writes⟩ | ⟨_, _, -, calls⟩
  · exact writes.broker
  · exact calls.broker

theorem Phase.isSound_of_isFresh (p : Phase) (fresh : p.isFresh = true) : p.IsSound := by
  cases p <;> trivial

/-! ## Sweeps -/

/-- The attempt that a sweep makes. -/
def Sweep.attempt? : Sweep → Option Phase
  | .charging attempt .. | .expiring attempt .. => some attempt
  | _ => none

/-- A sweep with its attempt in another phase. -/
def Sweep.with (attempt : Phase) : Sweep → Sweep
  | .charging _ more start settled => .charging attempt more start settled
  | .expiring _ more settled => .expiring attempt more settled
  | s => s

theorem Sweep.attempt?_with {s : Sweep} {p : Phase} (under : s.attempt? = some p) (p' : Phase) :
    (s.with p').attempt? = some p' := by
  cases s <;> first | rfl | cases under

/-- A sweep that has not begun with an attempt. -/
def Sweep.IsIdle (s : Sweep) : Prop := ∀ p, s.attempt? = some p → p.isFresh = true

/-- A sweep moves its attempt, or goes on to the next one while the desk rests. -/
inductive Sweep.Move (cfg : Config) (d d' : OrderDesk) : Sweep → Sweep → Prop where
  | attempts {s : Sweep} {p p' : Phase} (under : s.attempt? = some p) (running : p.isDone = false)
      (move : Payment.Move cfg d d' p p') : Move cfg d d' s (s.with p')
  | turns {s s' : Sweep} (ended : ∀ p, s.attempt? = some p → p.isDone = true) (idle : s'.IsIdle)
      (aside : Aside d d') : Move cfg d d' s s'

theorem Sweep.charge_isIdle (start : Instant) (settled : Nat) (ids : List Uuid) :
    (Sweep.charge start settled ids).IsIdle := by
  cases ids with
  | nil => exact fun p under => nomatch under
  | cons id more => exact fun p under => by cases under; rfl

theorem Sweep.expire_isIdle (settled : Nat) (ids : List Uuid) :
    (Sweep.expire settled ids).IsIdle := by
  cases ids with
  | nil => exact fun p under => nomatch under
  | cons id more => exact fun p under => by cases under; rfl

theorem Sweep.done_isIdle (r : Except OrderError Nat) : (Sweep.done r).IsIdle :=
  fun _ under => nomatch under

theorem Sweep.search_yields (cutoff : Instant)
    (find : Instant → StateM OrderDesk (Except OrderError (List Uuid))) {next : List Uuid → Sweep}
    (found : ∀ d, Yields (find cutoff) d fun _ d' => Aside d d') (idle : ∀ ids, (next ids).IsIdle)
    (d : OrderDesk) :
    Yields (Sweep.search cutoff find next) d fun s d' => s.IsIdle ∧ Aside d d' := by
  unfold Sweep.search
  split
  · exact .returned ⟨done_isIdle _, .refl d⟩
  · refine (found d).bind fun r d' aside => ?_
    cases r with
    | error e => exact .returned ⟨done_isIdle _, aside⟩
    | ok ids => exact .returned ⟨idle ids, aside⟩

theorem Phase.isDone_iff (p : Phase) : p.isDone = true ↔ ∃ result, p = .done result := by
  cases p <;> simp [isDone]

/-- A sweep goes on with an attempt that is not at its end. -/
theorem Sweep.step_charging (cfg : Config) (r : Recovery) {attempt : Phase}
    (running : attempt.isDone = false) (more : List Uuid) (start : Instant) (settled : Nat) :
    (charging attempt more start settled).step cfg r =
      do return charging (← attempt.step cfg) more start settled := by
  cases attempt <;> first | rfl | cases running

theorem Sweep.step_expiring (cfg : Config) (r : Recovery) {attempt : Phase}
    (running : attempt.isDone = false) (more : List Uuid) (settled : Nat) :
    (expiring attempt more settled).step cfg r =
      do return expiring (← attempt.step cfg) more settled := by
  cases attempt <;> first | rfl | cases running

theorem Sweep.step_moves (cfg : Config) (r : Recovery) {s : Sweep}
    (sound : ∀ p, s.attempt? = some p → p.IsSound) (d : OrderDesk) :
    Yields (s.step cfg r) d fun s' d' => Sweep.Move cfg d d' s s' := by
  cases s with
  | seekingStalled =>
    refine (lift_yields (clock_yields d.around)).bind fun now d' ⟨_, aside⟩ => ?_
    refine (search_yields _ (findStalled · r.batchSize) (fun d => find_yields _ d)
      (charge_isIdle now 0) d').mono fun s d'' ⟨idle, aside'⟩ => ?_
    exact .turns (fun _ under => nomatch under) idle (aside.then_aside aside')
  | seekingUnsettled start settled =>
    refine (search_yields _ (findUnsettled · r.batchSize) (fun d => find_yields _ d)
      (expire_isIdle settled) d).mono fun s d' ⟨idle, aside⟩ => ?_
    exact .turns (fun _ under => nomatch under) idle aside
  | done result =>
    exact .returned (.turns (fun _ under => nomatch under) (done_isIdle _) (.refl d))
  | charging attempt more start settled =>
    by_cases running : attempt.isDone = false
    · rw [step_charging cfg r running]
      exact (Phase.step_moves cfg (sound attempt rfl) d).bind fun p' d' move =>
        .returned (.attempts rfl running move)
    · obtain ⟨result, rfl⟩ := attempt.isDone_iff.mp (by simpa using running)
      refine .returned (.turns (fun _ under => by cases under; rfl) ?_ (.refl d))
      split
      · exact done_isIdle _
      · exact charge_isIdle _ _ _
  | expiring attempt more settled =>
    by_cases running : attempt.isDone = false
    · rw [step_expiring cfg r running]
      exact (Phase.step_moves cfg (sound attempt rfl) d).bind fun p' d' move =>
        .returned (.attempts rfl running move)
    · obtain ⟨result, rfl⟩ := attempt.isDone_iff.mp (by simpa using running)
      refine .returned (.turns (fun _ under => by cases under; rfl) ?_ (.refl d))
      split
      · exact done_isIdle _
      · exact expire_isIdle _ _

theorem Sweep.Move.broker {d' : OrderDesk} {s s' : Sweep} (move : Sweep.Move cfg d d' s s') :
    d'.broker = d.broker := by
  cases move with
  | attempts _ _ move => exact move.broker
  | turns _ _ aside => exact aside.broker

theorem Sweep.Move.follows {d' : OrderDesk} {s s' : Sweep} (move : Sweep.Move cfg d d' s s') :
    d.around.Follows d'.around := by
  cases move with
  | attempts _ _ move => exact move.follows
  | turns _ _ aside => exact aside.around

theorem Sweep.Move.sound {d' : OrderDesk} {s s' : Sweep} (move : Sweep.Move cfg d d' s s')
    (plain : d.gateway.IsPlain) :
    (∀ p, s'.attempt? = some p → p.IsSound) ∧ d'.gateway.IsPlain ∧
      d'.dispatched = d.dispatched := by
  cases move with
  | @attempts p p' under running move =>
    obtain ⟨sound, rest⟩ := move.sound plain
    refine ⟨fun q now => ?_, rest⟩
    cases (Sweep.attempt?_with under p').symm.trans now
    exact sound
  | turns ended idle aside =>
    refine ⟨fun p under => ?_, aside.gateway ▸ plain, aside.dispatched⟩
    exact p.isSound_of_isFresh (idle p under)

end Payment

end OrderFlow
