import OrderFlow.Proofs.Traffic.Settlement

/-!
The story of one attempt to pay: everything that it has done, the first thing first. `Story` says
what holds of such a story when the attempt stands in a phase, and `Story.move` that every move of
the attempt goes on with the story as it should.
-/
namespace OrderFlow

variable {_ : EmailCheck}

/-- The outcome that an attempt has come to. -/
def Payment.Phase.outcome? : Payment.Phase → Option PaymentOutcome
  | .settling o _ | .pausingToSettle o _ _ => some o
  | .done r => Payment.outcome? r
  | _ => none

namespace Happening

/-- The calls that the gateway has got. -/
def charged (h : Happening) : List Gateway.LoggedCall :=
  h.later.gateway.calls.drop h.earlier.gateway.calls.length

/-- The order `x` was moved from `pending` to `processing`. -/
def Claims (h : Happening) (x : Uuid) : Prop :=
  (∃ order, h.earlier.book.findOrder x = some order ∧ order.status = .pending) ∧
    ∃ order, h.later.book.findOrder x = some order ∧ order.status = .processing

/-- What has come of a call of the gateway that the attempt was waiting for. -/
def verdict? (timeout : Span) (h : Happening) : Option (Except PaymentError String) :=
  h.before.attempt?.bind (·.verdict? timeout)

/-- The breaker was asked and let no call through. -/
def Refused (h : Happening) : Prop :=
  (h.before.attempt?.bind (·.asks?)).isSome = true ∧ h.charged = []

theorem charged_of_same {h : Happening} (same : h.later.gateway = h.earlier.gateway) :
    h.charged = [] := by
  simp [charged, same]

/-- The gateway must not be called again: it has confirmed the charge or refused it for good, or was
not to be called. -/
def IsFinal (timeout : Span) (h : Happening) : Prop :=
  h.Refused ∨ ∃ v, h.verdict? timeout = some v ∧ ∀ e, v = .error e → e.retryable = false

/-- The attempt goes to settle the payment with the outcome `o`, or has done so. -/
def Concludes (h : Happening) (o : PaymentOutcome) : Prop :=
  h.before.attempt?.bind (·.settles?) = some o ∨ h.after.attempt?.bind (·.outcome?) = some o

end Happening

/-- The calls of the gateway in a story. -/
def callsIn (hs : List Happening) : List Gateway.LoggedCall := hs.flatMap (·.charged)

/-- What has come of the calls in a story. -/
def verdictsIn (timeout : Span) (hs : List Happening) : List (Except PaymentError String) :=
  hs.filterMap (·.verdict? timeout)

/-- What an outcome tells of the story that has led to it. -/
structure Concluded (timeout : Span) (hs : List Happening) (o : PaymentOutcome) : Prop where
  counted : o.attempts = Payment.counter (callsIn hs).length
  answered : (verdictsIn timeout hs).length = (callsIn hs).length
  success : o.result = .success ↔
    ∃ transaction, (verdictsIn timeout hs).getLast? = some (.ok transaction)
  own : ∀ call ∈ callsIn hs, call.request.orderId = o.orderId

/-- Nothing is decided yet. -/
def Undecided (timeout : Span) (hs : List Happening) : Prop :=
  ∀ h ∈ hs, ¬ h.IsFinal timeout ∧ ∀ o, ¬ h.Concludes o

/-- A charge is under way. -/
structure Charging (timeout : Span) (hs : List Happening) (c : Payment.Charge) : Prop where
  undecided : Undecided timeout hs
  claimed : ∃ h ∈ hs, h.Claims c.request.orderId
  own : ∀ call ∈ callsIn hs, call.request = c.request
  counted : (callsIn hs).length = c.calls
  failed : ∀ v ∈ verdictsIn timeout hs, ∃ e, v = .error e

/-- What holds of a story when the attempt stands in a phase. -/
def Stands (policy : PaymentPolicy) (hs : List Happening) : Payment.Phase → Prop
  | .reading .. | .readingPayment .. | .claiming .. =>
    Undecided policy.callTimeout hs ∧ callsIn hs = [] ∧ verdictsIn policy.callTimeout hs = []
  | .asking c | .pausing c _ =>
    Charging policy.callTimeout hs c ∧ (verdictsIn policy.callTimeout hs).length = c.calls ∧
      c.calls = c.retries ∧ c.retries ≤ policy.retry.maxRetries
  | .calling c .. | .hanging c _ =>
    Charging policy.callTimeout hs c ∧ (verdictsIn policy.callTimeout hs).length + 1 = c.calls ∧
      c.calls = c.retries + 1 ∧ c.retries ≤ policy.retry.maxRetries
  | .settling o _ | .pausingToSettle o _ _ => Concluded policy.callTimeout hs o
  | .done r => ∀ o, Payment.outcome? r = some o → Concluded policy.callTimeout hs o

/-- The story of an attempt that stands in the phase `p`. -/
structure Story (policy : PaymentPolicy) (hs : List Happening) (p : Payment.Phase) : Prop where
  /-- No call before the order was claimed. -/
  claimed : ∀ a h b, hs = a ++ h :: b → ∀ call ∈ h.charged,
    ∃ c ∈ a, c.Claims call.request.orderId
  /-- No call after the last word. -/
  stops : ∀ a h b, hs = a ++ h :: b → h.IsFinal policy.callTimeout → callsIn b = []
  bounded : (callsIn hs).length ≤ policy.retry.maxRetries + 1
  concludes : ∀ h ∈ hs, ∀ o, h.Concludes o → Concluded policy.callTimeout hs o
  stands : Stands policy hs p

variable {cfg : Payment.Config} {policy : PaymentPolicy} {timeout : Span} {hs : List Happening}
  {h : Happening} {p p' : Payment.Phase}

@[simp] theorem callsIn_snoc : callsIn (hs ++ [h]) = callsIn hs ++ h.charged := by
  simp [callsIn]

@[simp] theorem verdictsIn_snoc :
    verdictsIn timeout (hs ++ [h]) = verdictsIn timeout hs ++ (h.verdict? timeout).toList := by
  cases v : h.verdict? timeout <;> simp [verdictsIn, v]

theorem Undecided.snoc (undecided : Undecided timeout hs) (open_ : ¬ h.IsFinal timeout)
    (silent : ∀ o, ¬ h.Concludes o) : Undecided timeout (hs ++ [h]) := by
  intro h' member
  rcases List.mem_append.mp member with old | new
  · exact undecided h' old
  · rw [List.mem_singleton.mp new]
    exact ⟨open_, silent⟩

/-- What an outcome tells stays true while nothing is called and nothing answered. -/
theorem Concluded.snoc {o : PaymentOutcome} (concluded : Concluded timeout hs o)
    (uncalled : h.charged = []) (unanswered : h.verdict? timeout = none) :
    Concluded timeout (hs ++ [h]) o := by
  have calls : callsIn (hs ++ [h]) = callsIn hs := by simp [uncalled]
  have verdicts : verdictsIn timeout (hs ++ [h]) = verdictsIn timeout hs := by simp [unanswered]
  refine ⟨?_, ?_, ?_, ?_⟩
  · rw [calls]
    exact concluded.counted
  · rw [calls, verdicts]
    exact concluded.answered
  · rw [verdicts]
    exact concluded.success
  · rw [calls]
    exact concluded.own

theorem Story.empty (policy : PaymentPolicy) (fresh : p.isFresh = true) : Story policy [] p := by
  refine ⟨?_, ?_, Nat.zero_le _, ?_, ?_⟩
  · intro a h b split
    simp at split
  · intro a h b split
    simp at split
  · intro h member
    cases member
  · cases p <;> first | exact ⟨(fun h member => nomatch member), rfl, rfl⟩ | cases fresh

/-- A place in a story that goes on is a place in the story so far, or the new end. -/
private theorem snoc_split {a b : List Happening} {h' : Happening}
    (split : hs ++ [h] = a ++ h' :: b) :
    (a = hs ∧ h' = h ∧ b = []) ∨ ∃ b', b = b' ++ [h] ∧ hs = a ++ h' :: b' := by
  rcases List.eq_nil_or_concat b with rfl | ⟨b', last, rfl⟩
  · obtain ⟨same, ends⟩ := List.append_inj' split rfl
    exact .inl ⟨same.symm, (List.cons.inj ends).1.symm, rfl⟩
  · have split : hs ++ [h] = (a ++ h' :: b') ++ [last] := by simpa using split
    obtain ⟨same, ends⟩ := List.append_inj' split rfl
    cases ends
    exact .inr ⟨b', by simp, same⟩

/-- A story goes on. -/
theorem Story.snoc (story : Story policy hs p)
    (claimed : ∀ call ∈ h.charged, ∃ c ∈ hs, c.Claims call.request.orderId)
    (stops : h.charged = [] ∨ Undecided policy.callTimeout hs)
    (bounded : (callsIn (hs ++ [h])).length ≤ policy.retry.maxRetries + 1)
    (keeps : Undecided policy.callTimeout hs ∨
      h.charged = [] ∧ h.verdict? policy.callTimeout = none)
    (concludes : ∀ o, h.Concludes o → Concluded policy.callTimeout (hs ++ [h]) o)
    (stands : Stands policy (hs ++ [h]) p') : Story policy (hs ++ [h]) p' := by
  refine ⟨?_, ?_, bounded, ?_, stands⟩
  · intro a h' b split call member
    rcases snoc_split split with ⟨rfl, rfl, rfl⟩ | ⟨b', rfl, before⟩
    · exact claimed call member
    · exact story.claimed a h' b' before call member
  · intro a h' b split last
    rcases snoc_split split with ⟨rfl, rfl, rfl⟩ | ⟨b', rfl, before⟩
    · rfl
    · rcases stops with uncalled | undecided
      · rw [callsIn_snoc, story.stops a h' b' before last, uncalled]
        rfl
      · have member : h' ∈ hs := by simp [before]
        exact absurd last (undecided h' member).1
  · intro h' member o conc
    rcases List.mem_append.mp member with old | new
    · rcases keeps with undecided | ⟨uncalled, unanswered⟩
      · exact absurd conc ((undecided h' old).2 o)
      · exact (story.concludes h' old o conc).snoc uncalled unanswered
    · rw [List.mem_singleton.mp new] at conc
      exact concludes o conc

/-! ## Where an attempt stands -/

section
variable {c : Payment.Charge} {o : PaymentOutcome}

theorem Stands.early (stands : Stands policy hs p) (early : p.isEarly = true) :
    Undecided policy.callTimeout hs ∧ callsIn hs = [] ∧ verdictsIn policy.callTimeout hs = [] := by
  cases p <;> first | exact stands | cases early

theorem Stands.asks (stands : Stands policy hs p) (asks : p.asks? = some c) :
    Charging policy.callTimeout hs c ∧ (verdictsIn policy.callTimeout hs).length = c.calls ∧
      c.calls = c.retries ∧ c.retries ≤ policy.retry.maxRetries := by
  cases p <;> cases asks <;> exact stands

theorem Stands.awaits (stands : Stands policy hs p) (awaits : p.awaits? = some c) :
    Charging policy.callTimeout hs c ∧ (verdictsIn policy.callTimeout hs).length + 1 = c.calls ∧
      c.calls = c.retries + 1 ∧ c.retries ≤ policy.retry.maxRetries := by
  cases p <;> cases awaits <;> exact stands

theorem Stands.settles (stands : Stands policy hs p) (settles : p.settles? = some o) :
    Concluded policy.callTimeout hs o := by
  cases p <;> cases settles <;> exact stands

end

/-! ## What a move adds to the story -/

/-- The attempt has moved from the phase `p` to the phase `p'`. -/
structure Happening.Moves (cfg : Payment.Config) (h : Happening) (p p' : Payment.Phase) : Prop where
  before : h.before.attempt? = some p
  after : h.after.attempt? = some p'
  plain : h.earlier.gateway.IsPlain
  move : ∃ desk, h.later = h.earlier.withOrderDesk desk ∧
    Payment.Move cfg h.earlier.orderDesk desk p p'

namespace Happening.Moves

theorem verdict? (moves : h.Moves cfg p p') (timeout : Span) :
    h.verdict? timeout = p.verdict? timeout := by
  simp [Happening.verdict?, moves.before]

theorem concludes_iff (moves : h.Moves cfg p p') (o : PaymentOutcome) :
    h.Concludes o ↔ p.settles? = some o ∨ p'.outcome? = some o := by
  simp [Happening.Concludes, moves.before, moves.after]

theorem refused_iff (moves : h.Moves cfg p p') :
    h.Refused ↔ p.asks?.isSome = true ∧ h.charged = [] := by
  simp [Happening.Refused, moves.before]

end Happening.Moves

section
variable {c : Payment.Charge} {o : PaymentOutcome} {v : Except PaymentError String}

theorem Payment.Phase.of_early (timeout : Span) (early : p.isEarly = true) :
    p.asks? = none ∧ p.verdict? timeout = none ∧ p.settles? = none := by
  cases p <;> first | exact ⟨rfl, rfl, rfl⟩ | cases early

theorem Payment.Phase.of_asks (timeout : Span) (asks : p.asks? = some c) :
    p.verdict? timeout = none ∧ p.settles? = none := by
  cases p <;> cases asks <;> exact ⟨rfl, rfl⟩

theorem Payment.Phase.of_awaits (awaits : p.awaits? = some c) :
    p.asks? = none ∧ p.settles? = none := by
  cases p <;> cases awaits <;> exact ⟨rfl, rfl⟩

theorem Payment.Phase.of_settles (timeout : Span) (settles : p.settles? = some o) :
    p.verdict? timeout = none := by
  cases p <;> cases settles <;> rfl

/-- What does not ask the breaker, or is let through, is not the last word as long as trying again
can help. -/
theorem Happening.Moves.not_final (moves : h.Moves cfg p p')
    (open_ : p.asks? = none ∨ h.charged ≠ [])
    (passing : ∀ v, p.verdict? timeout = some v → ∃ e, v = .error e ∧ e.retryable = true) :
    ¬ h.IsFinal timeout := by
  rintro (refused | ⟨v, verdict, last⟩)
  · obtain ⟨asks, uncalled⟩ := moves.refused_iff.mp refused
    rcases open_ with none | called
    · rw [none] at asks
      cases asks
    · exact called uncalled
  · rw [moves.verdict?] at verdict
    obtain ⟨e, rfl, retryable⟩ := passing v verdict
    rw [last e rfl] at retryable
    cases retryable

/-- What neither is the last word nor comes to an outcome leaves everything undecided. -/
theorem Undecided.move (undecided : Undecided timeout hs) (moves : h.Moves cfg p p')
    (open_ : p.asks? = none ∨ h.charged ≠ [])
    (passing : ∀ v, p.verdict? timeout = some v → ∃ e, v = .error e ∧ e.retryable = true)
    (settles : p.settles? = none) (none : p'.outcome? = none) :
    Undecided timeout (hs ++ [h]) := by
  refine undecided.snoc (moves.not_final open_ passing) fun o conc => ?_
  rw [moves.concludes_iff, settles, none] at conc
  exact conc.elim nofun nofun

/-- The story goes on without a call. -/
theorem Story.uncalled (story : Story policy hs p) (uncalled : h.charged = [])
    (keeps : Undecided policy.callTimeout hs ∨ h.verdict? policy.callTimeout = none)
    (concludes : ∀ o, h.Concludes o → Concluded policy.callTimeout (hs ++ [h]) o)
    (stands : Stands policy (hs ++ [h]) p') : Story policy (hs ++ [h]) p' := by
  refine story.snoc ?_ (.inl uncalled) ?_ (keeps.imp_right (⟨uncalled, ·⟩)) concludes stands
  · intro call member
    rw [uncalled] at member
    cases member
  · rw [callsIn_snoc, uncalled, List.append_nil]
    exact story.bounded

theorem Concluded.of_silent (silent : callsIn hs = []) (unheard : verdictsIn timeout hs = [])
    (untried : o.attempts = 0) (failed : o.result = .failed) : Concluded timeout hs o := by
  have counted : o.attempts = Payment.counter (callsIn hs).length := by
    rw [silent, untried]
    exact (Payment.counter_of_lt (by decide)).symm
  refine ⟨counted, by simp [silent, unheard], ?_, by simp [silent]⟩
  simp [failed, unheard]

/-- The breaker has ended a charge. -/
theorem Charging.refused (charging : Charging timeout hs c)
    (due : (verdictsIn timeout hs).length = c.calls) (order : o.orderId = c.request.orderId)
    (attempts : o.attempts = Payment.counter c.calls) (failed : o.result = .failed) :
    Concluded timeout hs o := by
  refine ⟨by rw [attempts, charging.counted], due.trans charging.counted.symm, ?_, ?_⟩
  · rw [failed]
    refine ⟨nofun, fun ⟨transaction, last⟩ => ?_⟩
    obtain ⟨e, wrong⟩ := charging.failed _ (List.mem_of_getLast? last)
    cases wrong
  · intro call member
    rw [charging.own call member, order]

/-- An answer of the gateway has ended a charge. -/
theorem Charging.answered (charging : Charging timeout hs c)
    (due : (verdictsIn timeout hs).length + 1 = c.calls) (uncalled : h.charged = [])
    (verdict : h.verdict? timeout = some v) (order : o.orderId = c.request.orderId)
    (attempts : o.attempts = Payment.counter c.calls)
    (success : o.result = .success ↔ ∃ transaction, v = .ok transaction) :
    Concluded timeout (hs ++ [h]) o := by
  have calls : callsIn (hs ++ [h]) = callsIn hs := by simp [uncalled]
  have verdicts : verdictsIn timeout (hs ++ [h]) = verdictsIn timeout hs ++ [v] := by
    simp [verdict]
  refine ⟨by rw [calls, attempts, charging.counted], ?_, ?_, ?_⟩
  · rw [calls, verdicts, List.length_append, charging.counted]
    exact due
  · rw [verdicts, List.getLast?_concat, success]
    simp
  · intro call member
    rw [calls] at member
    rw [charging.own call member, order]

/-- A charge goes on. -/
theorem Charging.snoc {c' : Payment.Charge} (charging : Charging timeout hs c)
    (undecided : Undecided timeout (hs ++ [h])) (same : c'.request = c.request)
    (own : ∀ call ∈ h.charged, call.request = c.request)
    (counted : c'.calls = c.calls + h.charged.length)
    (failed : ∀ v, h.verdict? timeout = some v → ∃ e, v = .error e) :
    Charging timeout (hs ++ [h]) c' := by
  refine ⟨undecided, ?_, ?_, ?_, ?_⟩
  · obtain ⟨first, member, claims⟩ := charging.claimed
    rw [same]
    exact ⟨first, List.mem_append_left _ member, claims⟩
  · intro call member
    rw [same]
    rw [callsIn_snoc] at member
    exact (List.mem_append.mp member).elim (charging.own call) (own call)
  · rw [callsIn_snoc, List.length_append, charging.counted, counted]
  · intro v member
    rw [verdictsIn_snoc] at member
    rcases List.mem_append.mp member with old | new
    · exact charging.failed v old
    · exact failed v (Option.mem_toList.mp new)

/-- A charge goes on without a call. -/
theorem Charging.waits {c' : Payment.Charge} (charging : Charging timeout hs c)
    (undecided : Undecided timeout (hs ++ [h])) (uncalled : h.charged = [])
    (same : c'.request = c.request) (counted : c'.calls = c.calls)
    (failed : ∀ v, h.verdict? timeout = some v → ∃ e, v = .error e) :
    Charging timeout (hs ++ [h]) c' := by
  refine charging.snoc undecided same (fun call member => ?_) ?_ failed
  · rw [uncalled] at member
    cases member
  · rw [uncalled]
    exact counted

/-- The story of an attempt that has not yet moved its order. -/
theorem Story.early (story : Story cfg.policy hs p) (moves : h.Moves cfg p p')
    (early : p.isEarly = true) (uncalled : h.charged = [])
    (concludes : ∀ o, p'.outcome? = some o → Concluded cfg.policy.callTimeout (hs ++ [h]) o)
    (stands : (p'.outcome? = none → Undecided cfg.policy.callTimeout (hs ++ [h])) →
      callsIn (hs ++ [h]) = [] → verdictsIn cfg.policy.callTimeout (hs ++ [h]) = [] →
      Stands cfg.policy (hs ++ [h]) p') :
    Story cfg.policy (hs ++ [h]) p' := by
  obtain ⟨undecided, silent, unheard⟩ := story.stands.early early
  obtain ⟨asks, unanswered, settles⟩ := p.of_early cfg.policy.callTimeout early
  rw [← moves.verdict?] at unanswered
  refine story.uncalled uncalled (.inl undecided) (fun o conc => ?_) (stands (fun none => ?_) ?_ ?_)
  · rw [moves.concludes_iff, settles] at conc
    exact concludes o (conc.resolve_left nofun)
  · refine undecided.move moves (.inl asks) (fun v verdict => ?_) settles none
    rw [← moves.verdict?, unanswered] at verdict
    cases verdict
  · rw [callsIn_snoc, silent, uncalled]
    rfl
  · rw [verdictsIn_snoc, unheard, unanswered]
    rfl

/-- The story of an attempt whose call was answered, or cut off. -/
theorem Story.answered (story : Story cfg.policy hs p) (moves : h.Moves cfg p p')
    (awaits : p.awaits? = some c) (uncalled : h.charged = [])
    (concludes : ∀ o, p'.outcome? = some o → Concluded cfg.policy.callTimeout (hs ++ [h]) o)
    (stands : Stands cfg.policy (hs ++ [h]) p') : Story cfg.policy (hs ++ [h]) p' := by
  obtain ⟨charging, -⟩ := story.stands.awaits awaits
  refine story.uncalled uncalled (.inl charging.undecided) (fun o conc => ?_) stands
  rw [moves.concludes_iff, (p.of_awaits awaits).2] at conc
  exact concludes o (conc.resolve_left nofun)

/-- The story of an attempt that has its outcome. -/
theorem Story.settles (story : Story cfg.policy hs p) (moves : h.Moves cfg p p')
    (settles : p.settles? = some o) (uncalled : h.charged = [])
    (same : ∀ o', p'.outcome? = some o' → o' = o)
    (stands : Concluded cfg.policy.callTimeout (hs ++ [h]) o → Stands cfg.policy (hs ++ [h]) p') :
    Story cfg.policy (hs ++ [h]) p' := by
  have unanswered : h.verdict? cfg.policy.callTimeout = none := by
    rw [moves.verdict?, p.of_settles _ settles]
  have concluded := (story.stands.settles settles).snoc uncalled unanswered
  refine story.uncalled uncalled (.inr unanswered) (fun o' conc => ?_) (stands concluded)
  rw [moves.concludes_iff, settles] at conc
  rcases conc with begun | ended
  · cases begun
    exact concluded
  · rw [same o' ended]
    exact concluded

/-- The story of an attempt that the breaker lets through. -/
theorem Story.calls (story : Story cfg.policy hs p) (asks : p.asks? = some c)
    {call : Gateway.Call} {ready deadline : Instant}
    (moves : h.Moves cfg p (.calling { c with calls := c.calls + 1 } call ready deadline))
    (called : h.charged = [⟨h.earlier.around.now, c.request⟩]) :
    Story cfg.policy (hs ++ [h])
      (.calling { c with calls := c.calls + 1 } call ready deadline) := by
  obtain ⟨charging, due, counted, left⟩ := story.stands.asks asks
  obtain ⟨unanswered, settles⟩ := p.of_asks cfg.policy.callTimeout asks
  rw [← moves.verdict?] at unanswered
  have undecided : Undecided cfg.policy.callTimeout (hs ++ [h]) := by
    refine charging.undecided.move moves (.inr ?_) (fun v verdict => ?_) settles rfl
    · rw [called]
      exact List.cons_ne_nil _ _
    · rw [← moves.verdict?, unanswered] at verdict
      cases verdict
  have own : ∀ call ∈ h.charged, call.request = c.request := by
    rw [called]
    intro call member
    rw [List.mem_singleton.mp member]
  have goes_on : Charging cfg.policy.callTimeout (hs ++ [h]) { c with calls := c.calls + 1 } := by
    refine charging.snoc undecided rfl own (by rw [called]; rfl) fun v verdict => ?_
    rw [unanswered] at verdict
    cases verdict
  have heard : (verdictsIn cfg.policy.callTimeout (hs ++ [h])).length = c.calls := by
    rw [verdictsIn_snoc, unanswered, Option.toList_none, List.append_nil, due]
  refine story.snoc (fun call member => ?_) (.inr charging.undecided) ?_ (.inl charging.undecided)
    (fun o conc => ?_) ⟨goes_on, by rw [heard], by rw [counted], left⟩
  · rw [own call member]
    exact charging.claimed
  · rw [goes_on.counted, counted]
    exact Nat.succ_le_succ left
  · rw [moves.concludes_iff, settles] at conc
    exact conc.elim nofun nofun

/-- The story of an attempt that moves its order: from now on it charges. -/
theorem Story.claims (story : Story cfg.policy hs p) (early : p.isEarly = true)
    {request : ChargeRequest} (moves : h.Moves cfg p (.asking { request }))
    (uncalled : h.charged = []) (claims : h.Claims request.orderId) :
    Story cfg.policy (hs ++ [h]) (.asking { request }) := by
  refine story.early moves early uncalled (fun o conc => nomatch conc) ?_
  intro undecided silent unheard
  refine ⟨⟨undecided rfl, ⟨h, by simp, claims⟩, ?_, by rw [silent]; rfl, ?_⟩, ?_, rfl,
    Nat.zero_le _⟩
  · rw [silent]
    intro call member
    cases member
  · rw [unheard]
    intro v member
    cases member
  · rw [unheard]
    rfl

/-- The story of an attempt that the breaker has ended. -/
theorem Story.refused (story : Story cfg.policy hs p) (asks : p.asks? = some c)
    (moves : h.Moves cfg p (.settling o 0)) (uncalled : h.charged = [])
    (order : o.orderId = c.request.orderId) (attempts : o.attempts = Payment.counter c.calls)
    (failed : o.result = .failed) : Story cfg.policy (hs ++ [h]) (.settling o 0) := by
  obtain ⟨charging, due, -⟩ := story.stands.asks asks
  obtain ⟨unanswered, settles⟩ := p.of_asks cfg.policy.callTimeout asks
  rw [← moves.verdict?] at unanswered
  have concluded := (charging.refused due order attempts failed).snoc uncalled unanswered
  refine story.uncalled uncalled (.inr unanswered) (fun o' conc => ?_) concluded
  rw [moves.concludes_iff, settles] at conc
  cases conc.resolve_left nofun
  exact concluded

/-- The story of an attempt whose call has no answer yet. -/
theorem Story.hangs (story : Story cfg.policy hs p) (awaits : p.awaits? = some c)
    {deadline : Instant} (moves : h.Moves cfg p (.hanging c deadline)) (uncalled : h.charged = [])
    (unanswered : p.verdict? cfg.policy.callTimeout = none) :
    Story cfg.policy (hs ++ [h]) (.hanging c deadline) := by
  obtain ⟨charging, due, counted, left⟩ := story.stands.awaits awaits
  obtain ⟨asks, settles⟩ := p.of_awaits awaits
  have undecided : Undecided cfg.policy.callTimeout (hs ++ [h]) := by
    refine charging.undecided.move moves (.inl asks) (fun v verdict => ?_) settles rfl
    rw [unanswered] at verdict
    cases verdict
  rw [← moves.verdict?] at unanswered
  have goes_on := charging.waits undecided uncalled rfl rfl fun v verdict => by
    rw [unanswered] at verdict
    cases verdict
  refine story.answered moves awaits uncalled (fun o conc => nomatch conc)
    ⟨goes_on, ?_, counted, left⟩
  rw [verdictsIn_snoc, unanswered, Option.toList_none, List.append_nil, due]

/-- The story of an attempt that is going to try again. -/
theorem Story.pauses (story : Story cfg.policy hs p) (awaits : p.awaits? = some c)
    {e : PaymentError} {wake : Instant}
    (moves : h.Moves cfg p (.pausing { c with retries := c.retries + 1 } wake))
    (uncalled : h.charged = []) (verdict : p.verdict? cfg.policy.callTimeout = some (.error e))
    (passing : e.retryable = true) (left : c.retries < cfg.policy.retry.maxRetries) :
    Story cfg.policy (hs ++ [h]) (.pausing { c with retries := c.retries + 1 } wake) := by
  obtain ⟨charging, due, counted, -⟩ := story.stands.awaits awaits
  obtain ⟨asks, settles⟩ := p.of_awaits awaits
  have undecided : Undecided cfg.policy.callTimeout (hs ++ [h]) := by
    refine charging.undecided.move moves (.inl asks) (fun v answer => ?_) settles rfl
    rw [verdict] at answer
    cases answer
    exact ⟨e, rfl, passing⟩
  rw [← moves.verdict?] at verdict
  have goes_on : Charging cfg.policy.callTimeout (hs ++ [h]) { c with retries := c.retries + 1 } :=
    charging.waits undecided uncalled rfl rfl fun v answer => by
      rw [verdict] at answer
      cases answer
      exact ⟨e, rfl⟩
  refine story.answered moves awaits uncalled (fun o conc => nomatch conc)
    ⟨goes_on, ?_, counted, left⟩
  rw [verdictsIn_snoc, verdict, List.length_append]
  exact due

/-- The story of an attempt that an answer has ended. -/
theorem Story.ends (story : Story cfg.policy hs p) (awaits : p.awaits? = some c)
    (moves : h.Moves cfg p (.settling o 0)) (uncalled : h.charged = [])
    (verdict : p.verdict? cfg.policy.callTimeout = some v)
    (order : o.orderId = c.request.orderId) (attempts : o.attempts = Payment.counter c.calls)
    (success : o.result = .success ↔ ∃ transaction, v = .ok transaction) :
    Story cfg.policy (hs ++ [h]) (.settling o 0) := by
  obtain ⟨charging, due, -⟩ := story.stands.awaits awaits
  rw [← moves.verdict?] at verdict
  have concluded := charging.answered due uncalled verdict order attempts success
  exact story.answered moves awaits uncalled (fun o' conc => by cases conc; exact concluded)
    concluded

end

/-- **An attempt goes on with its story as it should.** -/
theorem Story.move (story : Story cfg.policy hs p) (moves : h.Moves cfg p p') :
    Story cfg.policy (hs ++ [h]) p' := by
  obtain ⟨desk, later, move⟩ := moves.move
  have gateway : h.later.gateway = desk.gateway := by
    rw [later]
    rfl
  have quiet (same : desk.gateway = h.earlier.gateway) : h.charged = [] :=
    h.charged_of_same (gateway.trans same)
  cases move with
  | @quits _ r early nothing aside =>
    have none : (Payment.Phase.done r).outcome? = none := nothing
    refine story.early moves early (quiet aside.gateway) (fun o conc => ?_) fun _ _ _ o conc => ?_
    · rw [none] at conc
      cases conc
    · rw [nothing] at conc
      cases conc
  | finds found aside | prepares found unpaid aside =>
    exact story.early moves rfl (quiet aside.gateway) (fun o conc => nomatch conc)
      fun undecided silent unheard => ⟨undecided rfl, silent, unheard⟩
  | @expires order _ eventId found unpaid fresh aside =>
    obtain ⟨-, silent, unheard⟩ := story.stands.early rfl
    have concluded := (Concluded.of_silent
      (o := .failed eventId order.id Payment.expiryReason 0) silent unheard rfl rfl).snoc
        (quiet aside.gateway) (moves.verdict? _)
    exact story.early moves rfl (quiet aside.gateway) (fun o conc => by cases conc; exact concluded)
      fun _ _ _ => concluded
  | @claims order current payment found pending writes =>
    refine story.claims rfl moves (quiet writes.gateway) ⟨⟨current, found, pending⟩,
      current.withStatus .processing h.earlier.around.now, ?_, rfl⟩
    rw [later]
    show desk.book.findOrder order.id = _
    rw [writes.book, OrderBook.findOrder_put, if_pos rfl]
    rfl
  | @calls _ c call asks calls =>
    refine story.calls asks moves ?_
    have started := (moves.plain.start c.request h.earlier.around.now).2.2
    have calls : desk.gateway.calls =
        h.earlier.gateway.calls ++ [⟨h.earlier.around.now, c.request⟩] := by
      rw [← started]
      exact congrArg (·.2.calls) calls.started.symm
    simp [Happening.charged, gateway, calls]
  | refused asks fresh aside =>
    exact story.refused asks moves (quiet aside.gateway) rfl rfl rfl
  | hangs unanswered aside => exact story.hangs rfl moves (quiet aside.gateway) unanswered
  | confirmed awaits verdict fresh aside =>
    exact story.ends awaits moves (quiet aside.gateway) verdict rfl rfl
      (by simp [PaymentOutcome.succeeded])
  | givesUp awaits verdict fresh aside =>
    exact story.ends awaits moves (quiet aside.gateway) verdict rfl rfl
      (by simp [PaymentOutcome.failed])
  | pauses awaits verdict passing left aside =>
    exact story.pauses awaits moves (quiet aside.gateway) verdict passing left
  | breaksOff awaits _ _ _ _ aside =>
    exact story.answered moves awaits (quiet aside.gateway) (fun o conc => nomatch conc)
      fun o same => nomatch same
  | settled settles does =>
    obtain ⟨_, writes⟩ := does.writes
    exact story.settles moves settles (quiet writes.gateway) (fun o' same => by cases same; rfl)
      fun concluded o' same => by cases same; exact concluded
  | waitsToSettle settles does =>
    obtain ⟨_, writes⟩ := does.writes
    exact story.settles moves settles (quiet writes.gateway) (fun o' same => by cases same; rfl)
      fun concluded => concluded
  | failsToSettle settles does =>
    obtain ⟨_, writes⟩ := does.writes
    exact story.settles moves settles (quiet writes.gateway) (fun o' same => nomatch same)
      fun _ o' same => nomatch same
  | @rests r aside =>
    have unanswered : h.verdict? cfg.policy.callTimeout = none := moves.verdict? _
    have concluded (o : PaymentOutcome) (same : Payment.outcome? r = some o) :=
      (story.stands o same).snoc (quiet aside.gateway) unanswered
    refine story.uncalled (quiet aside.gateway) (.inr unanswered) (fun o conc => ?_) concluded
    rw [moves.concludes_iff] at conc
    exact concluded o (conc.resolve_left nofun)

/-! ## What is done in between -/

/-- No attempt has moved. -/
structure Happening.IsIdle (h : Happening) : Prop where
  gateway : h.later.gateway = h.earlier.gateway
  ended : ∀ p, h.before.attempt? = some p → p.isDone = true
  new : ∀ p, h.after.attempt? = some p → p.isFresh = true

namespace Happening.IsIdle

theorem uncalled (idle : h.IsIdle) : h.charged = [] := charged_of_same idle.gateway

theorem unanswered (idle : h.IsIdle) (timeout : Span) : h.verdict? timeout = none := by
  unfold Happening.verdict?
  cases before : h.before.attempt? with
  | none => rfl
  | some p =>
    obtain ⟨r, rfl⟩ := p.isDone_iff.mp (idle.ended p before)
    rfl

theorem not_final (idle : h.IsIdle) (timeout : Span) : ¬ h.IsFinal timeout := by
  rintro (⟨asks, -⟩ | ⟨v, verdict, -⟩)
  · cases before : h.before.attempt? with
    | none => simp [before] at asks
    | some p =>
      obtain ⟨r, rfl⟩ := p.isDone_iff.mp (idle.ended p before)
      simp [before, Payment.Phase.asks?] at asks
  · rw [idle.unanswered] at verdict
    cases verdict

theorem not_concludes (idle : h.IsIdle) (o : PaymentOutcome) : ¬ h.Concludes o := by
  rintro (begun | ended)
  · obtain ⟨p, before, settles⟩ := Option.bind_eq_some_iff.mp begun
    obtain ⟨r, rfl⟩ := p.isDone_iff.mp (idle.ended p before)
    cases settles
  · obtain ⟨p, after, outcome⟩ := Option.bind_eq_some_iff.mp ended
    have fresh := idle.new p after
    cases p <;> cases fresh
    cases outcome

end Happening.IsIdle

/-- The story of an attempt is none the worse for what is done in between. -/
theorem Story.idle (story : Story policy hs p) (idle : h.IsIdle) : Story policy (hs ++ [h]) p := by
  have unanswered := idle.unanswered policy.callTimeout
  have calls : callsIn (hs ++ [h]) = callsIn hs := by simp [idle.uncalled]
  have verdicts : verdictsIn policy.callTimeout (hs ++ [h]) = verdictsIn policy.callTimeout hs := by
    simp [unanswered]
  have undecided (before : Undecided policy.callTimeout hs) :
      Undecided policy.callTimeout (hs ++ [h]) :=
    before.snoc (idle.not_final _) idle.not_concludes
  have charging {c : Payment.Charge} (before : Charging policy.callTimeout hs c) :
      Charging policy.callTimeout (hs ++ [h]) c := by
    refine before.snoc (undecided before.undecided) rfl ?_ ?_ ?_
    · rw [idle.uncalled]
      exact fun call member => nomatch member
    · rw [idle.uncalled]
      rfl
    · rw [unanswered]
      exact fun v verdict => nomatch verdict
  refine story.uncalled idle.uncalled (.inr unanswered)
    (fun o conc => absurd conc (idle.not_concludes o)) ?_
  have stands := story.stands
  cases p with
  | reading | readingPayment | claiming =>
    obtain ⟨before, silent, unheard⟩ := stands
    exact ⟨undecided before, calls.trans silent, verdicts.trans unheard⟩
  | asking | pausing | calling | hanging =>
    obtain ⟨before, rest⟩ := stands
    exact ⟨charging before, by rw [verdicts]; exact rest⟩
  | settling o | pausingToSettle o =>
    exact Concluded.snoc (o := o) stands idle.uncalled unanswered
  | done r => exact fun o same => (stands o same).snoc idle.uncalled unanswered

/-- Whatever a doing does, either its attempt moves or no attempt does. -/
theorem Doing.Move.moves_or_idle {cfg : Shop.Config} {s s' : Shop} {d d' : Doing}
    (move : d.Move cfg s d' s') (plain : s.gateway.IsPlain) (doer run : Nat) :
    let h : Happening := ⟨doer, run, d, d', s, s'⟩
    (∃ p p', h.Moves cfg.payment p p') ∨ h.IsIdle := by
  intro h
  have idle {e e' : Doing} {s' : Shop} (before : e.attempt? = none) (after : e'.attempt? = none)
      (same : s'.gateway = s.gateway) : Happening.IsIdle ⟨doer, run, e, e', s, s'⟩ := by
    refine ⟨same, fun p begun => ?_, fun p new => ?_⟩
    · rw [before] at begun
      cases begun
    · rw [after] at new
      cases new
  cases move with
  | checkout | cleans | rests => exact .inr (idle rfl rfl rfl)
  | @batch side => exact .inr (idle rfl rfl (by cases side <;> rfl))
  | delivery move => exact .inr (idle rfl rfl move.gateway)
  | attempt move => exact .inl ⟨_, _, rfl, rfl, plain, _, rfl, move⟩
  | @sweep w _ _ move =>
    cases move with
    | @attempts p p' under running move =>
      exact .inl ⟨p, p', under, Payment.Sweep.attempt?_with under p', plain, _, rfl, move⟩
    | turns ended new aside =>
      exact .inr ⟨aside.gateway, ended, new⟩
  | change move =>
    obtain ⟨_, writes⟩ := move.writes
    exact .inr (idle rfl rfl writes.gateway)
  | applies does =>
    obtain ⟨_, writes⟩ := does.writes
    exact .inr (idle rfl rfl writes.gateway)

/-- The log of the gateway grows by the calls that it has got. -/
theorem Doing.Move.log {cfg : Shop.Config} {s s' : Shop} {d d' : Doing}
    (move : d.Move cfg s d' s') (plain : s.gateway.IsPlain) (doer run : Nat) :
    s'.gateway.calls = s.gateway.calls ++ Happening.charged ⟨doer, run, d, d', s, s'⟩ := by
  have grown : s.gateway.calls <+: s'.gateway.calls := by
    rcases move.moves_or_idle plain doer run with ⟨p, p', moves⟩ | idle
    · obtain ⟨desk, later, move⟩ := moves.move
      rw [show s' = s.withOrderDesk desk from later]
      exact move.log plain
    · exact ⟨[], by rw [show s'.gateway = s.gateway from idle.gateway, List.append_nil]⟩
  exact List.prefix_iff_eq_append.mp grown |>.symm

end OrderFlow
