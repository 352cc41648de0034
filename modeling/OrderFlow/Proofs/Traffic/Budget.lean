import OrderFlow.Email
import OrderFlow.Proofs.Order.Searches
import OrderFlow.Proofs.Payment.Budget
import OrderFlow.Proofs.Traffic.Charging
import OrderFlow.Proofs.Traffic.Recovery

/-!
Charges and their budget. Where no timer is late, a charge takes no longer than the budget that its
policy gives it, counted from the claim of its order; and an order in process was last changed when
it was claimed. A recovery that waits for the budget therefore finds no order whose charge is still
to go on (`charges_within_budget`).
-/
namespace OrderFlow
open Payment RetryPolicy

namespace Instant
variable {a b c : Instant}

theorem le_trans (first : a ≤ b) (second : b ≤ c) : a ≤ c := Int.le_trans first second

theorem after_le_after {d d' : Span} (le : d ≤ d') (t : Instant) : t.after d ≤ t.after d' :=
  Int.add_le_add_left (Int.ofNat_le.mpr le) t.nanos

end Instant

/-- A story of a charge: as many calls as waits, or one more, and no more waits than allowed. -/
theorem Stands.charges {policy : PaymentPolicy} {hs : List Happening} {p : Payment.Phase}
    {c : Charge} (stands : Stands policy hs p) (charges : p.charge? = some c) :
    c.calls ≤ c.retries + 1 ∧ c.retries ≤ policy.retry.maxRetries := by
  cases p with
  | asking | pausing =>
    obtain ⟨-, -, counted, left⟩ := stands.asks charges
    exact ⟨by omega, left⟩
  | calling | hanging =>
    obtain ⟨-, -, counted, left⟩ := stands.awaits charges
    exact ⟨by omega, left⟩
  | _ => cases charges

namespace Doing

/-- The order that is being charged for. -/
def charges? (d : Doing) : Option Uuid :=
  (d.attempt?.bind (·.charge?)).map (·.request.orderId)

/-- When a charge goes on: it has waited long enough, or need not wait. -/
def due? (now : Instant) (d : Doing) : Option Instant :=
  d.attempt?.bind fun p => p.charge?.map fun _ => p.until?.getD now

theorem charges?_eq_some {d : Doing} {x : Uuid} : d.charges? = some x ↔
    ∃ p c, d.attempt? = some p ∧ p.charge? = some c ∧ c.request.orderId = x := by
  simp [charges?, Option.bind_eq_some_iff, Option.map_eq_some_iff]

end Doing

/-- No timer of a charge is late: the clock does not move past the time when a charge goes on. -/
def Event.IsPunctual (t : Traffic) : Event → Prop
  | .change w => ∀ d ∈ t.doings, (d.due? t.shop.around.now).all (w.now ≤ ·) = true
  | _ => True

instance (t : Traffic) : ∀ e : Event, Decidable (e.IsPunctual t)
  | .change w => inferInstanceAs
    (Decidable (∀ d ∈ t.doings, (d.due? t.shop.around.now).all (w.now ≤ ·) = true))
  | .call _ | .advance _ | .abandon _ => .isTrue trivial

namespace Traffic
variable {cfg : Shop.Config} {t t' : Traffic} {e : Event} {x : Uuid}

/-- All that a charge may use up. -/
def allowance (policy : PaymentPolicy) : Span :=
  policy.spent (policy.retry.maxRetries + 1) policy.retry.maxRetries

/-- The charges are in time. -/
structure IsInTime (policy : PaymentPolicy) (t : Traffic) : Prop where
  current : ∀ (n : Nat) (d : Doing) (p : Payment.Phase) (c : Charge), t.doings[n]? = some d →
    d.attempt? = some p → p.charge? = some c →
    ∃ k ∈ t.past, k.Claims c.request.orderId ∧
      t.shop.around.now ≤ p.latest t.shop.around.now ∧
      p.latest t.shop.around.now ≤ k.earlier.around.now.after (policy.spent c.calls c.retries)
  past : ∀ h ∈ t.past, ∀ p c, h.before.attempt? = some p → p.charge? = some c →
    ∃ k ∈ t.past, k.Claims c.request.orderId ∧
      h.earlier.around.now ≤ k.earlier.around.now.after (allowance policy)

/-- What a charge has used up is part of what it may use up. -/
theorem IsChronicled.spent_le (chronicled : t.IsChronicled cfg) {n : Nat} {d : Doing}
    {p : Payment.Phase} {c : Charge} (under : t.doings[n]? = some d) (attempt : d.attempt? = some p)
    (charges : p.charge? = some c) :
    cfg.payment.policy.spent c.calls c.retries ≤ allowance cfg.payment.policy := by
  obtain ⟨last, -, story⟩ :=
    chronicled.current n d p under attempt (p.not_isFresh_of_charge? charges)
  obtain ⟨calls, waits⟩ := story.stands.charges charges
  exact PaymentPolicy.spent_le (by omega) waits

/-- A charge that is under way is within all that it may use up. -/
theorem IsInTime.within (inTime : t.IsInTime cfg.payment.policy)
    (chronicled : t.IsChronicled cfg) {n : Nat} {d : Doing}
    {p : Payment.Phase} {c : Charge} (under : t.doings[n]? = some d) (attempt : d.attempt? = some p)
    (charges : p.charge? = some c) :
    ∃ k ∈ t.past, k.Claims c.request.orderId ∧
      t.shop.around.now ≤ k.earlier.around.now.after (allowance cfg.payment.policy) := by
  obtain ⟨k, member, claims, begun, spent⟩ := inTime.current n d p c under attempt charges
  have all := chronicled.spent_le under attempt charges
  exact ⟨k, member, claims,
    Instant.le_trans (Instant.le_trans begun spent) (Instant.after_le_after all _)⟩

section
variable {_ : EmailCheck} {doer : Nat} {d d' : Doing} {later : Shop}

/-- **What is done leaves the charges in time.** -/
theorem IsInTime.acts (inTime : t.IsInTime cfg.payment.policy) (chronicled : t.IsChronicled cfg)
    (sound : t.IsSound) (bounded : cfg.payment.policy.IsBounded)
    (under : t.doings[doer]? = some d) (move : d.Move cfg t.shop d' later) :
    (t.acted doer d d' later).IsInTime cfg.payment.policy := by
  have still : later.around.now = t.shop.around.now := move.follows.now
  refine ⟨fun n e p c now attempt charges => ?_, fun h member p c before charges => ?_⟩
  · show ∃ k ∈ (t.acted doer d d' later).past, k.Claims c.request.orderId ∧
      later.around.now ≤ p.latest later.around.now ∧ p.latest later.around.now ≤
        k.earlier.around.now.after (cfg.payment.policy.spent c.calls c.retries)
    rw [still]
    -- The doer itself, one that stands where it stood, or an attempt that is only now dispatched.
    rcases doings_acted now with ⟨rfl, rfl⟩ | ⟨-, stood⟩ | ⟨r, task, rfl⟩
    · rcases move.moves_or_idle sound.gateway n (t.runOf n d) with ⟨q, q', moves⟩ | idle
      · cases attempt.symm.trans moves.after
        obtain ⟨desk, same, step⟩ := moves.move
        rcases step.spends bounded charges with
          ⟨rfl, pending, processing⟩ | ⟨c₀, ofCharge, own, spends⟩
        · refine ⟨_, List.mem_append_right _ (List.mem_singleton_self _), ⟨pending, ?_⟩,
            Int.le_refl _, Int.le_add_of_nonneg_right (Int.natCast_nonneg _)⟩
          rw [show later = t.shop.withOrderDesk desk from same]
          exact processing
        · obtain ⟨k, member, claims, begun, spent⟩ :=
            inTime.current n d q c₀ under moves.before ofCharge
          rw [own]
          exact ⟨k, List.mem_append_left _ member, claims, spends _ begun spent⟩
      · cases (idle.new p attempt).symm.trans (p.not_isFresh_of_charge? charges)
    · obtain ⟨k, member, told⟩ := inTime.current n e p c stood attempt charges
      exact ⟨k, List.mem_append_left _ member, told⟩
    · obtain ⟨id, rfl⟩ := sound.dispatched move task
      cases attempt
      cases charges
  · rcases List.mem_append.mp member with old | new
    · obtain ⟨k, member, told⟩ := inTime.past h old p c before charges
      exact ⟨k, List.mem_append_left _ member, told⟩
    · cases List.mem_singleton.mp new
      obtain ⟨k, member, told⟩ := inTime.within chronicled under before charges
      exact ⟨k, List.mem_append_left _ member, told⟩

theorem IsInTime.step (inTime : t.IsInTime cfg.payment.policy) (chronicled : t.IsChronicled cfg)
    (sound : t.IsSound) (bounded : cfg.payment.policy.IsBounded) (punctual : e.IsPunctual t)
    (step : Step cfg t e t') : t'.IsInTime cfg.payment.policy := by
  cases step with
  | rests => exact inTime
  | begins call =>
    refine ⟨fun n d p c under attempt charges => ?_, inTime.past⟩
    have under : (t.doings ++ [call.doing])[n]? = some d := under
    rw [List.getElem?_append] at under
    split at under
    · exact inTime.current n d p c under attempt charges
    · obtain rfl := List.mem_singleton.mp (List.mem_of_getElem? under)
      cases call <;> cases attempt
      cases charges
  | ends doer =>
    refine ⟨fun n d p c under attempt charges => ?_, inTime.past⟩
    have under : (t.doings.set doer .gone)[n]? = some d := under
    rw [List.getElem?_set] at under
    split at under
    · split at under
      · cases under
        cases attempt
      · cases under
    · exact inTime.current n d p c under attempt charges
  | weather w =>
    refine ⟨fun n d p c under attempt charges => ?_, inTime.past⟩
    obtain ⟨k, member, claims, -, spent⟩ := inTime.current n d p c under attempt charges
    have due := punctual d (List.mem_of_getElem? under)
    simp only [Doing.due?, attempt, charges, Option.bind_some, Option.map_some, Option.all_some,
      decide_eq_true_eq] at due
    exact ⟨k, member, claims, Payment.Phase.latest_le charges due spent⟩
  | acts under ready move => exact inTime.acts chronicled sound bounded under move

/-- An order in process was claimed, and has not been changed since. -/
def IsStamped (t : Traffic) : Prop :=
  ∀ x order, t.shop.book.findOrder x = some order → order.status = .processing →
    ∃ k ∈ t.past, k.Claims x ∧ k.earlier.around.now = order.updatedAt

theorem IsStamped.acts (stamped : t.IsStamped) (indexed : t.shop.book.IsIndexed)
    {doer : Nat} {d d' : Doing} {later : Shop} (move : d.Move cfg t.shop d' later) :
    (t.acted doer d d' later).IsStamped := by
  intro x order' after processing
  cases before : t.shop.book.findOrder x with
  | none => cases (move.changes.begins before after).symm.trans processing
  | some order =>
    cases move.changes.steps indexed before after with
    | stays =>
      obtain ⟨k, member, told⟩ := stamped x _ before processing
      exact ⟨k, List.mem_append_left _ member, told⟩
    | @goes next may =>
      obtain rfl : next = .processing := processing
      have pending : order.status = .pending := by
        revert may
        cases order.status <;> simp [OrderStatus.mayBecome]
      exact ⟨_, List.mem_append_right _ (List.mem_singleton_self _),
        ⟨⟨order, before, pending⟩, _, after, rfl⟩, rfl⟩
    | @passes o =>
      have settled : (if o.isSuccess then OrderStatus.paid else .failed) = .processing := processing
      split at settled <;> cases settled

theorem run_isStamped [EmailCheck] (cfg : Shop.Config) (around : Surroundings)
    (stock : Assoc Uuid Int) (sequences : Assoc CalendarDay Int) (events : List Event) :
    ((opening around stock sequences).run cfg events).IsStamped := by
  refine (run_keeps_all (P := fun t => t.shop.book.IsIndexed ∧ t.IsStamped)
    (opening_isSound around stock sequences)
    ⟨OrderBook.isIndexed_empty, fun _ _ found => nomatch found⟩ ?_).2
  rintro t e t' - ⟨indexed, stamped⟩ step
  obtain ⟨o?, e?, change⟩ := step.book
  refine ⟨indexed.change change, ?_⟩
  cases step with
  | rests | begins | ends | weather => exact stamped
  | acts _ _ move => exact stamped.acts indexed move

/-- What was done once remains done. -/
theorem past_subset_run (sound : t.IsSound) (events : List Event) :
    t.past ⊆ (t.run cfg events).past := by
  refine run_keeps_all (P := fun t' => t.past ⊆ t'.past) sound (List.Subset.refl _) ?_
  intro t' e t'' _ kept step
  cases step with
  | rests | begins | ends | weather => exact kept
  | acts => exact List.subset_append_of_subset_left _ kept

theorem run_isInTime [EmailCheck] (cfg : Shop.Config) (around : Surroundings)
    (stock : Assoc Uuid Int) (sequences : Assoc CalendarDay Int) (events : List Event)
    (bounded : cfg.payment.policy.IsBounded)
    (punctual : Along cfg (fun t e => e.IsPunctual t) (opening around stock sequences) events) :
    ((opening around stock sequences).run cfg events).IsInTime cfg.payment.policy := by
  refine (run_keeps (P := fun t => t.IsChronicled cfg ∧ t.IsInTime cfg.payment.policy)
    (opening_isSound around stock sequences) ⟨opening_isChronicled cfg around stock sequences,
      (fun _ _ _ _ under => nomatch under), fun _ member => nomatch member⟩ punctual ?_).2
  rintro t e t' sound ⟨chronicled, inTime⟩ punctual step
  exact ⟨chronicled.step sound step, inTime.step chronicled sound bounded punctual step⟩

/-- The charge of the order `x` was under way at a point in time, or is now. -/
def IsCharging (t : Traffic) (x : Uuid) (time : Instant) : Prop :=
  (∃ h ∈ t.past, h.before.charges? = some x ∧ h.earlier.around.now = time) ∨
    ∃ d ∈ t.doings, d.charges? = some x ∧ t.shop.around.now = time

theorem IsInTime.charging (inTime : t.IsInTime cfg.payment.policy)
    (chronicled : t.IsChronicled cfg) {time : Instant} (charging : t.IsCharging x time) :
    ∃ k ∈ t.past, k.Claims x ∧
      time ≤ k.earlier.around.now.after (allowance cfg.payment.policy) := by
  rcases charging with ⟨h, member, charges, rfl⟩ | ⟨d, member, charges, rfl⟩
  · obtain ⟨p, c, attempt, charge, rfl⟩ := Doing.charges?_eq_some.mp charges
    exact inTime.past h member p c attempt charge
  · obtain ⟨p, c, attempt, charge, rfl⟩ := Doing.charges?_eq_some.mp charges
    obtain ⟨n, under⟩ := List.mem_iff_getElem?.mp member
    exact inTime.within chronicled under attempt charge

/-- **A charge keeps to its budget, and no recovery gives it up before it is over.** The clock never
shows more than the budget since the one claim of an order while its charge is under way. A
recovery that is made for the same policy does not find the order at any time before one at which
its charge is still under way. Timers are never late; a wait is itself when it is taken once; and
where waits are not spread none is longer than the greatest one. -/
theorem charges_within_budget (cfg : Shop.Config) (s : Settings.Payment) (b : Span)
    (around : Surroundings) (stock : Assoc Uuid Int) (sequences : Assoc CalendarDay Int)
    (events : List Event) (policy : cfg.payment.policy = .ofSettings s)
    (budget : cfg.payment.policy.callBudget? = some b)
    (exactly : cfg.payment.policy.retry.IsExact) (capped : cfg.payment.policy.retry.IsCapped)
    (punctual : Along cfg (fun t e => e.IsPunctual t) (opening around stock sequences) events) :
    let t := (opening around stock sequences).run cfg events
    (∀ x time, t.IsCharging x time → ∃ k ∈ t.past, k.Claims x ∧
      (∀ k' ∈ t.past, k'.Claims x → k' = k) ∧ time ≤ k.earlier.around.now.after b) ∧
    ∀ before more, events = before ++ more →
      let t' := (opening around stock sequences).run cfg before
      ∀ x time, t.IsCharging x time → t'.shop.around.now < time →
      ∀ rs r, Recovery.ofSettings? rs cfg.payment.policy = some r →
        (b.nanos : Int) ≤ Recovery.longestNanos → ∀ cutoff limit,
        cutoff ≤ t'.shop.around.now.shift (-r.unsettledAfter) →
        x ∉ t'.shop.book.unsettled cutoff limit := by
  intro t
  have sound : t.IsSound := (opening_isSound around stock sequences).run events
  have chronicled : t.IsChronicled cfg := run_isChronicled cfg around stock sequences events
  have bounded : cfg.payment.policy.IsBounded := by
    rw [policy] at exactly capped ⊢
    exact PaymentPolicy.ofSettings_isBounded s exactly capped
  have inTime : t.IsInTime cfg.payment.policy :=
    run_isInTime cfg around stock sequences events bounded punctual
  have within (x : Uuid) (time : Instant) (charging : t.IsCharging x time) :
      ∃ k ∈ t.past, k.Claims x ∧ (∀ k' ∈ t.past, k'.Claims x → k' = k) ∧
        time ≤ k.earlier.around.now.after b := by
    obtain ⟨k, member, claims, within⟩ := inTime.charging chronicled charging
    rw [PaymentPolicy.callBudget?_eq_some budget]
    exact ⟨k, member, claims,
      fun k' member' claims' => chronicled.claimed_once member' member claims' claims, within⟩
  refine ⟨within, ?_⟩
  intro before more split t' x time charging earlier rs r recovers told cutoff limit late member
  obtain ⟨k, -, -, once, within⟩ := within x time charging
  -- What the recovery finds was claimed when it was last changed.
  obtain ⟨found, member⟩ := OrderBook.exists_of_mem_oldest member
  have indexed := (run_isEntered cfg around stock sequences before).indexed
  have filed := run_isFiled cfg around stock sequences before
  obtain ⟨order, tx, unsettled, rfl, stuck⟩ := (OrderBook.mem_adrift indexed filed).mp member
  obtain ⟨k', member', claims', stamp⟩ := run_isStamped cfg around stock sequences before x order
    unsettled.ofOrder unsettled.processing
  have later : t = t'.run cfg more := by
    show run cfg _ events = _
    rw [split]
    exact List.foldl_append
  have sound' : t'.IsSound := (opening_isSound around stock sequences).run before
  have member' : k' ∈ t.past := later ▸ past_subset_run sound' more member'
  cases once k' member' claims'
  have waits := Recovery.budget_le recovers budget told
  have within : time.nanos ≤ k.earlier.around.now.nanos + b.nanos := within
  have earlier : t'.shop.around.now.nanos < time.nanos := earlier
  have stuck : order.updatedAt.nanos ≤ cutoff.nanos := stuck
  have late : cutoff.nanos ≤ t'.shop.around.now.nanos + -r.unsettledAfter := late
  rw [← stamp] at stuck
  omega

end

/-! ## A charge that uses up its budget -/

/-- Two tries, with a wait in between. -/
def twice (initialBackoffMs maxBackoffMs : Nat) : Settings.Payment where
  maxAttempts := 2
  initialBackoffMs
  maxBackoffMs
  jitterFactor := .ofNat 0

/-- A shop that makes payments as the settings say. -/
def payingAs (s : Settings.Payment) : Shop.Config :=
  { minutely with payment := .ofSettings "payments" s }

/-- The gateway leaves the next call without an answer. -/
def hangs (now : Instant) : Event := .change { now, calls := [(.zero, .hangs)] }

/-- Once the message has been read, the order is entered and charged for twice, with a wait in
between; the gateway answers neither call. -/
def unanswered (wait : Span) : List Event :=
  [.advance 0, .advance 0, hangs ⟨0⟩, .advance 1, .advance 1, .advance 1, .advance 1, .advance 1,
    hangs ⟨5000000000⟩, .advance 1, hangs (Instant.after ⟨5000000000⟩ wait), .advance 1, .advance 1]

/-- The time has come to cut the second call off. -/
def cutOff (wait : Span) : List Event := [hangs (Instant.after ⟨10000000000⟩ wait)]

/-- What happens from the message of the order on. -/
def fromMessage (events : List Event) : List Event :=
  .call (.deliver placedMessage) :: .advance 0 :: events

theorem run_fromMessage (cfg : Shop.Config) (events : List Event) :
    (opening { now := ⟨0⟩ } [] []).run cfg (fromMessage events) =
      (arrived { now := ⟨0⟩ } placedMessage placed).run cfg events :=
  run_arrived _ _ _ received_placed

theorem along_fromMessage {cfg : Shop.Config} (events : List Event)
    (punctual : Along cfg (fun t e => e.IsPunctual t)
      (arrived { now := ⟨0⟩ } placedMessage placed) events) :
    Along cfg (fun t e => e.IsPunctual t) (opening { now := ⟨0⟩ } [] []) (fromMessage events) := by
  refine (along_append (fromMessage []) events).mpr ⟨⟨trivial, trivial, trivial⟩, ?_⟩
  rw [run_fromMessage]
  exact punctual

/-- A charge uses up its budget of eleven seconds to the end; a recovery that waits for so long does
not find its order before. -/
theorem charge_uses_up_budget :
    let cfg := payingAs (twice 1000 10000)
    let before := fromMessage (unanswered (.ofSeconds 1))
    let cut := cutOff (.ofSeconds 1)
    let t := (opening { now := ⟨0⟩ } [] []).run cfg (before ++ cut)
    let t' := (opening { now := ⟨0⟩ } [] []).run cfg before
    cfg.payment.policy.callBudget? = some (.ofSeconds 11) ∧
      Along cfg (fun t e => e.IsPunctual t) (opening { now := ⟨0⟩ } [] []) (before ++ cut) ∧
      t.IsCharging placed.orderId ⟨11000000000⟩ ∧
      (∃ k ∈ t.past, k.Claims placed.orderId ∧
        (⟨11000000000⟩ : Instant) ≤ k.earlier.around.now.after (.ofSeconds 11)) ∧
      ∃ r, Recovery.ofSettings? { stalledAfterSeconds := 1 } cfg.payment.policy = some r ∧
        ∀ limit, placed.orderId ∉
          t'.shop.book.unsettled (t'.shop.around.now.shift (-r.unsettledAfter)) limit := by
  intro cfg before cut t t'
  have budget : cfg.payment.policy.callBudget? = some (.ofSeconds 11) := by decide +kernel
  have exactly : cfg.payment.policy.retry.IsExact := isExact_of_lt (by decide)
  have capped : cfg.payment.policy.retry.IsCapped := isCapped_of_le (by decide)
  have punctual : Along cfg (fun t e => e.IsPunctual t) (opening { now := ⟨0⟩ } [] [])
      (before ++ cut) :=
    along_fromMessage (unanswered (.ofSeconds 1) ++ cut) (by decide +kernel)
  have charging : t.IsCharging placed.orderId ⟨11000000000⟩ := by
    rw [show t = _ from run_fromMessage cfg (unanswered (.ofSeconds 1) ++ cut)]
    refine .inr ?_
    decide +kernel
  have earlier : t'.shop.around.now < ⟨11000000000⟩ := by
    rw [show t' = _ from run_fromMessage cfg (unanswered (.ofSeconds 1))]
    decide +kernel
  obtain ⟨r, recovers⟩ : ∃ r, Recovery.ofSettings? { stalledAfterSeconds := 1 }
      cfg.payment.policy = some r := by
    refine Option.isSome_iff_exists.mp ?_
    decide +kernel
  have told : ((Span.ofSeconds 11).nanos : Int) ≤ Recovery.longestNanos := by decide +kernel
  -- What has been decided is kept; the runs themselves need not be evaluated any more.
  clear_value before cut
  obtain ⟨within, unfound⟩ := charges_within_budget cfg (twice 1000 10000) (.ofSeconds 11)
    { now := ⟨0⟩ } [] [] (before ++ cut) rfl budget exactly capped punctual
  obtain ⟨k, member, claims, -, inTime⟩ := within placed.orderId _ charging
  exact ⟨budget, punctual, charging, ⟨k, member, claims, inTime⟩, r, recovers, fun limit =>
    unfound before cut rfl placed.orderId _ charging earlier _ r recovers told _ limit
      (Int.le_refl _)⟩

/-- A greatest wait that is no double is exceeded by a wait that is not spread, which the budget
does not expect: the charge is still under way when it has used up its budget. -/
theorem overlong_wait_exceeds_budget :
    let cfg := payingAs (twice 9007199254741000 9007199254740999)
    let wait : Span := .ofMillis 9007199254741000
    let events := fromMessage (unanswered wait ++ cutOff wait)
    let t := (opening { now := ⟨0⟩ } [] []).run cfg events
    Along cfg (fun t e => e.IsPunctual t) (opening { now := ⟨0⟩ } [] []) events ∧
      cfg.payment.policy.retry.IsExact ∧
      ∃ b, cfg.payment.policy.callBudget? = some b ∧ (b.nanos : Int) ≤ Recovery.longestNanos ∧
        ∃ time, t.IsCharging placed.orderId time ∧
          ∀ k ∈ t.past, k.Claims placed.orderId → k.earlier.around.now.after b < time := by
  intro cfg wait events t
  have run : t = (arrived { now := ⟨0⟩ } placedMessage placed).run cfg
      (unanswered wait ++ cutOff wait) := run_fromMessage _ _
  have charging : t.IsCharging placed.orderId (Instant.after ⟨10000000000⟩ wait) := by
    rw [run]
    refine .inr ?_
    decide +kernel
  have budget : cfg.payment.policy.callBudget? = some (.ofMillis 9007199254750999) := by
    decide +kernel
  have told : ((Span.ofMillis 9007199254750999).nanos : Int) ≤ Recovery.longestNanos := by
    decide +kernel
  have beyond : ∀ k ∈ t.past,
      (k.earlier.book.findOrder placed.orderId).any (·.status = .pending) = true →
      k.earlier.around.now.after (.ofMillis 9007199254750999) <
        Instant.after ⟨10000000000⟩ wait := by
    rw [run]
    decide +kernel
  refine ⟨along_fromMessage _ (by decide +kernel), by decide +kernel, _, budget, told, _, charging,
    ?_⟩
  rintro k member ⟨⟨order, found, pending⟩, -⟩
  have waiting : (k.earlier.book.findOrder placed.orderId).any (·.status = .pending) = true := by
    rw [found]
    exact decide_eq_true pending
  exact beyond k member waiting

end Traffic

end OrderFlow
