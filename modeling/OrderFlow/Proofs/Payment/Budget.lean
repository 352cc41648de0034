import OrderFlow.Proofs.Order.Changes
import OrderFlow.Proofs.Payment.Moves
import OrderFlow.Proofs.Retry.Waits

/-!
The time that a charge takes. What a charge has used up at most is known from how often the gateway
was called and how often it was tried again (`PaymentPolicy.spent`): nobody waits for a call after
its deadline, and no wait is longer than the longest that its policy has (`backoff_le_longestWait`).
No move of a charge uses up more than that (`Move.spends`), and all that a charge may use up is the
budget (`callBudget?_eq_some`).
-/
namespace OrderFlow
open RetryPolicy Binary64

namespace PaymentPolicy
variable {p : RetryPolicy} {retries : Nat} {j : Binary64}

/-! ## Waits -/

/-- A spread that is a number is what the longest wait is spread by. -/
theorem longestWait_of_finite (finite_ : p.jitter.isFinite = true) (nonneg : 0 ≤ p.jitter.value) :
    longestWait p retries =
      (scaled (p.delayFor retries) ((ofNat 1).add p.jitter)).min p.maxDelay := by
  have number : ¬ (p.jitter.lt (ofNat 0) = true ∨ p.jitter = .nan) := by
    rintro (negative | nan)
    · have zero := (ofNat_exact (n := 0) (by norm_num)).1.isFinite
      have negative := (lt_iff finite_ zero).mp negative
      rw [value_zero] at negative
      exact absurd negative (not_lt.mpr nonneg)
    · rw [nan] at finite_
      cases finite_
  simp only [longestWait, if_neg number]

/-- A spread of nothing leaves the factor at one. -/
theorem one_add_of_le_zero (finite_ : j.isFinite = true) (nonneg : 0 ≤ j.value)
    (none : j.le (ofNat 0) = true) :
    ((ofNat 1).add j).IsProper ∧ ((ofNat 1).add j).value = (ofNat 1).value := by
  have zero := (ofNat_exact (n := 0) (by norm_num)).1.isFinite
  have one := (ofNat_exact (n := 1) (by norm_num)).1.isFinite
  have le := (le_iff finite_ zero).mp none
  rw [value_zero] at le
  have same : (ofNat 1).value + j.value = 1 := by
    rw [le_antisymm le nonneg, value_one, add_zero]
  obtain ⟨proper, rounded⟩ := add_rounds one finite_ (by rw [same]; norm_num)
    (by rw [same]; exact Number.lt_top (k := 0) (by norm_num) (by norm_num))
  rw [same] at rounded
  exact ⟨proper, (rounded.eq isDouble_one).trans value_one.symm⟩

/-- **No wait is longer than the longest**, whatever is drawn. -/
theorem backoff_le_longestWait (spread : IsSpread p.jitter)
    (exactly : p.IsExact) (capped : p.IsCapped) (left : retries < p.maxRetries) (draw : Binary64) :
    p.backoff retries draw ≤ longestWait p retries := by
  have countable := delayFor_isCountable p retries
  have one := (ofNat_exact (n := 1) (by norm_num)).1
  have nothing_le (d : Span) : Span.zero ≤ d := Nat.zero_le _
  rcases spread with nan | ⟨finite_, nonneg, le⟩
  · -- A spread that is no number makes every wait nothing.
    unfold backoff
    dsimp only
    split
    · next short =>
      rw [nan] at short
      rw [short.resolve_left (by decide +kernel)]
      exact nothing_le _
    · rw [factor_nan nan, scaled_nan]
      exact nothing_le _
  · rw [longestWait_of_finite finite_ nonneg]
    unfold backoff
    dsimp only
    split
    · next short =>
      by_cases none : p.jitter.le (ofNat 0) = true
      · obtain ⟨proper, same⟩ := one_add_of_le_zero finite_ nonneg none
        rw [scaled_congr countable proper one (by rw [same, value_one]; norm_num) same
          (by rw [value_one]; norm_num), exactly retries left none]
        unfold Span.min
        rw [if_pos (capped retries left none)]
        exact Nat.le_refl _
      · rw [short.resolve_left none]
        exact nothing_le _
    · obtain ⟨proper, bound, drawn⟩ := factor_range finite_ nonneg le draw
      refine min_le_min ?_ _
      rcases drawn with nan | ⟨proper', lower, upper⟩
      · rw [nan, scaled_nan]
        exact nothing_le _
      · exact scaled_le countable proper' proper lower upper bound

/-! ## The budget -/

/-- The time that a charge has used up at most after some calls and some waits. -/
def spent (p : PaymentPolicy) (calls waits : Nat) : Span :=
  ⟨p.callTimeout.nanos * calls⟩ + totalWait p.retry waits

theorem totalWait_succ (p : RetryPolicy) (waits : Nat) :
    totalWait p (waits + 1) = totalWait p waits + longestWait p waits := by
  simp [totalWait, List.range_succ]

variable {policy : PaymentPolicy} {calls calls' waits waits' : Nat}

theorem spent_call (policy : PaymentPolicy) (calls waits : Nat) :
    (policy.spent (calls + 1) waits).nanos =
      (policy.spent calls waits).nanos + policy.callTimeout.nanos := by
  show policy.callTimeout.nanos * (calls + 1) + (totalWait policy.retry waits).nanos =
    policy.callTimeout.nanos * calls + (totalWait policy.retry waits).nanos + _
  rw [Nat.mul_succ]
  omega

theorem spent_wait (policy : PaymentPolicy) (calls waits : Nat) :
    (policy.spent calls (waits + 1)).nanos =
      (policy.spent calls waits).nanos + (longestWait policy.retry waits).nanos := by
  unfold spent
  rw [totalWait_succ]
  exact (Nat.add_assoc _ _ _).symm

theorem spent_le (fewer : calls ≤ calls') (fewer' : waits ≤ waits') :
    policy.spent calls waits ≤ policy.spent calls' waits' := by
  have calls_le : policy.spent calls waits ≤ policy.spent calls' waits :=
    Nat.add_le_add_right (Nat.mul_le_mul_left _ fewer) _
  refine Nat.le_trans calls_le ?_
  induction fewer' with
  | refl => exact Nat.le_refl _
  | step _ ih =>
    refine Nat.le_trans ih ?_
    rw [spent_wait]
    exact Nat.le_add_right _ _

/-- All the calls and all the waits make up the budget. -/
theorem callBudget?_eq_some {b : Span} (budget : policy.callBudget? = some b) :
    b = policy.spent (policy.retry.maxRetries + 1) policy.retry.maxRetries := by
  simp only [callBudget?, Option.ite_none_right_eq_some, Option.some.injEq] at budget
  exact budget.2.symm

/-- None of the waits of a policy is longer than the longest, whatever is drawn. -/
def IsBounded (policy : PaymentPolicy) : Prop :=
  ∀ n < policy.retry.maxRetries, ∀ draw,
    policy.retry.backoff n draw ≤ longestWait policy.retry n

theorem ofSettings_isBounded (s : Settings.Payment) (exactly : (ofSettings s).retry.IsExact)
    (capped : (ofSettings s).retry.IsCapped) : (ofSettings s).IsBounded :=
  fun _ left => backoff_le_longestWait (withJitter_isSpread _ _) exactly capped left

end PaymentPolicy

/-- A recovery waits for the budget of a charge, as long as that can be told. -/
theorem Payment.Recovery.budget_le {s : Settings.Recovery} {policy : PaymentPolicy}
    {r : Payment.Recovery} {b : Span} (recovers : ofSettings? s policy = some r)
    (budget : policy.callBudget? = some b) (told : (b.nanos : Int) ≤ longestNanos) :
    (b.nanos : Int) ≤ r.unsettledAfter := by
  simp only [ofSettings?, budget] at recovers
  split at recovers
  · cases recovers
  · cases recovers
    dsimp only
    rw [if_pos told]
    exact le_max_right _ _

namespace Payment
open PaymentPolicy

namespace Phase
variable {p : Phase} {c : Charge} {now : Instant}

/-- The charge that is under way. -/
def charge? : Phase → Option Charge
  | .asking c | .pausing c _ | .calling c .. | .hanging c _ => some c
  | _ => none

/-- When a phase of a charge is over at the latest: what need not wait is over at once. -/
def latest (now : Instant) : Phase → Instant
  | .calling _ _ _ deadline | .hanging _ deadline => deadline
  | .pausing _ wake => wake
  | _ => now

theorem charge?_of_asks (asks : p.asks? = some c) : p.charge? = some c := by
  cases p <;> first | exact asks | cases asks

theorem charge?_of_awaits (awaits : p.awaits? = some c) : p.charge? = some c := by
  cases p <;> first | exact awaits | cases awaits

theorem not_isFresh_of_charge? (charges : p.charge? = some c) : p.isFresh = false := by
  cases p <;> first | rfl | cases charges

/-- A charge that the clock does not leave behind stays within its limit. -/
theorem latest_le {later limit : Instant} (charges : p.charge? = some c)
    (due : later ≤ p.until?.getD now) (within : p.latest now ≤ limit) :
    later ≤ p.latest later ∧ p.latest later ≤ limit := by
  cases p with
  | asking => exact ⟨Int.le_refl _, Int.le_trans due within⟩
  | pausing | hanging => exact ⟨due, within⟩
  | calling _ _ ready deadline =>
    refine ⟨?_, within⟩
    have due : later ≤ if ready ≤ deadline then ready else deadline := due
    split at due
    · next inTime => exact Int.le_trans due inTime
    · exact due
  | _ => cases charges

end Phase

variable {cfg : Config} {d d' : OrderDesk} {p p' : Phase} {c : Charge}

/-- **What a charge does uses up no more time than it is entitled to**: what is over in time is
followed by something that is over in time. A charge begins where its order is claimed. -/
theorem Move.spends (move : Move cfg d d' p p') (bounded : cfg.policy.IsBounded)
    (charges : p'.charge? = some c) :
    (p' = .asking { request := c.request } ∧
      (∃ order, d.book.findOrder c.request.orderId = some order ∧ order.status = .pending) ∧
      ∃ order, d'.book.findOrder c.request.orderId = some order ∧ order.status = .processing) ∨
    ∃ c₀, p.charge? = some c₀ ∧ c.request = c₀.request ∧ ∀ start : Instant,
      d.around.now ≤ p.latest d.around.now →
      p.latest d.around.now ≤ start.after (cfg.policy.spent c₀.calls c₀.retries) →
      d.around.now ≤ p'.latest d.around.now ∧
        p'.latest d.around.now ≤ start.after (cfg.policy.spent c.calls c.retries) := by
  cases move with
  | quits | finds | prepares | expires | refused | confirmed | givesUp | breaksOff | settled
  | waitsToSettle | failsToSettle | rests => cases charges
  | @claims order current payment found pending writes =>
    cases charges
    refine .inl ⟨rfl, ⟨current, found, pending⟩,
      current.withStatus .processing d.around.now, ?_, rfl⟩
    rw [writes.book, OrderBook.findOrder_put]
    exact if_pos rfl
  | @calls _ c₀ call asks calls =>
    cases charges
    refine .inr ⟨c₀, p.charge?_of_asks asks, rfl, fun start begun inTime => ?_⟩
    have spent := spent_call cfg.policy c₀.calls c₀.retries
    have begun : d.around.now.nanos ≤ (p.latest d.around.now).nanos := begun
    have inTime : (p.latest d.around.now).nanos ≤ start.nanos + _ := inTime
    show d.around.now.nanos ≤ d.around.now.nanos + _ ∧
      d.around.now.nanos + _ ≤ start.nanos + ((cfg.policy.spent (c₀.calls + 1) _).nanos : Int)
    rw [spent]
    omega
  | hangs =>
    cases charges
    exact .inr ⟨_, rfl, rfl, fun _ begun inTime => ⟨begun, inTime⟩⟩
  | @pauses _ c₀ e wake awaits verdict passing left aside waits =>
    cases charges
    refine .inr ⟨c₀, p.charge?_of_awaits awaits, rfl, fun start begun inTime => ?_⟩
    obtain ⟨draw, rfl⟩ := waits
    have spent := spent_wait cfg.policy c₀.calls c₀.retries
    have wait : (cfg.policy.retry.backoff c₀.retries draw).nanos ≤ _ := bounded _ left draw
    have begun : d.around.now.nanos ≤ (p.latest d.around.now).nanos := begun
    have inTime : (p.latest d.around.now).nanos ≤ start.nanos + _ := inTime
    show d.around.now.nanos ≤ d.around.now.nanos + _ ∧
      d.around.now.nanos + _ ≤ start.nanos + ((cfg.policy.spent _ (c₀.retries + 1)).nanos : Int)
    rw [spent]
    omega

end Payment

end OrderFlow
