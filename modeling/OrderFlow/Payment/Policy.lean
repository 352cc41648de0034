import OrderFlow.Retry.Policy
import OrderFlow.Settings.Sections

/-!
How a charge is made: how long one call of the gateway may take, and how often and at which
distances it is tried. The budget bounds the time that all tries of a charge take together.
-/
namespace OrderFlow

/-- How a charge is made. -/
structure PaymentPolicy where
  callTimeout : Span
  retry : RetryPolicy
  deriving DecidableEq, Repr, Inhabited

namespace PaymentPolicy

/-- The policy that the settings ask for. -/
def ofSettings (s : Settings.Payment) : PaymentPolicy where
  callTimeout := .ofMillis s.callTimeoutMs
  retry :=
    (((RetryPolicy.withMaxAttempts s.maxAttempts).withDelays (.ofMillis s.initialBackoffMs)
      (.ofMillis s.maxBackoffMs)).withMultiplier s.backoffMultiplier).withJitter s.jitterFactor

/-- The longest that the wait after the try number `retries` can get. -/
def longestWait (p : RetryPolicy) (retries : Nat) : Span :=
  let spread := if p.jitter.lt (.ofNat 0) ∨ p.jitter = .nan then .ofNat 0 else p.jitter
  (RetryPolicy.scaled (p.delayFor retries) ((Binary64.ofNat 1).add spread)).min p.maxDelay

/-- Whether a span can be written down: its seconds have at most 64 bits. -/
def isWritable (d : Span) : Bool := d.nanos / 1000000000 < 2 ^ 64

/-- The sum of the longest waits, the tries from `retries` on. -/
def totalWait (p : RetryPolicy) (retries : Nat) : Span :=
  ((List.range retries).map (longestWait p)).foldl (· + ·) .zero

/-- The most time that the tries of a charge take together, none if it cannot be written down. -/
def callBudget? (p : PaymentPolicy) : Option Span :=
  let waits := totalWait p.retry p.retry.maxRetries
  let calls : Span := ⟨p.callTimeout.nanos * (p.retry.maxRetries + 1)⟩
  if isWritable (calls + waits) then some (calls + waits) else none

end PaymentPolicy

end OrderFlow
