import OrderFlow.Retry.Policy

/-!
Running an operation under a retry policy. The operation may take time; between two tries the run
waits as the policy says.
-/
namespace OrderFlow.RetryPolicy
open OrderFlow

/-- A run that has come to its end. -/
structure Run (ε α : Type) where
  result : Except ε α
  /-- When each try began. -/
  starts : List Instant
  /-- The wait behind each try but the last. -/
  waits : List Span
  finish : Instant

/-- The run with a try and a wait before it. -/
def Run.after {ε α : Type} (rest : Run ε α) (start : Instant) (wait : Span) : Run ε α :=
  { rest with starts := start :: rest.starts, waits := wait :: rest.waits }

/-- Tries an operation from the try number `retries` on. The run has no end where it breaks off. -/
def run {ε α : Type} (p : RetryPolicy) (retryable : ε → Bool)
    (operation : Nat → Instant → Except ε α × Instant) (draw : Nat → Binary64) (retries : Nat)
    (now : Instant) : Option (Run ε α) :=
  let (result, finish) := operation retries now
  match result with
  | .ok a => some ⟨.ok a, [now], [], finish⟩
  | .error e =>
    match _h : p.sequel (retryable e) retries (draw retries) with
    | .last => some ⟨.error e, [now], [], finish⟩
    | .again wait =>
      (run p retryable operation draw (retries + 1) (finish.after wait)).map (·.after now wait)
    | .breakOff => none
termination_by p.maxRetries - retries
decreasing_by
  have left := (of_sequel_again _h).2.1
  omega

end OrderFlow.RetryPolicy
