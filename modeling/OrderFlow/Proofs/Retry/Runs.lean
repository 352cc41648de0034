import Mathlib.Order.Nat
import OrderFlow.Proofs.Retry.Waits
import OrderFlow.Retry.Run

/-!
What becomes of an operation that is run under a retry policy. Its tries are an endless sequence,
each after the wait that the policy prescribes (`start`, `outcome`); a run is this sequence up to
the first try that ends it (`run_from`): one that settles the matter, by a success or an error that
is not retryable, or the last one that the policy allows. So a run comes to its end, and all that it
does is known (`run_ends_at_last_try`), unless there is a wait that cannot be drawn.
-/
namespace OrderFlow.RetryPolicy
open Binary64

section Tries
variable {ε α : Type}

/-- Whether a result settles the matter, however many tries are left. -/
def settles (retryable : ε → Bool) : Except ε α → Bool
  | .ok _ => true
  | .error e => !retryable e

variable (p : RetryPolicy) (retryable : ε → Bool)
  (operation : Nat → Instant → Except ε α × Instant) (draw : Nat → Binary64) (now : Instant)

/-- When the try number `n` begins if none before it is the last. -/
def start : Nat → Instant
  | 0 => now
  | n + 1 => (operation n (start n)).2.after (p.backoff n (draw n))

/-- The result of the try number `n`, and when it is there. -/
def outcome (n : Nat) : Except ε α × Instant := operation n (p.start operation draw now n)

/-- The try number `n` is one to end with. -/
def IsLast (n : Nat) : Prop :=
  settles retryable (p.outcome operation draw now n).1 = true ∨ n = p.maxRetries

variable {p retryable operation draw now} {n : Nat} {time : Instant}

/-! ## One try -/

theorem run_of_last
    (last : settles retryable (operation n time).1 = true ∨ n = p.maxRetries) :
    p.run retryable operation draw n time =
      some ⟨(operation n time).1, [time], [], (operation n time).2⟩ := by
  rw [run]
  generalize operation n time = tried at last
  obtain ⟨result, finish⟩ := tried
  cases result with
  | ok a => rfl
  | error e =>
    have ends : p.sequel (retryable e) n (draw n) = .last := by
      refine sequel_of_last fun due => ?_
      rcases last with settled | last
      · simp [settles, due] at settled
      · exact Nat.le_of_eq last.symm
    dsimp only
    split
    · rfl
    · next again => cases ends.symm.trans again
    · next breaks => cases ends.symm.trans breaks

theorem run_of_again (unsettled : settles retryable (operation n time).1 = false)
    (left : n < p.maxRetries) :
    p.run retryable operation draw n time =
      if p.canDraw n (draw n) then
        (p.run retryable operation draw (n + 1)
          ((operation n time).2.after (p.backoff n (draw n)))).map
            (·.after time (p.backoff n (draw n)))
      else none := by
  rw [run]
  generalize operation n time = tried at unsettled
  obtain ⟨result, finish⟩ := tried
  cases result with
  | ok a => cases unsettled
  | error e =>
    have due : p.sequel (retryable e) n (draw n) =
        if p.canDraw n (draw n) then .again (p.backoff n (draw n)) else .breakOff :=
      sequel_of_due (by simpa [settles] using unsettled) left
    dsimp only
    split
    · next ends =>
      rw [ends] at due
      split at due <;> cases due
    · next wait again =>
      obtain ⟨-, -, drawn, rfl⟩ := of_sequel_again again
      rw [if_pos drawn]
    · next breaks =>
      rw [if_neg (Bool.eq_false_iff.mp (of_sequel_breakOff breaks).2.2)]

/-! ## All tries -/

/-- **A run is the sequence of tries up to the first one to end with**, unless a wait in between
cannot be drawn. -/
theorem run_from {d : Nat} (last : p.IsLast retryable operation draw now (n + d))
    (earlier : ∀ m, n ≤ m → m < n + d → ¬ p.IsLast retryable operation draw now m)
    (bound : n + d ≤ p.maxRetries) :
    p.run retryable operation draw n (p.start operation draw now n) =
      if (List.range' n d).all fun m => p.canDraw m (draw m) then
        some { result := (p.outcome operation draw now (n + d)).1
               starts := (List.range' n (d + 1)).map (p.start operation draw now)
               waits := (List.range' n d).map fun m => p.backoff m (draw m)
               finish := (p.outcome operation draw now (n + d)).2 }
      else none := by
  induction d generalizing n with
  | zero => exact run_of_last last
  | succ d ih =>
    obtain ⟨unsettled, -⟩ := not_or.mp (earlier n le_rfl (by omega))
    have rest := ih (n := n + 1) (by rwa [Nat.add_right_comm]) (fun m le lt =>
      earlier m (by omega) (by omega)) (by omega)
    have next : (operation n (p.start operation draw now n)).2.after (p.backoff n (draw n)) =
      p.start operation draw now (n + 1) := rfl
    have each : ((List.range' n (d + 1)).all fun m => p.canDraw m (draw m)) =
      (p.canDraw n (draw n) && (List.range' (n + 1) d).all fun m => p.canDraw m (draw m)) := rfl
    rw [run_of_again (Bool.eq_false_iff.mpr unsettled) (by omega), next, rest, each,
      Nat.add_right_comm]
    cases p.canDraw n (draw n) with
    | false => rfl
    | true =>
      rw [Bool.true_and, if_pos rfl]
      split <;> rfl

/-- A wait that cannot be drawn is to come from a spread that is no number. -/
theorem nan_of_not_canDraw (spread : IsSpread p.jitter) (drawn : (draw n).isFinite = true)
    (undrawn : ¬ p.canDraw n (draw n) = true) : p.jitter = .nan ∧ p.delayFor n ≠ .zero := by
  by_cases number : p.jitter = .nan
  · rw [canDraw_nan number, decide_eq_true_eq] at undrawn
    exact ⟨number, undrawn⟩
  · exact absurd (canDraw_of_isSpread spread number drawn n) undrawn

/-- **A run under a policy comes to its end with the first try that settles the matter or is the
last one allowed.** It has made all tries up to this one and waited after each but this one, as long
as the policy says and no longer than the greatest wait. It breaks off only where there is something
to wait for and the spread is no number. -/
theorem run_ends_at_last_try (p : RetryPolicy) (retryable : ε → Bool)
    (operation : Nat → Instant → Except ε α × Instant) (draw : Nat → Binary64) (now : Instant)
    (spread : IsSpread p.jitter) (drawn : ∀ n, (draw n).isFinite = true) :
    ∃ k, IsLeast {n | settles retryable (p.outcome operation draw now n).1 = true ∨
        n = p.maxRetries} k ∧
      ((∃ run, p.run retryable operation draw 0 now = some run ∧
          run.result = (p.outcome operation draw now k).1 ∧
          run.finish = (p.outcome operation draw now k).2 ∧
          run.starts = (List.range (k + 1)).map (p.start operation draw now) ∧
          run.waits = (List.range k).map (fun n => p.backoff n (draw n)) ∧
          ((p.jitter.le (ofNat 0) = true → p.maxDelay.millis ≤ 2 ^ 53) →
            ∀ wait ∈ run.waits, wait ≤ p.maxDelay)) ∨
        p.jitter = .nan ∧ (∃ n < k, p.delayFor n ≠ .zero) ∧
          p.run retryable operation draw 0 now = none) := by
  classical
  obtain ⟨k, least⟩ : ∃ k, IsLeast {n | p.IsLast retryable operation draw now n} k :=
    ⟨_, Nat.isLeast_find ⟨p.maxRetries, .inr rfl⟩⟩
  have ends := run_from (n := 0) (d := k) (by rw [Nat.zero_add]; exact least.1)
    (fun m _ before last => absurd (least.2 last) (by omega))
    (by rw [Nat.zero_add]; exact least.2 (.inr rfl))
  rw [Nat.zero_add, ← List.range_eq_range', ← List.range_eq_range'] at ends
  refine ⟨k, least, ?_⟩
  by_cases drawable : ∀ n ∈ List.range k, p.canDraw n (draw n) = true
  · rw [if_pos (List.all_eq_true.mpr drawable)] at ends
    refine .inl ⟨_, ends, rfl, rfl, rfl, rfl, fun small wait member => ?_⟩
    obtain ⟨n, -, rfl⟩ := List.mem_map.mp member
    exact backoff_le small n (draw n)
  · rw [if_neg (mt List.all_eq_true.mp drawable)] at ends
    push Not at drawable
    obtain ⟨n, member, undrawn⟩ := drawable
    obtain ⟨nan, positive⟩ := nan_of_not_canDraw spread (drawn n) undrawn
    exact .inr ⟨nan, ⟨n, List.mem_range.mp member, positive⟩, ends⟩

/-- Two failures, then a success: the operation is called three times, and the waits between the
calls are spread. -/
theorem answered_at_third_try :
    let p := (withMaxAttempts 4).withJitter (.ofScientific false 2 (-1))
    let operation : Nat → Instant → Except String Nat × Instant := fun n now =>
      (if n < 2 then .error "broker down" else .ok 99, now.after (.ofMillis 100))
    let draw : Nat → Binary64 := fun n =>
      if n = 0 then .ofNat 0 else .ofScientific false 5 (-1)
    IsSpread p.jitter ∧ (∀ n, (draw n).isFinite = true) ∧
      ∃ run, p.run (fun _ => true) operation draw 0 ⟨0⟩ = some run ∧ run.result = .ok 99 ∧
        run.starts = [⟨0⟩, ⟨900000000⟩, ⟨3000000000⟩] ∧ run.finish = ⟨3100000000⟩ ∧
        run.waits = [.ofMillis 800, .ofSeconds 2] ∧ ∀ wait ∈ run.waits, wait ≤ p.maxDelay := by
  intro p operation draw
  have spread : IsSpread p.jitter := withJitter_isSpread _ _
  have number : p.jitter ≠ .nan := by decide +kernel
  have drawn (n : Nat) : (draw n).isFinite = true := by
    simp only [draw]
    split <;> decide +kernel
  obtain ⟨k, least, ends⟩ :=
    run_ends_at_last_try p (fun _ => true) operation draw ⟨0⟩ spread drawn
  have third : k = 2 := by
    refine least.unique ⟨.inl rfl, fun n last => ?_⟩
    match n with
    | 0 | 1 => exact absurd last (by decide +kernel)
    | n + 2 => exact Nat.le_add_left 2 n
  subst third
  obtain ⟨run, ran, result, finish, starts, waits, bound⟩ :=
    ends.resolve_right fun broken => number broken.1
  refine ⟨spread, drawn, run, ran, result, ?_, ?_, ?_, bound fun none => ?_⟩
  · rw [starts]
    decide +kernel
  · rw [finish]
    decide +kernel
  · rw [waits]
    decide +kernel
  · revert none
    decide +kernel

/-- A greatest wait that is no double is exceeded by a wait that is not spread. -/
theorem unspread_wait_exceeds_greatest :
    let p := (withMaxAttempts 2).withDelays (.ofMillis 9007199254741000)
      (.ofMillis 9007199254740999)
    let operation : Nat → Instant → Except String Nat × Instant := fun n now =>
      (if n = 0 then .error "broker down" else .ok 99, now)
    ∃ run, p.run (fun _ => true) operation (fun _ => .ofNat 0) 0 ⟨0⟩ = some run ∧
      run.result = .ok 99 ∧ run.waits = [.ofMillis 9007199254741000] ∧
      ¬ Span.ofMillis 9007199254741000 ≤ p.maxDelay := by
  intro p operation
  have wait : p.backoff 0 (.ofNat 0) = .ofMillis 9007199254741000 := by decide +kernel
  have ran : p.run (fun _ => true) operation (fun _ => .ofNat 0) 0 ⟨0⟩ =
      some ⟨.ok 99, [⟨0⟩, Instant.after ⟨0⟩ (p.backoff 0 (.ofNat 0))],
        [p.backoff 0 (.ofNat 0)], Instant.after ⟨0⟩ (p.backoff 0 (.ofNat 0))⟩ := by
    rw [run_of_again rfl (by decide), if_pos (by decide +kernel), run_of_last (.inl rfl)]
    rfl
  rw [wait] at ran
  exact ⟨_, ran, rfl, rfl, by decide⟩

end Tries

end OrderFlow.RetryPolicy
