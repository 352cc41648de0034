import OrderFlow.Proofs.Payment.Tending
import OrderFlow.Shop.Clock

/-!
What is gone through in the foreground of a shop in which nothing goes on in the background. Waiting
moves the clock and nothing else (`sleepUntil_yields`), so what every phase keeps holds in the end
(`follow_keeps`), and a measure that every phase brings down bounds the phases (`follow_ends`).
-/
namespace OrderFlow.Shop
open Surroundings
variable {cfg : Config} {s : Shop}

/-- The shop at another time. -/
def atTime (s : Shop) (now : Instant) : Shop := { s with around := { s.around with now } }

/-- Where nothing goes on in the background, there is no work to do. -/
theorem work_yields (idle : s.tasks = []) : Yields (work cfg) s fun _ s' => s' = s := by
  obtain ⟨around, broker, ledger, carts, book, gateway, breaker, checkout, orders, tasks⟩ := s
  cases idle
  rfl

/-- Waiting moves the clock. -/
theorem sleepUntil_yields (idle : s.tasks = []) (wake : Instant) :
    Yields (sleepUntil cfg wake) s fun _ s' => ∃ now, s' = s.atTime now := by
  have waited : Yields (waitUntil cfg (fun _ => false) wake) s fun _ s' =>
      ∃ now, s' = s.atTime now := by
    simp only [waitUntil, Bool.false_eq_true, if_false]
    refine .seen (Yields.bind (P := fun now s' => now = s.around.now ∧ s' = s) ⟨rfl, rfl⟩ ?_)
    rintro now s' ⟨rfl, same⟩
    subst same
    split
    · exact .returned ⟨_, rfl⟩
    · refine .seen ?_
      have none_left : phasesLeft cfg s' = 0 := by simp [phasesLeft, idle]
      simp only [none_left, waitFor]
      refine (work_yields idle).bind ?_
      rintro _ s'' same
      subst same
      simp only [Bool.false_eq_true, if_false]
      refine .seen (.seen (Yields.bind (P := fun now t => t = s'') rfl ?_))
      rintro now t same
      subst same
      refine Yields.bind (P := fun _ s' => ∃ now, s' = t.atTime now) ⟨_, rfl⟩ fun _ _ moved => ?_
      split <;> exact .returned moved
  exact waited

section
variable {φ : Type} {until? : φ → Option Instant} {isDone : φ → Bool}
  {step : φ → StateM OrderDesk φ} {p : φ}

/-- Before a phase time may pass; then the phase takes place, and the rest follows. -/
theorem follow_succ {fuel : Nat} {Q : φ → Shop → Prop} (idle : s.tasks = [])
    (running : isDone p = false)
    (rest : ∀ now, s.around.now = now ∨ (∃ wake, until? p = some wake) →
      Yields (atOrders (step p)) (s.atTime now) fun p' s' =>
        Yields (follow cfg until? isDone step fuel p') s' Q) :
    Yields (follow cfg until? isDone step (fuel + 1) p) s Q := by
  unfold follow
  rw [if_neg (by simp [running])]
  split
  · next wake waits =>
    refine (sleepUntil_yields idle wake).bind ?_
    rintro _ _ ⟨now, rfl⟩
    exact (rest now (.inr ⟨wake, waits⟩)).bind fun _ _ follows => follows
  · exact (rest s.around.now (.inl rfl)).bind fun _ _ follows => follows

/-- **What every phase keeps, and waiting for it, holds in the end.** -/
theorem follow_keeps {P : φ → Shop → Prop} (idle : ∀ p s, P p s → s.tasks = [])
    (waits : ∀ p s wake now, P p s → until? p = some wake → P p (s.atTime now))
    (steps : ∀ p s, P p s → isDone p = false → Yields (atOrders (step p)) s P) (fuel : Nat)
    (holds : P p s) : Yields (follow cfg until? isDone step fuel p) s P := by
  induction fuel generalizing p s with
  | zero => exact .returned holds
  | succ fuel ih =>
    cases running : isDone p with
    | true =>
      unfold follow
      rw [if_pos running]
      exact .returned holds
    | false =>
      refine follow_succ (idle p s holds) running fun now waited => ?_
      have holds : P p (s.atTime now) := by
        rcases waited with rfl | ⟨wake, until_⟩
        · exact holds
        · exact waits p s wake now holds until_
      exact (steps p _ holds running).mono fun p' s' holds => ih holds

/-- **The end is reached** where every phase brings a measure down. What holds on the way may depend
on what the surroundings are in the end. -/
theorem follow_ends {J I : φ → Shop → Prop} {left : φ → Nat} {final : Surroundings}
    (idle : ∀ p s, J p s → s.tasks = [])
    (waits : ∀ p s wake now, until? p = some wake → J p s →
      J p (s.atTime now) ∧ (I p s → I p (s.atTime now)))
    (steps : ∀ p s, J p s → isDone p = false → Yields (atOrders (step p)) s fun p' s' =>
      J p' s' ∧ s.around.Precedes s'.around ∧
        (I p s → s'.around.Precedes final → I p' s' ∧ left p' < left p))
    {fuel : Nat} (enough : left p < fuel) (sound : J p s) (holds : I p s) :
    Yields (follow cfg until? isDone step fuel p) s fun p' s' =>
      s'.around.Precedes final → I p' s' ∧ isDone p' = true := by
  induction fuel generalizing p s with
  | zero => exact absurd enough (Nat.not_lt_zero _)
  | succ fuel ih =>
    cases running : isDone p with
    | true =>
      unfold follow
      rw [if_pos running]
      exact .returned fun _ => ⟨holds, running⟩
    | false =>
      refine follow_succ (idle p s sound) running fun now waited => ?_
      have now_holds : J p (s.atTime now) ∧ I p (s.atTime now) := by
        rcases waited with rfl | ⟨wake, until_⟩
        · exact ⟨sound, holds⟩
        · obtain ⟨sound', holds'⟩ := waits p s wake now until_ sound
          exact ⟨sound', holds' holds⟩
      refine (steps p _ now_holds.1 running).mono fun p' s' ⟨sound', _, goesOn⟩ => ?_
      -- What comes after this phase comes before the end.
      have after : Yields (follow cfg until? isDone step fuel p') s' fun q t =>
          J q t ∧ s'.around.Precedes t.around := by
        refine follow_keeps (P := fun q t => J q t ∧ s'.around.Precedes t.around)
          (fun q t both => idle q t both.1) (fun q t wake now ⟨both, before⟩ until_ => ?_)
          (fun q t ⟨both, before⟩ running => ?_) fuel ⟨sound', .refl _⟩
        · exact ⟨(waits q t wake now until_ both).1, before.ids, before.issued⟩
        · exact (steps q t both running).mono fun _ _ next => ⟨next.1, before.trans next.2.1⟩
      intro before
      obtain ⟨holds', shorter⟩ := goesOn now_holds.2 (after.2.trans before)
      exact ih (by omega) sound' holds' before

end

end OrderFlow.Shop
