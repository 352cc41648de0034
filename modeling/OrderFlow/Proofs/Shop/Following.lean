import OrderFlow.Proofs.Shop.Waiting

/-!
One thing gone through within another. What is gone through phase by phase takes a turn for each
phase (`turn`, `follow_turn`). Where something larger does nothing but take the turns of something
smaller, going through the larger one goes through the smaller one first and then on with what fuel
is left (`follow_within`).
-/
namespace OrderFlow.Shop
variable {cfg : Config} {φ ψ : Type}

/-- Waits for a phase, and lets it take place. -/
def turn (cfg : Config) (until? : φ → Option Instant) (step : φ → StateM OrderDesk φ) (p : φ) :
    StateM Shop φ := do
  if let some wake := until? p then sleepUntil cfg wake
  atOrders (step p)

section
variable {until? : φ → Option Instant} {isDone : φ → Bool} {step : φ → StateM OrderDesk φ} {p : φ}

/-- Nothing follows the end. -/
theorem follow_done (done : isDone p = true) (fuel : Nat) (s : Shop) :
    (follow cfg until? isDone step fuel p).run s = (p, s) := by
  cases fuel with
  | zero => rfl
  | succ fuel =>
    unfold follow
    rw [if_pos done]
    rfl

/-- Before the end one turn is taken, and the rest follows. -/
theorem follow_turn (running : isDone p = false) (fuel : Nat) (s : Shop) :
    (follow cfg until? isDone step (fuel + 1) p).run s =
      (follow cfg until? isDone step fuel ((turn cfg until? step p).run s).1).run
        ((turn cfg until? step p).run s).2 := by
  conv => lhs; unfold follow
  rw [if_neg (by simp [running])]
  unfold turn
  cases until? p <;> rfl

end

section
variable {until? : φ → Option Instant} {isDone : φ → Bool} {step : φ → StateM OrderDesk φ}
  {until?' : ψ → Option Instant} {isDone' : ψ → Bool} {step' : ψ → StateM OrderDesk ψ}

/-- Each phase of `φ` has its `place` among those of `ψ`, and until the end it goes on there as it
does by itself. -/
structure Within (until? : φ → Option Instant) (isDone : φ → Bool) (step : φ → StateM OrderDesk φ)
    (until?' : ψ → Option Instant) (isDone' : ψ → Bool) (step' : ψ → StateM OrderDesk ψ)
    (place : φ → ψ) : Prop where
  waits : ∀ p, isDone p = false → until?' (place p) = until? p
  running : ∀ p, isDone p = false → isDone' (place p) = false
  steps : ∀ p, isDone p = false → step' (place p) = do return place (← step p)

variable {place : φ → ψ}

/-- The turns are the same. -/
theorem Within.turn (within : Within until? isDone step until?' isDone' step' place) {p : φ}
    (running : isDone p = false) (s : Shop) :
    (Shop.turn cfg until?' step' (place p)).run s =
      (place ((Shop.turn cfg until? step p).run s).1, ((Shop.turn cfg until? step p).run s).2) := by
  unfold Shop.turn
  rw [within.waits p running, within.steps p running]
  cases until? p <;> rfl

/-- **What lies within something else is gone through first.** -/
theorem follow_within (cfg : Config)
    (within : Within until? isDone step until?' isDone' step' place)
    (fuel more : Nat) (p : φ) (s : Shop) :
    ∃ left, more ≤ left ∧
      (follow cfg until?' isDone' step' (fuel + more) (place p)).run s =
        (follow cfg until?' isDone' step' left
          (place ((follow cfg until? isDone step fuel p).run s).1)).run
            ((follow cfg until? isDone step fuel p).run s).2 := by
  induction fuel generalizing p s with
  | zero => exact ⟨more, Nat.le_refl _, by rw [Nat.zero_add]; rfl⟩
  | succ fuel ih =>
    cases running : isDone p with
    | true => exact ⟨fuel + 1 + more, by omega, by rw [follow_done running]⟩
    | false =>
      obtain ⟨left, enough, same⟩ :=
        ih ((Shop.turn cfg until? step p).run s).1 ((Shop.turn cfg until? step p).run s).2
      refine ⟨left, enough, ?_⟩
      rw [show fuel + 1 + more = fuel + more + 1 by omega,
        follow_turn (within.running p running), within.turn running, same, follow_turn running]

end

end OrderFlow.Shop
