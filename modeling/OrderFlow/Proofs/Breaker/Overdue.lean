import OrderFlow.Proofs.Breaker.Memory
import OrderFlow.Proofs.Breaker.Safety
import OrderFlow.Proofs.Number.Arithmetic

/-!
A breaker looks at what it remembers only when a call has failed. So it may be overdue: it stays
closed although it remembers enough calls, and too large a share of them has failed. That comes
about in one way only, by successes that add the number of calls which the breaker has to know of;
and it lasts until the next failure at most (`overdue_until_next_failure`). A success never makes
the share of failures larger, and a failure never makes it smaller.
-/
namespace OrderFlow.Breaker
variable {c : Config} {window : List Bool}

/-! ### The share of failures -/

/-- The exact share of failures, none if there were no calls. -/
def share (window : List Bool) : ℚ := ((window.filter id).length : ℚ) / window.length

theorem failureRate_rounds (window : List Bool) :
    (failureRate window).IsProper ∧ Number.IsRounded (share window) (failureRate window).value := by
  have failures : (window.filter id).length ≤ window.length := List.length_filter_le _ _
  unfold failureRate
  split
  · next none =>
    subst none
    have zero := Binary64.ofNat_rounds (n := 0) (by norm_num)
    simpa [share] using zero
  · next some =>
    have pos : 0 < window.length := List.length_pos_iff.mpr some
    refine Binary64.ofRatio_value pos ?_ nofun
    have one : ((window.filter id).length : ℚ) / window.length ≤ 2 ^ 0 := by
      rw [pow_zero, div_le_one (by exact_mod_cast pos)]
      exact_mod_cast failures
    exact Number.lt_top one (by norm_num)

theorem failureRate_finite (window : List Bool) : (failureRate window).isFinite = true :=
  (failureRate_rounds window).1.isFinite

/-- A larger share reaches every threshold that a smaller one reaches. -/
theorem le_failureRate {window' : List Bool} {threshold : Binary64}
    (more : share window ≤ share window') (le : threshold.le (failureRate window) = true) :
    threshold.le (failureRate window') = true :=
  Binary64.le_of_value_le (failureRate_finite window) (failureRate_finite window')
    ((failureRate_rounds window).2.le (failureRate_rounds window').2 more) le

theorem share_snoc (window : List Bool) (failed : Bool) : share (window ++ [failed]) =
    ((window.filter id).length + failed.toNat) / (window.length + 1) := by
  cases failed <;> simp [share]

theorem share_cons (window : List Bool) (failed : Bool) : share (failed :: window) =
    ((window.filter id).length + failed.toNat) / (window.length + 1) := by
  cases failed <;> simp [share]

/-- One failure more does not make the share of failures smaller. -/
theorem share_remember_true (room : 1 ≤ c.window) (window : List Bool) :
    share window ≤ share (remember c true window) := by
  unfold remember
  cases window with
  | nil =>
    rw [if_neg (by simp; omega), share_snoc]
    simp [share]
  | cons first window =>
    split
    · rw [List.tail_cons, share_snoc, share_cons]
      gcongr
      exact Bool.toNat_le first
    · rw [share_snoc, share]
      have failures : ((first :: window).filter id).length ≤ (first :: window).length :=
        List.length_filter_le _ _
      rw [div_le_div_iff₀ (by simp; positivity) (by positivity)]
      have : (((first :: window).filter id).length : ℚ) ≤ (first :: window).length := by
        exact_mod_cast failures
      simp only [Bool.toNat_true, Nat.cast_one]
      linarith

/-- One success more does not make it larger. -/
theorem share_remember_false (room : 1 ≤ c.window) (window : List Bool) :
    share (remember c false window) ≤ share window := by
  unfold remember
  cases window with
  | nil =>
    rw [if_neg (by simp; omega), share_snoc]
    simp [share]
  | cons first window =>
    split
    · rw [List.tail_cons, share_snoc, share_cons]
      gcongr
      exact Nat.zero_le _
    · rw [share_snoc, share]
      have pos : (0 : ℚ) < (first :: window).length := Nat.cast_pos.mpr (Nat.succ_pos _)
      gcongr
      · simp
      · exact le_add_of_nonneg_right zero_le_one

/-! ### Overdue breakers -/

/-- The rule by which a breaker trips does not apply, or only successes have come since it has known
of enough calls. -/
def IsExcused (c : Config) (window : List Bool) : Prop :=
  (window.length < c.minimum ∨ (failureRate window).lt c.threshold = true) ∨
    ∃ few n, window = few ++ List.replicate n false ∧ few.length < c.minimum

/-- The rule by which a breaker trips applies or does not. -/
theorem trips_eq_false (number : c.threshold ≠ .nan) (window : List Bool) :
    trips c window = false ↔
      window.length < c.minimum ∨ (failureRate window).lt c.threshold = true := by
  rw [Binary64.lt_eq_not_le (failureRate_finite window) number, trips]
  simp only [Bool.and_eq_false_iff, decide_eq_false_iff_not, not_le, Bool.not_eq_true']

/-- One more success behind some others. -/
theorem remember_false_append (c : Config) (few : List Bool) (n : Nat) :
    ∃ few' n', remember c false (few ++ List.replicate n false) =
      few' ++ List.replicate n' false ∧ few'.length ≤ few.length := by
  unfold remember
  split
  · cases few with
    | nil =>
      refine ⟨[], n - 1 + 1, ?_, Nat.le_refl _⟩
      rw [List.nil_append, List.nil_append, List.tail_replicate, List.replicate_succ']
    | cons first few =>
      refine ⟨few, n + 1, ?_, Nat.le_succ _⟩
      rw [List.cons_append, List.tail_cons, List.append_assoc, List.replicate_succ']
  · refine ⟨few, n + 1, ?_, Nat.le_refl _⟩
    rw [List.append_assoc, List.replicate_succ']

theorem IsExcused.remember_false (excused : IsExcused c window) (room : 1 ≤ c.window)
    (number : c.threshold ≠ .nan) : IsExcused c (remember c false window) := by
  have later (few : List Bool) (n : Nat) (short : few.length < c.minimum) :
      IsExcused c (remember c false (few ++ List.replicate n false)) := by
    obtain ⟨few', n', same, shorter⟩ := remember_false_append c few n
    exact .inr ⟨few', n', same, Nat.lt_of_le_of_lt shorter short⟩
  rcases excused with (few | below) | ⟨few, n, rfl, short⟩
  · have start := later window 0 few
    rwa [List.replicate_zero, List.append_nil] at start
  · refine .inl (.inr ?_)
    rw [Binary64.lt_eq_not_le (failureRate_finite _) number, Bool.not_eq_true'] at below ⊢
    refine Bool.eq_false_iff.mpr fun reached => ?_
    rw [le_failureRate (share_remember_false room window) reached] at below
    cases below
  · exact later few n short

/-- A breaker that trips by what it remembers trips at the next failure as well. -/
theorem trips_remember_true (room : 1 ≤ c.window) (overdue : trips c window = true) :
    trips c (remember c true window) = true := by
  simp only [trips, Bool.and_eq_true, decide_eq_true_eq] at overdue ⊢
  refine ⟨?_, le_failureRate (share_remember_true room window) overdue.2⟩
  unfold remember
  split
  · simp only [List.length_append, List.length_tail, List.length_singleton]
    omega
  · simp only [List.length_append, List.length_singleton]
    omega

/-- How a closed state comes about: of nothing, or of a closed one by a success, by a failure that
does not trip the breaker, or by what does not count. -/
theorem used_closed_cases {s : State} {e : Instant × Use} (closed : used c s e = .closed window) :
    window = [] ∨ ∃ before, s = .closed before ∧
      (window = before ∨ window = remember c false before ∨
        window = remember c true before ∧ trips c window = false) := by
  obtain ⟨now, u⟩ := e
  cases u with
  | ask =>
    cases s with
    | closed before =>
      cases closed
      exact .inr ⟨_, rfl, .inl rfl⟩
    | tripped | halfOpen =>
      simp only [used, permit] at closed
      split at closed <;> cases closed
  | report r =>
    have turn := settle_turns c now r s
    simp only [used] at closed
    rw [closed] at turn
    cases turn with
    | succeeds before => exact .inr ⟨before, rfl, .inr (.inl rfl)⟩
    | @fails before few => exact .inr ⟨before, rfl, .inr (.inr ⟨rfl, few⟩)⟩
    | ignores => exact .inr ⟨_, rfl, .inl rfl⟩
    | closes => exact .inl rfl

/-- **A closed breaker is excused**, whatever it was used for. -/
theorem isExcused_after (built : c.IsBuilt) (number : c.threshold ≠ .nan)
    (past : List (Instant × Use)) (closed : after c past = .closed window) :
    IsExcused c window := by
  have fresh : IsExcused c [] := .inl (.inl built.positive.2.1)
  induction past using List.reverseRecOn generalizing window with
  | nil =>
    cases closed
    exact fresh
  | append_singleton past e ih =>
    rw [after_snoc] at closed
    rcases used_closed_cases closed with rfl | ⟨before, same, rfl | rfl | ⟨rfl, quiet⟩⟩
    · exact fresh
    · exact ih same
    · exact (ih same).remember_false built.positive.1 number
    · exact .inl ((trips_eq_false number _).mp quiet)

/-- What does not count leaves a closed breaker as it is. -/
theorem after_idle {past idle : List (Instant × Use)} (closed : after c past = .closed window)
    (uncounted : ∀ e ∈ idle, e.2.failed? = none) : after c (past ++ idle) = .closed window := by
  induction idle using List.reverseRecOn with
  | nil => rwa [List.append_nil]
  | append_singleton idle e ih =>
    have before := ih fun e' member => uncounted e' (List.mem_append_left _ member)
    have last := uncounted e (List.mem_append_right _ (List.mem_singleton_self e))
    rw [← List.append_assoc, after_snoc, before]
    obtain ⟨now, u⟩ := e
    cases u with
    | ask => rfl
    | report r =>
      cases r with
      | ignored => rfl
      | success | failure => cases last

/-- **A breaker is overdue until the next failure at most.** A closed breaker remembers fewer calls
than it has to know of, or the share of failures is below the threshold, or the calls that have come
since it has known of enough of them were successes. In the last case it may be overdue; then the
next failure trips it, whatever else that does not count it is used for in the meantime. -/
theorem overdue_until_next_failure (name : String) (s : Settings.Breaker)
    (positive : (Binary64.ofNat 0).lt s.failureRateThreshold = true)
    (past : List (Instant × Use)) (window : List Bool) :
    let c := Config.ofSettings name s
    after c past = .closed window →
      ((window.length < c.minimum ∨ (failureRate window).lt c.threshold = true) ∨
        ∃ few n, window = few ++ List.replicate n false ∧ few.length < c.minimum) ∧
      (¬ (window.length < c.minimum ∨ (failureRate window).lt c.threshold = true) →
        ∀ idle now, (∀ e ∈ idle, e.2.failed? = none) →
          after c (past ++ idle ++ [(now, .report .failure)]) = .tripped now) := by
  intro c closed
  have built : c.IsBuilt := .settings name s
  have number : c.threshold ≠ .nan := by
    intro none
    rw [show s.failureRateThreshold = .nan from none] at positive
    cases positive
  refine ⟨isExcused_after built number past closed, fun overdue idle now uncounted => ?_⟩
  have ripe : trips c window = true := by
    rwa [← trips_eq_false number, Bool.not_eq_false] at overdue
  rw [after_snoc, after_idle closed uncounted]
  exact if_pos (trips_remember_true built.positive.1 ripe)

/-- A success is the second of two calls, of which the breaker has to know; the first one has
failed, and half of them is enough. The next failure trips it, although others come in between. -/
theorem trips_one_failure_late :
    let s : Settings.Breaker := { windowSize := 5, minimumCalls := 2 }
    let c := Config.ofSettings "service" s
    let past : List (Instant × Use) := [(⟨0⟩, .report .failure), (⟨1⟩, .report .success)]
    let idle : List (Instant × Use) := [(⟨2⟩, .report .ignored), (⟨3⟩, .ask)]
    (Binary64.ofNat 0).lt s.failureRateThreshold = true ∧
      after c past = .closed [true, false] ∧
      ¬ ([true, false].length < c.minimum ∨ (failureRate [true, false]).lt c.threshold = true) ∧
      (∀ e ∈ idle, e.2.failed? = none) ∧
      after c (past ++ idle ++ [(⟨4⟩, .report .failure)]) = .tripped ⟨4⟩ := by
  intro s c past idle
  have positive : (Binary64.ofNat 0).lt s.failureRateThreshold = true := by decide +kernel
  have closed : after c past = .closed [true, false] := by decide +kernel
  have overdue : ¬ ([true, false].length < c.minimum ∨
      (failureRate [true, false]).lt c.threshold = true) := by decide +kernel
  have uncounted : ∀ e ∈ idle, e.2.failed? = none := by decide
  have late := overdue_until_next_failure "service" s positive past _ closed
  exact ⟨positive, closed, overdue, uncounted, late.2 overdue idle ⟨4⟩ uncounted⟩

/-- Three failures and a success: the breaker knows of enough calls, three of four have failed where
half of them is enough, and it is closed. -/
theorem closed_with_three_of_four_failed :
    let s : Settings.Breaker := { windowSize := 4, minimumCalls := 4 }
    let c := Config.ofSettings "service" s
    let past : List (Instant × Use) :=
      [(⟨0⟩, .report .failure), (⟨0⟩, .report .failure), (⟨0⟩, .report .failure),
        (⟨0⟩, .report .success)]
    (Binary64.ofNat 0).lt s.failureRateThreshold = true ∧
      ∃ window, after c past = .closed window ∧
        ¬ (window.length < c.minimum ∨ (failureRate window).lt c.threshold = true) := by
  intro s c past
  exact ⟨by decide +kernel, [true, true, true, false], by decide +kernel, by decide +kernel⟩

end OrderFlow.Breaker
