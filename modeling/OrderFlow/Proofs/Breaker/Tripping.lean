import OrderFlow.Proofs.Breaker.Safety

/-!
A service that fails at every call trips its breaker (`failing_service_trips`), as long as the
breaker remembers as many calls as it has to know of. The window fills with failures from its end:
when they have pushed out everything else, the share of failures is one, which no threshold exceeds.
A breaker that has to know of more calls than it remembers never trips at all.
-/
namespace OrderFlow

/-- The quotient of a number and itself does not depend on the number. -/
theorem Binary64.ofRatio_self {n : Nat} (pos : 0 < n) :
    ofRatio false n n = .finite false (2 ^ 52) (-52) := by
  have whole : n * 2 ^ 52 / n = 2 ^ 52 := Nat.mul_div_cancel_left _ pos
  have exponent : max (exponentOf n n) (-1074) = -52 := by
    have least : exponentOf n n = -52 := by simp [exponentOf, whole]
    rw [least]
    decide
  have rounded : Number.roundHalfEven (n * 2 ^ 52) (n * 2 ^ 0) = 2 ^ 52 := by
    rw [Nat.mul_comm n (2 ^ 52), Nat.pow_zero, Nat.mul_one]
    exact Number.roundHalfEven_mul _ pos
  have up : (-(-52 : Int)).toNat = 52 := rfl
  have down : (-52 : Int).toNat = 0 := rfl
  simp only [ofRatio, Nat.ne_of_gt pos, exponent, up, down, rounded, ↓reduceIte]
  decide

namespace Breaker
variable {c : Config}

/-- Where every call has failed, the share of failures is one. -/
theorem failureRate_replicate {n : Nat} (pos : 0 < n) :
    failureRate (List.replicate n true) = .ofNat 1 := by
  have some_ : List.replicate n true ≠ [] := by simp; omega
  rw [failureRate, if_neg some_, List.filter_replicate]
  simp only [id_eq, ↓reduceIte, List.length_replicate]
  rw [Binary64.ofRatio_self pos, Binary64.ofNat, Binary64.ofRatio_self Nat.one_pos]

theorem trips_replicate {n : Nat} (pos : 0 < n) (enough : c.minimum ≤ n)
    (sane : c.threshold.le (.ofNat 1) = true) : trips c (List.replicate n true) = true := by
  simp [trips, failureRate_replicate pos, enough, sane]

/-- A window that ends in so many failures. -/
def EndsFailed (n : Nat) (window : List Bool) : Prop :=
  ∃ front, window = front ++ List.replicate n true

/-- One failure more, as long as there is room for it. -/
theorem EndsFailed.remember {n : Nat} {window : List Bool} (ends : EndsFailed n window)
    (room : n < c.window) : EndsFailed (n + 1) (remember c true window) := by
  obtain ⟨front, rfl⟩ := ends
  unfold Breaker.remember
  cases front with
  | nil =>
    have few : ¬ c.window ≤ ([] ++ List.replicate n true).length := by simp; omega
    rw [if_neg few]
    exact ⟨[], by simp [List.replicate_succ']⟩
  | cons first front =>
    split
    · exact ⟨front, by simp [List.replicate_succ']⟩
    · exact ⟨first :: front, by simp [List.replicate_succ']⟩

/-- A window of failures only. -/
theorem EndsFailed.all {window : List Bool} (ends : EndsFailed c.window window)
    (fits : window.length ≤ c.window) : window = List.replicate c.window true := by
  obtain ⟨front, rfl⟩ := ends
  simp only [List.length_append, List.length_replicate] at fits
  have none : front = [] := List.eq_nil_of_length_eq_zero (by omega)
  rw [none, List.nil_append]

namespace Circuit
variable {x x' : Circuit} {e : Event} {n : Nat}

/-- One event brings one report at most. -/
theorem Step.results (step : Step c x e x') :
    x'.results = x.results ∨ ∃ r, x'.results = x.results ++ [r] := by
  cases step with
  | passes | refuses | flows | begins | tries | rests => exact .inl rfl
  | @ends _ r => exact .inr ⟨r, rfl⟩

/-- What was reported stays. -/
theorem results_run (c : Config) (x : Circuit) (events : List Event) :
    ∃ more, (x.run c events).results = x.results ++ more := by
  refine run_keeps (P := fun x' => ∃ more, x'.results = x.results ++ more)
    ⟨[], (List.append_nil _).symm⟩ ?_
  intro x' e x'' ⟨more, told⟩ step
  rcases step.results with same | ⟨r, grows⟩
  · exact ⟨more, same.trans told⟩
  · exact ⟨more ++ [r], by rw [grows, told, List.append_assoc]⟩

/-- A closed breaker the last `n` reports to which were failures, and not enough of them to fill its
memory. -/
structure IsFailing (c : Config) (n : Nat) (x : Circuit) : Prop where
  closed : ∃ window, x.state = .closed window ∧ window.length ≤ c.window ∧ EndsFailed n window
  few : n < c.window

/-- A failure that does not trip the breaker leaves room for another one. -/
theorem IsFailing.step (failing : IsFailing c n x) (step : Step c x e x')
    (enough : c.minimum ≤ c.window) (sane : c.threshold.le (.ofNat 1) = true)
    (untripped : x'.state.mode ≠ .tripped) :
    (x'.results = x.results ∧ IsFailing c n x') ∨
      ∃ r, x'.results = x.results ++ [r] ∧ (r = .failure → IsFailing c (n + 1) x') := by
  obtain ⟨⟨window, closed, fits, ends⟩, few⟩ := failing
  have pos : 1 ≤ c.window := by omega
  cases step with
  | passes | refuses | flows | rests => exact .inl ⟨rfl, ⟨window, closed, fits, ends⟩, few⟩
  | begins tripped => cases closed.symm.trans tripped
  | tries half => cases closed.symm.trans half
  | @ends _ r _ _ _ under turn still =>
    refine .inr ⟨r, rfl, ?_⟩
    rintro rfl
    rw [closed] at turn
    cases turn with
    | trips => exact absurd rfl untripped
    | fails quiet =>
      have fits := length_remember pos fits true
      have ends := ends.remember few
      refine ⟨⟨_, rfl, fits, ends⟩, Nat.lt_of_le_of_ne few fun full => ?_⟩
      rw [full] at ends
      rw [ends.all fits, trips_replicate pos enough sane] at quiet
      cases quiet

/-- As long as a breaker does not trip, fewer calls fail in a row than it remembers. -/
theorem IsFailing.run {more : List Event} {k : Nat} (failing : IsFailing c n x)
    (enough : c.minimum ≤ c.window) (sane : c.threshold.le (.ofNat 1) = true)
    (untripped : ∀ earlier later, more = earlier ++ later →
      (x.run c earlier).state.mode ≠ .tripped)
    (told : (x.run c more).results = x.results ++ List.replicate k .failure) :
    n + k < c.window := by
  induction more generalizing x n k with
  | nil =>
    have none : List.replicate k Result.failure = [] := List.self_eq_append_right.mp told
    have := failing.few
    have := congrArg List.length none
    simp at this
    omega
  | cons e more ih =>
    have later : ∀ earlier rest, more = earlier ++ rest →
        ((x.step c e).run c earlier).state.mode ≠ .tripped := by
      intro earlier rest parts
      exact untripped (e :: earlier) rest (congrArg (e :: ·) parts)
    rcases failing.step (step_cases c x e) enough sane (untripped [e] more rfl) with
      ⟨same, failing⟩ | ⟨r, grows, failing⟩
    · exact ih failing later (same ▸ told)
    · obtain ⟨rest, whole⟩ := results_run c (x.step c e) more
      have told : x.results ++ r :: rest = x.results ++ List.replicate k .failure := by
        rw [← told, List.append_cons, ← grows, ← whole]
        rfl
      cases k with
      | zero => simp at told
      | succ k =>
        obtain ⟨rfl, rfl⟩ := List.cons.inj (List.append_cancel_left told)
        have := ih (failing rfl) later whole
        omega

/-- A breaker that has to know of more calls than it remembers stays closed. -/
theorem stays_closed (built : c.IsBuilt) (small : c.window < c.minimum) (around : Surroundings)
    (events : List Event) : ((opening around).run c events).state.mode = .closed := by
  have closed : ∃ window, ((opening around).run c events).state = .closed window ∧
      window.length ≤ c.window := by
    refine run_keeps (P := fun x => ∃ window, x.state = .closed window ∧ window.length ≤ c.window)
      ⟨[], rfl, Nat.zero_le _⟩ ?_
    intro x e x' ⟨window, closed, fits⟩ step
    cases step with
    | passes | refuses | flows | rests => exact ⟨window, closed, fits⟩
    | begins tripped => cases closed.symm.trans tripped
    | tries half => cases closed.symm.trans half
    | ends under turn still =>
      have fits' (failed : Bool) : (remember c failed window).length ≤ c.window :=
        length_remember built.positive.1 fits failed
      rw [closed] at turn
      cases turn with
      | succeeds => exact ⟨_, rfl, fits' false⟩
      | fails => exact ⟨_, rfl, fits' true⟩
      | ignores => exact ⟨window, rfl, fits⟩
      | trips enough =>
        have known := fits' true
        simp only [Breaker.trips, Bool.and_eq_true, decide_eq_true_eq] at enough
        omega
  obtain ⟨window, closed, -⟩ := closed
  rw [closed]
  rfl

/-- **A service that keeps failing trips its breaker.** If the threshold is at most one and the
breaker remembers as many calls as it has to know of, then a closed breaker trips, whatever has
happened to it before, no later than when as many failures as it remembers have been reported in a
row. A breaker that has to know of more calls than it remembers never leaves its closed state. -/
theorem failing_service_trips (name : String) (s : Settings.Breaker)
    (sane : s.failureRateThreshold.le (.ofNat 1) = true) (around : Surroundings)
    (events more : List Event) (k : Nat) :
    let c := Config.ofSettings name s
    let x := (opening around).run c events
    (c.minimum ≤ c.window → x.state.mode = .closed →
      (x.run c more).results = x.results ++ List.replicate k .failure →
      max c.window c.minimum ≤ k →
      ∃ earlier later, more = earlier ++ later ∧ (x.run c earlier).state.mode = .tripped) ∧
    (c.window < c.minimum → x.state.mode = .closed) := by
  intro c x
  have built : c.IsBuilt := .settings name s
  refine ⟨fun enough closed told long => ?_, fun small => stays_closed built small around events⟩
  apply Classical.byContradiction
  intro never
  have untripped : ∀ earlier later, more = earlier ++ later →
      (x.run c earlier).state.mode ≠ .tripped := by
    intro earlier later parts tripped
    exact never ⟨earlier, later, parts, tripped⟩
  have safe : IsSafe c x :=
    run_keeps (opening_isSafe c around) fun _ _ _ safe step => safe.step built step
  have failing : IsFailing c 0 x := by
    cases safe with
    | closed state cooled fits =>
      exact ⟨⟨_, state, fits, _, (List.append_nil _).symm⟩, built.positive.1⟩
    | tripped state => rw [state] at closed; cases closed
    | half state => rw [state] at closed; cases closed
  have := failing.run enough sane untripped told
  omega

/-- After two successes the fourth failure in a row fills a memory of four; the breaker, which has
to know of two calls, has tripped by then. -/
theorem trips_after_successes :
    let s : Settings.Breaker := { windowSize := 4, minimumCalls := 2 }
    let c := Config.ofSettings "service" s
    let events : List Event :=
      [.ask, .ask, .ask, .ask, .ask, .ask, .report 0 .success, .report 1 .success]
    let more : List Event :=
      [.report 2 .failure, .report 3 .failure, .pass (.ofSeconds 1), .report 4 .failure,
        .report 5 .failure]
    let x := (opening { now := ⟨0⟩ }).run c events
    s.failureRateThreshold.le (.ofNat 1) = true ∧ c.minimum ≤ c.window ∧ x.state.mode = .closed ∧
      (x.run c more).results = x.results ++ List.replicate 4 .failure ∧ max c.window c.minimum = 4 ∧
      ∃ earlier later, more = earlier ++ later ∧ (x.run c earlier).state.mode = .tripped := by
  intro s c events more x
  have sane : s.failureRateThreshold.le (.ofNat 1) = true := by decide +kernel
  have enough : c.minimum ≤ c.window := by decide
  have closed : x.state.mode = .closed := by decide +kernel
  have told : (x.run c more).results = x.results ++ List.replicate 4 .failure := by decide +kernel
  have longest : max c.window c.minimum = 4 := by decide
  have trips := (failing_service_trips "service" s sane { now := ⟨0⟩ } events more 4).1
  have same : x = (opening { now := ⟨0⟩ }).run c events := rfl
  rw [← same] at trips
  exact ⟨sane, enough, closed, told, longest,
    trips enough closed told (Nat.le_of_eq longest)⟩

/-- A breaker that remembers one call and has to know of two: two failures in a row do not trip it.
-/
theorem two_failures_forgotten :
    let s : Settings.Breaker := { windowSize := 1, minimumCalls := 2 }
    let c := Config.ofSettings "service" s
    let x := (opening { now := ⟨0⟩ }).run c [.ask, .ask]
    let more : List Event := [.report 0 .failure, .report 1 .failure]
    s.failureRateThreshold.le (.ofNat 1) = true ∧ x.state.mode = .closed ∧
      (x.run c more).results = x.results ++ List.replicate 2 .failure ∧ max c.window c.minimum = 2 ∧
      ∀ earlier later, more = earlier ++ later → (x.run c earlier).state.mode ≠ .tripped := by
  intro s c x more
  refine ⟨by decide +kernel, by decide +kernel, by decide +kernel, by decide, ?_⟩
  intro earlier later parts
  have onward : x.run c earlier = (opening { now := ⟨0⟩ }).run c ([.ask, .ask] ++ earlier) :=
    List.foldl_append.symm
  rw [onward, stays_closed (.settings _ _) (by decide)]
  decide

end Circuit

end Breaker

end OrderFlow
