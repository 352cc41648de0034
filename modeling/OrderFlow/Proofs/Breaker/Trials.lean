import OrderFlow.Proofs.Breaker.Safety

/-!
The trials of a half-open period, and the strays: reports that come in while the period is on from
calls that began before it. The breaker takes a stray for a trial. It closes when its trials and the
strays together have succeeded often enough, and a stray that tells nothing gives back an attempt
that it never took, so that one trial more is let through (`trials_and_strays`). Where there are no
strays, the trials alone decide.
-/
namespace OrderFlow.Breaker

/-- What leaves a breaker half-open. -/
theorem Turn.of_half {c : Config} {now : Instant} {r : Result} {s : State}
    {attempts successes : Nat} (turn : Turn c now r s (.halfOpen attempts successes)) :
    ∃ attempts' successes', s = .halfOpen attempts' successes' ∧
      (r = .success ∧ attempts = attempts' ∧ successes = successes' + 1 ∨
        r = .ignored ∧ attempts = attempts' - 1 ∧ successes = successes') := by
  cases turn with
  | proves more => exact ⟨_, _, rfl, .inl ⟨rfl, rfl, rfl⟩⟩
  | returns attempts' successes => exact ⟨attempts', _, rfl, .inr ⟨rfl, rfl, rfl⟩⟩

namespace Circuit

/-- How many calls that a half-open period has let through are under way. -/
def trialsUnderWay (x : Circuit) (period : Nat) : Nat :=
  x.calls.countP fun k => k.period = some period ∧ k.ending = none

/-- How many calls that a half-open period has let through have succeeded while it was on. -/
def trialsProven (x : Circuit) (period : Nat) : Nat :=
  x.calls.countP fun k => k.period = some period ∧ k.ending = some (.success, some period)

/-- How many calls that it has not let through have reported so while it was on. -/
def strays (x : Circuit) (period : Nat) (r : Result) : Nat :=
  x.calls.countP fun k => k.period ≠ some period ∧ k.ending = some (r, some period)

variable {c : Config} {x x' : Circuit} {e : Event} {n : Nat} {own : Option Nat} {r : Result}

theorem trialsUnderWay_ended (under : x.calls[n]? = some { period := own }) (r : Result) (p : Nat) :
    (x.ended n own r).trialsUnderWay p + (if own = some p then 1 else 0) = x.trialsUnderWay p := by
  simpa [trialsUnderWay] using count_ended under r fun k => k.period = some p ∧ k.ending = none

theorem trialsProven_ended (under : x.calls[n]? = some { period := own }) (r : Result) (p : Nat) :
    (x.ended n own r).trialsProven p =
      x.trialsProven p + if own = some p ∧ r = .success ∧ x.period? = some p then 1 else 0 := by
  simpa [trialsProven] using
    count_ended under r fun k => k.period = some p ∧ k.ending = some (.success, some p)

theorem strays_ended (under : x.calls[n]? = some { period := own }) (r r' : Result) (p : Nat) :
    (x.ended n own r).strays p r' =
      x.strays p r' + if own ≠ some p ∧ r = r' ∧ x.period? = some p then 1 else 0 := by
  simpa [strays] using
    count_ended under r fun k => k.period ≠ some p ∧ k.ending = some (r', some p)

section
variable (more : x'.calls = x.calls ++ [{ period := own }])
include more

theorem trialsUnderWay_snoc (p : Nat) :
    x'.trialsUnderWay p = x.trialsUnderWay p + if own = some p then 1 else 0 := by
  simp [trialsUnderWay, more, List.countP_cons]

theorem trialsProven_snoc (p : Nat) : x'.trialsProven p = x.trialsProven p := by
  simp [trialsProven, more]

theorem strays_snoc (p : Nat) (r : Result) : x'.strays p r = x.strays p r := by
  simp [strays, more]

end

/-- Every period that a call knows of has begun. -/
def IsDated (x : Circuit) : Prop :=
  ∀ k ∈ x.calls, (∀ p, k.period = some p → p ≤ x.periods) ∧
    ∀ r p, k.ending = some (r, some p) → p ≤ x.periods

theorem IsDated.snoc (dated : IsDated x) (more : x'.calls = x.calls ++ [{ period := own }])
    (grows : x.periods ≤ x'.periods) (begun : ∀ p, own = some p → p ≤ x'.periods) :
    IsDated x' := by
  intro k member
  rw [more] at member
  rcases List.mem_append.mp member with old | new
  · obtain ⟨period, ending⟩ := dated k old
    exact ⟨fun p same => Nat.le_trans (period p same) grows,
      fun r p same => Nat.le_trans (ending r p same) grows⟩
  · cases List.mem_singleton.mp new
    exact ⟨begun, fun r p none => nomatch none⟩

theorem IsDated.ended (dated : IsDated x) (under : x.calls[n]? = some { period := own })
    (r : Result) : IsDated (x.ended n own r) := by
  intro k member
  obtain ⟨period, -⟩ := dated _ (List.mem_of_getElem? under)
  rcases List.mem_or_eq_of_mem_set member with old | rfl
  · exact dated k old
  · refine ⟨period, fun r' p same => ?_⟩
    simp [period?] at same
    exact Nat.le_of_eq same.2.2.symm

/-- Nothing is known yet of a period that has not begun. -/
theorem IsDated.unbegun (dated : IsDated x) {p : Nat} (later : x.periods < p) :
    x.trialsUnderWay p = 0 ∧ x.trialsProven p = 0 ∧ ∀ r, x.strays p r = 0 := by
  refine ⟨?_, ?_, fun r => ?_⟩ <;> apply List.countP_eq_zero.mpr <;> intro k member known
  · obtain ⟨same, -⟩ := of_decide_eq_true known
    exact absurd ((dated k member).1 p same) (Nat.not_le.mpr later)
  · obtain ⟨same, -⟩ := of_decide_eq_true known
    exact absurd ((dated k member).1 p same) (Nat.not_le.mpr later)
  · obtain ⟨-, same⟩ := of_decide_eq_true known
    exact absurd ((dated k member).2 r p same) (Nat.not_le.mpr later)

/-- A circuit whose breaker has counted trials and strays alike. -/
structure IsCounted (c : Config) (x : Circuit) : Prop where
  dated : IsDated x
  bounded : ∀ p, x.trialsUnderWay p ≤ c.permits + x.strays p .ignored
  half : ∀ attempts successes, x.state = .halfOpen attempts successes →
    attempts ≤ c.permits ∧
    successes = x.trialsProven x.periods + x.strays x.periods .success ∧
    x.trialsUnderWay x.periods + x.trialsProven x.periods ≤ attempts + x.strays x.periods .ignored

theorem opening_isCounted (c : Config) (around : Surroundings) : IsCounted c (opening around) where
  dated := by
    intro k member
    cases member
  bounded := by
    intro p
    simp [opening, trialsUnderWay]
  half := by
    intro attempts successes half
    cases half

theorem period?_half {attempts successes : Nat} (half : x.state = .halfOpen attempts successes) :
    x.period? = some x.periods :=
  if_pos (congrArg State.mode half)

/-- A report leaves the number of periods as it was. -/
theorem periods_ended {s : State} {now : Instant} {around : Surroundings}
    (turn : Turn c now r x.state s) : ((x.ended n own r).turned s around).periods = x.periods :=
  if_neg fun new => new.1 (turn.half new.2)

theorem IsCounted.ends (counted : IsCounted c x) {s : State} {around : Surroundings}
    (under : x.calls[n]? = some { period := own }) (turn : Turn c x.around.now r x.state s) :
    IsCounted c ((x.ended n own r).turned s around) := by
  have periods : ((x.ended n own r).turned s around).periods = x.periods := periods_ended turn
  refine ⟨?_, fun p => ?_, fun attempts successes half => ?_⟩
  · have dated := counted.dated.ended under r
    intro k member
    rw [periods]
    exact dated k member
  · have fewer := trialsUnderWay_ended under r p
    have more := strays_ended under r .ignored p
    have bounded := counted.bounded p
    show (x.ended n own r).trialsUnderWay p ≤ c.permits + (x.ended n own r).strays p .ignored
    omega
  · rw [periods]
    have fewer := trialsUnderWay_ended under r x.periods
    have proven := trialsProven_ended under r x.periods
    have strays := strays_ended under r
    show attempts ≤ c.permits ∧ successes = (x.ended n own r).trialsProven x.periods +
        (x.ended n own r).strays x.periods .success ∧
      (x.ended n own r).trialsUnderWay x.periods + (x.ended n own r).trialsProven x.periods ≤
        attempts + (x.ended n own r).strays x.periods .ignored
    have half : s = .halfOpen attempts successes := half
    rw [half] at turn
    obtain ⟨attempts', successes', state, way⟩ := turn.of_half
    obtain ⟨within, successful, covered⟩ := counted.half _ _ state
    have on := period?_half state
    have succeeded := strays .success x.periods
    have ignored := strays .ignored x.periods
    by_cases trial : own = some x.periods
    · subst trial
      rcases way with ⟨rfl, rfl, rfl⟩ | ⟨rfl, rfl, rfl⟩ <;>
        simp [on] at fewer proven succeeded ignored <;> omega
    · rcases way with ⟨rfl, rfl, rfl⟩ | ⟨rfl, rfl, rfl⟩ <;>
        simp [on, trial] at fewer proven succeeded ignored <;> omega

theorem IsCounted.step (counted : IsCounted c x) (built : c.IsBuilt) (step : Step c x e x') :
    IsCounted c x' := by
  cases step with
  | passes d => exact ⟨counted.dated, counted.bounded, counted.half⟩
  | refuses full still => exact ⟨counted.dated, counted.bounded, counted.half⟩
  | rests => exact counted
  | ends under turn still => exact counted.ends under turn
  | flows closed still =>
    refine ⟨counted.dated.snoc rfl (Nat.le_refl _) (fun _ none => nomatch none), fun p => ?_,
      fun _ _ half => nomatch closed.symm.trans half⟩
    rw [trialsUnderWay_snoc rfl, strays_snoc rfl]
    exact counted.bounded p
  | begins tripped cooled still =>
    obtain ⟨-, -, one⟩ := built.positive
    obtain ⟨none, unproven, unreported⟩ := counted.dated.unbegun (Nat.lt_succ_self x.periods)
    refine ⟨counted.dated.snoc rfl (Nat.le_succ _) fun p same => ?_, fun p => ?_,
      fun attempts successes half => ?_⟩
    · cases same
      exact Nat.le_refl _
    · rw [trialsUnderWay_snoc rfl, strays_snoc rfl]
      by_cases new : p = x.periods + 1
      · subst new
        simp only [none, ↓reduceIte]
        omega
      · have other : some (x.periods + 1) ≠ some p := by simpa using Ne.symm new
        simp only [other, ↓reduceIte]
        exact counted.bounded p
    · cases half
      rw [trialsUnderWay_snoc rfl, trialsProven_snoc rfl, strays_snoc rfl _ .success,
        strays_snoc rfl _ .ignored]
      simpa [none, unproven, unreported] using one
  | tries half room still =>
    obtain ⟨within, successful, covered⟩ := counted.half _ _ half
    refine ⟨counted.dated.snoc rfl (Nat.le_refl _) fun p same => ?_, fun p => ?_,
      fun attempts successes now => ?_⟩
    · cases same
      exact Nat.le_refl _
    · rw [trialsUnderWay_snoc rfl, strays_snoc rfl]
      by_cases own : p = x.periods
      · subst own
        simp only [↓reduceIte]
        omega
      · have other : some x.periods ≠ some p := by simpa using Ne.symm own
        simp only [other, ↓reduceIte]
        exact counted.bounded p
    · cases now
      rw [trialsUnderWay_snoc rfl, trialsProven_snoc rfl, strays_snoc rfl _ .success,
        strays_snoc rfl _ .ignored]
      simp only [↓reduceIte]
      omega

theorem run_isCounted (built : c.IsBuilt) (around : Surroundings) (events : List Event) :
    IsCounted c ((opening around).run c events) :=
  run_keeps (opening_isCounted c around) fun _ _ _ counted step => counted.step built step

/-- Only a success closes a half-open breaker, and only the last one that it waits for. -/
theorem IsCounted.closes (counted : IsCounted c x) (step : Step c x e x')
    (half : x.state.mode = .halfOpen) (closed : x'.state.mode = .closed) :
    c.permits ≤ x'.trialsProven x.periods + x'.strays x.periods .success := by
  cases step with
  | passes d => cases half.symm.trans closed
  | refuses full still => cases half.symm.trans closed
  | flows closed' still => cases half.symm.trans (congrArg State.mode closed')
  | begins tripped cooled still => cases closed
  | tries half' room still => cases closed
  | rests => cases half.symm.trans closed
  | @ends n r own s around under turn still =>
    have proven := trialsProven_ended under r x.periods
    have strays := strays_ended under r .success x.periods
    show c.permits ≤ (x.ended n own r).trialsProven x.periods +
      (x.ended n own r).strays x.periods .success
    cases state : x.state with
    | closed window => simp [state, State.mode] at half
    | tripped since => simp [state, State.mode] at half
    | halfOpen attempts successes =>
      obtain ⟨-, successful, -⟩ := counted.half _ _ state
      have on := period?_half state
      rw [state] at turn
      cases turn with
      | proves more => cases closed
      | retrips => cases closed
      | returns => cases closed
      | closes enough =>
        by_cases trial : own = some x.periods
        · subst trial
          simp [on] at proven strays
          omega
        · simp [on, trial] at proven strays
          omega

/-- **What the trials decide and what the strays.** A half-open breaker closes only when its trials
and the strays of this period together have succeeded as often as it has permits. Of the calls that
a half-open period has let through, no more are ever under way than it has permits and strays that
told nothing. -/
theorem trials_and_strays (c : Config) (built : c.IsBuilt) (around : Surroundings)
    (events : List Event) :
    let x := (opening around).run c events
    (∀ e, x.state.mode = .halfOpen → (x.step c e).state.mode = .closed →
      c.permits ≤ (x.step c e).trialsProven x.periods + (x.step c e).strays x.periods .success) ∧
    ∀ p, x.trialsUnderWay p ≤ c.permits + x.strays p .ignored := by
  intro x
  have counted : IsCounted c x := run_isCounted built around events
  exact ⟨fun e => counted.closes (step_cases c x e), counted.bounded⟩

/-- Two trials, both of them successful, close the breaker; a call from before the trip reports only
afterwards. -/
theorem closed_by_trials :
    let c := (Config.withWindow { name := "service" } 1 1).withPermits 2
    let events : List Event :=
      [.ask, .ask, .report 1 .failure, .pass (.ofSeconds 30), .ask, .ask, .report 3 .success]
    let x := (opening { now := ⟨0⟩ }).run c events
    let x' := x.step c (.report 2 .success)
    c.IsBuilt ∧ x.state.mode = .halfOpen ∧ x'.state.mode = .closed ∧ x.periods = 1 ∧
      x'.strays 1 .success = 0 ∧ c.permits ≤ x'.trialsProven 1 ∧
      x.trialsUnderWay 1 ≤ c.permits := by
  intro c events x x'
  have built : c.IsBuilt := .permits (.window (.named _) _ _) _
  have half : x.state.mode = .halfOpen := by decide +kernel
  have closed : x'.state.mode = .closed := by decide +kernel
  have first : x.periods = 1 := by decide +kernel
  have strays : x'.strays 1 .success = 0 := by decide +kernel
  have ignored : x.strays 1 .ignored = 0 := by decide +kernel
  obtain ⟨closes, bounded⟩ := trials_and_strays c built { now := ⟨0⟩ } events
  have same : x = (opening { now := ⟨0⟩ }).run c events := rfl
  rw [← same] at closes bounded
  have closes := closes (.report 2 .success)
  have same' : x' = x.step c (.report 2 .success) := rfl
  rw [← same', first, strays, Nat.add_zero] at closes
  have bounded := bounded 1
  rw [ignored, Nat.add_zero] at bounded
  exact ⟨built, half, closed, first, strays, closes half closed, bounded⟩

/-- Two calls from before the trip close a breaker with two permits while its only trial is under
way; and one of them makes room for a second trial of a breaker with one permit. -/
theorem strays_close_and_crowd :
    let c := Config.withWindow { name := "service" } 1 1
    let two := c.withPermits 2
    let x := (opening { now := ⟨0⟩ }).run two
      [.ask, .ask, .ask, .report 2 .failure, .pass (.ofSeconds 30), .ask, .report 0 .success]
    let x' := x.step two (.report 1 .success)
    let one := c.withPermits 1
    let y := (opening { now := ⟨0⟩ }).run one
      [.ask, .ask, .report 1 .failure, .pass (.ofSeconds 30), .ask, .report 0 .ignored, .ask]
    (two.IsBuilt ∧ x.state.mode = .halfOpen ∧ x'.state.mode = .closed ∧
      x'.trialsProven x.periods = 0 ∧ x'.trialsUnderWay x.periods = 1 ∧ two.permits = 2) ∧
    one.IsBuilt ∧ y.state.mode = .halfOpen ∧ y.trialsUnderWay y.periods = 2 ∧ one.permits = 1 := by
  intro c two x x' one y
  have built : c.IsBuilt := .window (.named _) _ _
  refine ⟨⟨built.permits 2, ?_⟩, built.permits 1, ?_⟩ <;> decide +kernel

end Circuit

end OrderFlow.Breaker
