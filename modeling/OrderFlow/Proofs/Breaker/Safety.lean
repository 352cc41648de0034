import OrderFlow.Proofs.Breaker.Circuit

/-!
A circuit is safe at every moment (`IsSafe`), and it never gets stuck (`safe_and_never_stuck`).
What carries the second part is a count: of the attempts of a half-open period each has succeeded
or is still under way, because a call that ends without telling anything gives its attempt back. A
report from a call that began earlier can only make the count more generous.
-/
namespace OrderFlow.Breaker

namespace Config

/-- The configurations that can be built. -/
inductive IsBuilt : Config → Prop where
  | named (name : String) : IsBuilt { name }
  | settings (name : String) (s : Settings.Breaker) : IsBuilt (ofSettings name s)
  | window {c : Config} (built : IsBuilt c) (window minimum : Nat) :
      IsBuilt (c.withWindow window minimum)
  | threshold {c : Config} (built : IsBuilt c) (threshold : Binary64) :
      IsBuilt (c.withThreshold threshold)
  | openFor {c : Config} (built : IsBuilt c) (openFor : Span) : IsBuilt (c.withOpenFor openFor)
  | permits {c : Config} (built : IsBuilt c) (permits : Nat) : IsBuilt (c.withPermits permits)

/-- Whatever is asked for, no count is less than one. -/
theorem IsBuilt.positive {c : Config} (built : c.IsBuilt) :
    1 ≤ c.window ∧ 1 ≤ c.minimum ∧ 1 ≤ c.permits := by
  induction built with
  | named name => simp
  | settings name s => exact ⟨Nat.le_max_left 1 _, Nat.le_max_left 1 _, Nat.le_max_left 1 _⟩
  | window _ window minimum ih => exact ⟨Nat.le_max_left 1 _, Nat.le_max_left 1 _, ih.2.2⟩
  | threshold _ _ ih => exact ih
  | openFor _ _ ih => exact ih
  | permits _ permits ih => exact ⟨ih.1, ih.2.1, Nat.le_max_left 1 _⟩

end Config

variable {c : Config}

theorem length_remember {window : List Bool} (room : 1 ≤ c.window)
    (fits : window.length ≤ c.window) (failed : Bool) :
    (remember c failed window).length ≤ c.window := by
  unfold remember
  split
  · simp only [List.length_append, List.length_tail, List.length_singleton]
    omega
  · simp only [List.length_append, List.length_singleton]
    omega

namespace Circuit
variable {x x' : Circuit} {e : Event} {n : Nat} {period : Option Nat} {r : Result}

/-- A call that ends was under way. -/
theorem underWay_ended (under : x.calls[n]? = some { period }) (r : Result) :
    (x.ended n period r).underWay + 1 = x.underWay := by
  simpa [underWay] using count_ended under r (·.ending.isNone)

/-- The cool-down of the last trip is over. -/
def IsCooled (c : Config) (x : Circuit) : Prop :=
  ∀ since, x.trips.getLast? = some since → since.after c.openFor ≤ x.around.now

/-- A circuit whose breaker keeps its bounds, whatever its mode. -/
inductive IsSafe (c : Config) (x : Circuit) : Prop where
  | closed {window : List Bool} (state : x.state = .closed window) (cooled : IsCooled c x)
      (fits : window.length ≤ c.window)
  | tripped {since : Instant} (state : x.state = .tripped since)
      (last : x.trips.getLast? = some since) (past : since ≤ x.around.now)
  | half {attempts successes : Nat} (state : x.state = .halfOpen attempts successes)
      (cooled : IsCooled c x) (within : attempts ≤ c.permits) (more : successes < c.permits)
      (covered : attempts ≤ successes + x.underWay)

theorem opening_isSafe (c : Config) (around : Surroundings) : IsSafe c (opening around) :=
  .closed rfl (fun _ none => nomatch none) (Nat.zero_le _)

theorem IsCooled.later (cooled : IsCooled c x) (same : x'.trips = x.trips)
    (later : x.around.now ≤ x'.around.now) : IsCooled c x' := by
  intro since last
  exact Int.le_trans (cooled since (same ▸ last)) later

/-- Only a report that trips the breaker is noted as a trip. -/
theorem trips_ended {s : State} (around : Surroundings)
    (same : x.state.mode = .tripped ∨ s.mode ≠ .tripped) :
    ((x.ended n period r).turned s around).trips = x.trips :=
  if_neg fun new => same.elim new.1 fun other => other new.2

/-- A breaker that has just tripped. -/
theorem isSafe_of_trips {around : Surroundings} (open_ : x.state.mode ≠ .tripped)
    (still : around.now = x.around.now) :
    IsSafe c ((x.ended n period r).turned (.tripped x.around.now) around) := by
  refine .tripped rfl ?_ ?_
  · have grows : ((x.ended n period r).turned (.tripped x.around.now) around).trips =
        x.trips ++ [x.around.now] := if_pos ⟨open_, rfl⟩
    rw [grows, List.getLast?_concat]
  · rw [← still]
    exact Int.le_refl _

theorem IsSafe.ends (safe : IsSafe c x) (built : c.IsBuilt) {s : State} {around : Surroundings}
    (under : x.calls[n]? = some { period }) (turn : Turn c x.around.now r x.state s)
    (still : around.now = x.around.now) : IsSafe c ((x.ended n period r).turned s around) := by
  obtain ⟨room, -, -⟩ := built.positive
  have fewer (r : Result) : (x.ended n period r).underWay + 1 = x.underWay :=
    underWay_ended under r
  have same : x.around.now ≤ around.now := by
    rw [still]
    exact Int.le_refl _
  cases safe with
  | closed state cooled fits =>
    rw [state] at turn
    have still_cooled {s : State} (other : s.mode ≠ .tripped) :
        IsCooled c ((x.ended n period r).turned s around) :=
      cooled.later (trips_ended around (.inr other)) same
    cases turn with
    | succeeds =>
      exact .closed rfl (still_cooled (by simp [State.mode])) (length_remember room fits false)
    | fails =>
      exact .closed rfl (still_cooled (by simp [State.mode])) (length_remember room fits true)
    | ignores => exact .closed rfl (still_cooled (by simp [State.mode])) fits
    | trips => exact isSafe_of_trips (by simp [state, State.mode]) still
  | tripped state last past =>
    rw [state] at turn
    cases turn with
    | late =>
      refine .tripped rfl ?_ (still ▸ past)
      rw [trips_ended around (.inl (congrArg State.mode state)), last]
  | half state cooled within more covered =>
    rw [state] at turn
    have still_cooled {s : State} (other : s.mode ≠ .tripped) :
        IsCooled c ((x.ended n period r).turned s around) :=
      cooled.later (trips_ended around (.inr other)) same
    cases turn with
    | proves enough =>
      refine .half rfl (still_cooled (by simp [State.mode])) within enough ?_
      show _ ≤ _ + (x.ended n period .success).underWay
      have := fewer .success
      omega
    | closes => exact .closed rfl (still_cooled (by simp [State.mode])) (Nat.zero_le _)
    | retrips => exact isSafe_of_trips (by simp [state, State.mode]) still
    | returns attempts successes =>
      refine .half rfl (still_cooled (by simp [State.mode])) (by omega) more ?_
      show _ ≤ _ + (x.ended n period .ignored).underWay
      have := fewer .ignored
      omega

/-- Time passes and calls begin that leave the breaker as it is. -/
theorem IsSafe.later (safe : IsSafe c x) (state' : x'.state = x.state) (trips : x'.trips = x.trips)
    (calls : x.underWay ≤ x'.underWay) (onward : x.around.now ≤ x'.around.now) : IsSafe c x' := by
  cases safe with
  | closed state cooled fits => exact .closed (state'.trans state) (cooled.later trips onward) fits
  | tripped state last past =>
    exact .tripped (state'.trans state) (trips ▸ last) (Int.le_trans past onward)
  | half state cooled within more covered =>
    exact .half (state'.trans state) (cooled.later trips onward) within more (by omega)

theorem IsSafe.step (safe : IsSafe c x) (built : c.IsBuilt) (step : Step c x e x') :
    IsSafe c x' := by
  obtain ⟨-, -, one⟩ := built.positive
  cases step with
  | passes d =>
    refine safe.later rfl rfl (Nat.le_refl _) ?_
    show x.around.now.nanos ≤ x.around.now.nanos + d.nanos
    omega
  | refuses full still => exact safe.later rfl rfl (Nat.le_refl _) (still ▸ Int.le_refl _)
  | flows closed still => exact safe.later rfl rfl (by simp [underWay]) (still ▸ Int.le_refl _)
  | begins tripped cooled still =>
    cases safe with
    | closed state => cases tripped.symm.trans state
    | half state => cases tripped.symm.trans state
    | tripped state last past =>
      cases tripped.symm.trans state
      refine .half rfl ?_ one one ?_
      · intro since recent
        cases last.symm.trans recent
        exact still ▸ cooled
      · simp [underWay]
  | tries half room still =>
    cases safe with
    | closed state => cases half.symm.trans state
    | tripped state => cases half.symm.trans state
    | half state cooled within more covered =>
      cases half.symm.trans state
      refine .half rfl (cooled.later rfl (still ▸ Int.le_refl _)) room more ?_
      simp [underWay] at covered ⊢
      omega
  | rests => exact safe
  | ends under turn still => exact safe.ends built under turn still

/-- **A breaker keeps its bounds and never gets stuck.** It remembers no more calls than it has room
for. From the moment it trips it stays tripped until it has cooled down: whoever asks before that is
refused, the service is not called and nothing but the meters tells of it. What is reported to a
tripped breaker changes nothing at all, and the first call after the cool-down goes through.
Half-open, it has let through no more than its permits and counts fewer successes than that; with no
call under way the next one goes through. So once every call has ended, whatever its result, a
cool-down later at the latest the next call goes through. -/
theorem safe_and_never_stuck (c : Config) (built : c.IsBuilt) (around : Surroundings)
    (events : List Event) :
    let x := (opening around).run c events
    (∀ window, x.state = .closed window → window.length ≤ c.window) ∧
    (∀ since, x.trips.getLast? = some since → x.around.now < since.after c.openFor →
      x.state = .tripped since ∧
      ∀ (ε α : Type) (judge : ε → Result) (operation : StateM Surroundings (Except ε α)),
        (call c judge operation x.state).run x.around =
          ((none, x.state),
            { x.around with meters := x.around.meters.breakerRejection c.name })) ∧
    (∀ since, x.state = .tripped since →
      x.trips.getLast? = some since ∧
      (∀ r, (note c r x.state).run x.around = (x.state, x.around)) ∧
      (since.after c.openFor ≤ x.around.now →
        permit c x.around.now x.state = (true, .halfOpen 1 0))) ∧
    (∀ attempts successes, x.state = .halfOpen attempts successes →
      successes < c.permits ∧ attempts ≤ c.permits ∧
      (x.underWay = 0 → (permit c x.around.now x.state).1 = true)) ∧
    (x.underWay = 0 → (permit c (x.around.now.after c.openFor) x.state).1 = true) := by
  intro x
  have safe : IsSafe c x :=
    run_keeps (opening_isSafe c around) fun _ _ _ safe step => safe.step built step
  cases safe with
  | closed state cooled fits =>
    rw [state]
    refine ⟨?_, ?_, ?_, ?_, fun _ => rfl⟩
    · intro window same
      cases same
      exact fits
    · intro since last early
      exact absurd (cooled since last) (Int.not_le.mpr early)
    · intro since other
      cases other
    · intro attempts successes other
      cases other
  | tripped state last past =>
    rw [state]
    refine ⟨?_, ?_, ?_, ?_, ?_⟩
    · intro window other
      cases other
    · intro since last' early
      cases last.symm.trans last'
      exact ⟨rfl, fun ε α judge operation =>
        call_refused c judge operation (permit_early (Int.not_le.mpr early))⟩
    · intro since same
      cases same
      refine ⟨last, fun r => ?_, permit_cooled⟩
      rw [note_run]
      cases r <;> simp [settle, succeed, fail, ignore, report]
    · intro attempts successes other
      cases other
    · intro none
      exact congrArg Prod.fst (permit_cooled (Int.add_le_add_right past _))
  | @half attempts successes state cooled within more covered =>
    rw [state]
    have free {now : Instant} (none : x.underWay = 0) :
        (permit c now (.halfOpen attempts successes)).1 = true :=
      congrArg Prod.fst (permit_room (by omega))
    refine ⟨?_, ?_, ?_, ?_, free⟩
    · intro window other
      cases other
    · intro since last early
      exact absurd (cooled since last) (Int.not_le.mpr early)
    · intro since other
      cases other
    · intro attempts successes same
      cases same
      exact ⟨more, within, free⟩

/-- Two calls from before the trip report while a trial is under way, and none of the three leaves
the breaker without room for the next one. -/
theorem room_after_late_reports :
    let c := (Config.withWindow { name := "service" } 1 1).withPermits 2
    let events : List Event :=
      [.ask, .ask, .ask, .report 2 .failure, .pass (.ofSeconds 30), .ask, .report 0 .success,
        .report 3 .ignored, .report 1 .ignored]
    let x := (opening { now := ⟨0⟩ }).run c events
    c.IsBuilt ∧ x.state = .halfOpen 0 1 ∧ x.underWay = 0 ∧
      (permit c x.around.now x.state).1 = true := by
  intro c events x
  have built : c.IsBuilt := .permits (.window (.named _) _ _) _
  have state : x.state = .halfOpen 0 1 := by decide +kernel
  have none : x.underWay = 0 := by decide +kernel
  obtain ⟨-, -, -, half, -⟩ := safe_and_never_stuck c built { now := ⟨0⟩ } events
  have same : x = (opening { now := ⟨0⟩ }).run c events := rfl
  rw [← same] at half
  exact ⟨built, state, none, (half 0 1 state).2.2 none⟩

end Circuit

end OrderFlow.Breaker
