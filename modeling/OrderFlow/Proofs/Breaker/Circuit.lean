import OrderFlow.Breaker.Metered

/-!
A circuit: one breaker and all the calls that go through it, any number of them at once. One event
of a run lets time pass, or lets a new call ask whether it may go through, or lets a call that went
through report how it has ended, once and as late as it likes. A report does not say when its call
was let through, so the breaker cannot tell a trial from a call that began long before; the circuit
notes it beside the breaker.
-/
namespace OrderFlow.Breaker

section
variable {c : Config} {now since : Instant} {attempts successes : Nat}

theorem permit_cooled (cooled : since.after c.openFor ≤ now) :
    permit c now (.tripped since) = (true, .halfOpen 1 0) := by
  simp [permit, hasCooled, cooled]

theorem permit_early (early : ¬ since.after c.openFor ≤ now) :
    permit c now (.tripped since) = (false, .tripped since) := by
  simp [permit, hasCooled, early]

theorem permit_room (room : attempts < c.permits) :
    permit c now (.halfOpen attempts successes) = (true, .halfOpen (attempts + 1) successes) := by
  simp [permit, room]

theorem permit_full (full : ¬ attempts < c.permits) :
    permit c now (.halfOpen attempts successes) = (false, .halfOpen attempts successes) := by
  simp [permit, full]

end

theorem askForCall_run (c : Config) (s : State) (a : Surroundings) :
    (askForCall c s).run a = (permit c a.now s,
      { a with meters :=
          let m := report c s (permit c a.now s).2 a.meters
          if (permit c a.now s).1 then m else m.breakerRejection c.name }) := by
  have asks : (ask c s).run a = (permit c a.now s,
      { a with meters := report c s (permit c a.now s).2 a.meters }) := rfl
  unfold askForCall
  rw [StateT.run_bind, asks]
  generalize permit c a.now s = p
  obtain ⟨free, s'⟩ := p
  cases free <;> rfl

theorem note_run (c : Config) (r : Result) (s : State) (a : Surroundings) :
    (note c r s).run a = (settle c a.now r s,
      { a with meters := report c s (settle c a.now r s) a.meters }) := rfl

/-- A refused call does not touch the service, and only the meters tell of it. -/
theorem call_refused {ε α : Type} (c : Config) (judge : ε → Result)
    (operation : StateM Surroundings (Except ε α)) {s : State} {a : Surroundings}
    (refused : permit c a.now s = (false, s)) :
    (call c judge operation s).run a =
      ((none, s), { a with meters := a.meters.breakerRejection c.name }) := by
  have asks : (askForCall c s).run a =
      ((false, s), { a with meters := a.meters.breakerRejection c.name }) := by
    rw [askForCall_run, refused]
    simp [report]
  unfold call
  rw [StateT.run_bind, asks]
  rfl

/-- A call that was let through. -/
structure Call where
  /-- The half-open period that let it through, none if the breaker was closed. -/
  period : Option Nat
  /-- How it has ended, and the half-open period in which it has, if there was one. -/
  ending : Option (Result × Option Nat) := none
  deriving DecidableEq, Repr, Inhabited

/-- A breaker and the calls that it has let through. -/
structure Circuit where
  around : Surroundings
  state : State := .initial
  /-- How many half-open periods have begun; it is also the number of the last one. -/
  periods : Nat := 0
  /-- When the breaker has tripped. -/
  trips : List Instant := []
  /-- The calls that were let through, oldest first. -/
  calls : List Call := []
  /-- What was reported, oldest first. -/
  results : List Result := []

namespace Circuit

/-- What can happen. -/
inductive Event where
  | pass (span : Span)
  /-- A new call asks whether it may go through. -/
  | ask
  /-- The call of this number has ended. -/
  | report (call : Nat) (result : Result)
  deriving Repr

/-- The half-open period that is on. -/
def period? (x : Circuit) : Option Nat := if x.state.mode = .halfOpen then some x.periods else none

/-- The circuit after its breaker has come to a state. -/
def turned (x : Circuit) (s : State) (around : Surroundings) : Circuit :=
  { x with
    around
    state := s
    periods := if x.state.mode ≠ .halfOpen ∧ s.mode = .halfOpen then x.periods + 1 else x.periods
    trips := if x.state.mode ≠ .tripped ∧ s.mode = .tripped then x.trips ++ [x.around.now]
      else x.trips }

/-- The circuit after a call was let through. -/
def admitted (x : Circuit) : Circuit := { x with calls := x.calls ++ [{ period := x.period? }] }

/-- The circuit after call number `n`, let through in `period`, has ended. -/
def ended (x : Circuit) (n : Nat) (period : Option Nat) (r : Result) : Circuit :=
  { x with
    calls := x.calls.set n { period, ending := some (r, x.period?) }
    results := x.results ++ [r] }

/-- What an event does. -/
def step (c : Config) (x : Circuit) : Event → Circuit
  | .pass d => { x with around := ((Surroundings.pass d).run x.around).2 }
  | .ask =>
    let ((free, s), around) := (askForCall c x.state).run x.around
    if free then (x.turned s around).admitted else x.turned s around
  | .report n r =>
    match x.calls[n]? with
    | some ⟨period, none⟩ =>
      let (s, around) := (note c r x.state).run x.around
      (x.ended n period r).turned s around
    | _ => x

/-- A run. -/
def run (c : Config) (x : Circuit) (events : List Event) : Circuit := events.foldl (step c) x

/-- A circuit with a new breaker. -/
def opening (around : Surroundings) : Circuit := { around }

/-- How many calls are under way. -/
def underWay (x : Circuit) : Nat := x.calls.countP (·.ending.isNone)

/-- What counts one call more and what one less when a call has ended. -/
theorem count_ended {x : Circuit} {n : Nat} {period : Option Nat}
    (under : x.calls[n]? = some { period }) (r : Result) (p : Call → Bool) :
    (x.ended n period r).calls.countP p + (if p { period } then 1 else 0) =
      x.calls.countP p + if p { period, ending := some (r, x.period?) } then 1 else 0 := by
  obtain ⟨below, call⟩ := List.getElem?_eq_some_iff.mp under
  have counted : p { period } = true → 0 < x.calls.countP p := by
    intro counts
    exact List.countP_pos_iff.mpr ⟨_, List.mem_of_getElem? under, counts⟩
  simp only [ended, List.countP_set below, call]
  by_cases counts : p { period } = true
  · have := counted counts
    simp only [counts, ↓reduceIte]
    omega
  · simp only [counts, Bool.false_eq_true, ↓reduceIte]
    omega

end Circuit

/-- What a report does to a breaker. -/
inductive Turn (c : Config) (now : Instant) : Result → State → State → Prop where
  | succeeds (window : List Bool) :
      Turn c now .success (.closed window) (.closed (remember c false window))
  | fails {window : List Bool} (few : trips c (remember c true window) = false) :
      Turn c now .failure (.closed window) (.closed (remember c true window))
  | trips {window : List Bool} (enough : trips c (remember c true window) = true) :
      Turn c now .failure (.closed window) (.tripped now)
  | ignores (window : List Bool) : Turn c now .ignored (.closed window) (.closed window)
  | late (r : Result) (since : Instant) : Turn c now r (.tripped since) (.tripped since)
  | proves {attempts successes : Nat} (more : successes + 1 < c.permits) :
      Turn c now .success (.halfOpen attempts successes) (.halfOpen attempts (successes + 1))
  | closes {attempts successes : Nat} (enough : c.permits ≤ successes + 1) :
      Turn c now .success (.halfOpen attempts successes) (.closed [])
  | retrips (attempts successes : Nat) :
      Turn c now .failure (.halfOpen attempts successes) (.tripped now)
  | returns (attempts successes : Nat) :
      Turn c now .ignored (.halfOpen attempts successes) (.halfOpen (attempts - 1) successes)

theorem settle_turns (c : Config) (now : Instant) (r : Result) (s : State) :
    Turn c now r s (settle c now r s) := by
  cases s with
  | tripped since => cases r <;> exact .late _ since
  | closed window =>
    cases r with
    | success => exact .succeeds window
    | ignored => exact .ignores window
    | failure =>
      simp only [settle, fail]
      split
      · next enough => exact .trips enough
      · next few => exact .fails (Bool.eq_false_iff.mpr few)
  | halfOpen attempts successes =>
    cases r with
    | failure => exact .retrips attempts successes
    | ignored => exact .returns attempts successes
    | success =>
      simp only [settle, succeed]
      split
      · next enough => exact .closes enough
      · next more => exact .proves (Nat.lt_of_not_le more)

/-- No report begins a half-open period. -/
theorem Turn.half {c : Config} {now : Instant} {r : Result} {s s' : State}
    (turn : Turn c now r s s') (half : s'.mode = .halfOpen) : s.mode = .halfOpen := by
  cases turn <;> first | rfl | cases half

namespace Circuit

/-- What one event may do; time stands still while a call asks or reports. -/
inductive Step (c : Config) (x : Circuit) : Event → Circuit → Prop where
  | passes (d : Span) : Step c x (.pass d) { x with around.now := x.around.now.after d }
  | refuses {around : Surroundings} (full : permit c x.around.now x.state = (false, x.state))
      (still : around.now = x.around.now) : Step c x .ask { x with around }
  /-- A closed breaker lets a call through. -/
  | flows {window : List Bool} {around : Surroundings} (closed : x.state = .closed window)
      (still : around.now = x.around.now) :
      Step c x .ask { x with around, calls := x.calls ++ [{ period := none }] }
  /-- The first call after the cool-down begins a half-open period. -/
  | begins {since : Instant} {around : Surroundings} (tripped : x.state = .tripped since)
      (cooled : since.after c.openFor ≤ x.around.now) (still : around.now = x.around.now) :
      Step c x .ask { x with
        around, state := .halfOpen 1 0, periods := x.periods + 1
        calls := x.calls ++ [{ period := some (x.periods + 1) }] }
  | tries {attempts successes : Nat} {around : Surroundings}
      (half : x.state = .halfOpen attempts successes) (room : attempts < c.permits)
      (still : around.now = x.around.now) :
      Step c x .ask { x with
        around, state := .halfOpen (attempts + 1) successes
        calls := x.calls ++ [{ period := some x.periods }] }
  | rests (n : Nat) (r : Result) : Step c x (.report n r) x
  | ends {n : Nat} {r : Result} {period : Option Nat} {s : State} {around : Surroundings}
      (under : x.calls[n]? = some { period }) (turn : Turn c x.around.now r x.state s)
      (still : around.now = x.around.now) :
      Step c x (.report n r) ((x.ended n period r).turned s around)

variable {c : Config} {x x' : Circuit} {e : Event}

/-- The circuit after a call has asked. -/
theorem step_ask (c : Config) (x : Circuit) : ∃ around : Surroundings,
    around.now = x.around.now ∧
      x.step c .ask = if (permit c x.around.now x.state).1 then
        (x.turned (permit c x.around.now x.state).2 around).admitted
      else x.turned (permit c x.around.now x.state).2 around := by
  refine ⟨((askForCall c x.state).run x.around).2, by rw [askForCall_run], ?_⟩
  simp only [step, askForCall_run]

theorem ask_cases (c : Config) (x : Circuit) : Step c x .ask (x.step c .ask) := by
  obtain ⟨around, still, asked⟩ := step_ask c x
  rw [asked]
  obtain ⟨before, state, periods, trips, calls, results⟩ := x
  cases state with
  | closed window => exact .flows rfl still
  | tripped since =>
    by_cases cooled : since.after c.openFor ≤ before.now
    · rw [permit_cooled cooled]
      exact .begins rfl cooled still
    · rw [permit_early cooled]
      exact .refuses (permit_early cooled) still
  | halfOpen attempts successes =>
    by_cases room : attempts < c.permits
    · rw [permit_room room]
      exact .tries rfl room still
    · rw [permit_full room]
      exact .refuses (permit_full room) still

theorem step_cases (c : Config) (x : Circuit) (e : Event) : Step c x e (x.step c e) := by
  cases e with
  | pass d => exact .passes d
  | ask => exact ask_cases c x
  | report n r =>
    simp only [step]
    split
    · next period under => exact .ends under (settle_turns c x.around.now r x.state) rfl
    · exact .rests n r

/-- What every step keeps holds after every run. -/
theorem run_keeps {P : Circuit → Prop} {events : List Event} (holds : P x)
    (keeps : ∀ x e x', P x → Step c x e x' → P x') : P (x.run c events) := by
  induction events generalizing x with
  | nil => exact holds
  | cons e events ih => exact ih (keeps x e _ holds (step_cases c x e))

end Circuit

end OrderFlow.Breaker
