import Mathlib.Data.List.DropRight
import Mathlib.Data.List.Infix
import OrderFlow.Proofs.Breaker.Circuit

/-!
What a closed breaker remembers. It keeps a window of the last results and forgets the oldest one
for each new one, so it never looks back at what it has forgotten; and yet it acts as if it had
written down everything since it closed, and looked at the end of that each time a call fails
(`remembers_recent_results`). Here nobody has to be let through before reporting a result: anything
may be reported or asked at any time.
-/
namespace OrderFlow.Breaker
/-- What a breaker is used for. -/
inductive Use where
  /-- A call asks whether it may go through. -/
  | ask
  /-- A call has ended. -/
  | report (result : Result)
  deriving DecidableEq, Repr

variable {c : Config} {s : State} {past since earlier : List (Instant × Use)} {e : Instant × Use}

/-- Whether a call has failed, if the use is a report that counts. -/
def Use.failed? : Use → Option Bool
  | .report .success => some false
  | .report .failure => some true
  | .report .ignored | .ask => none

/-- The state after a use. -/
def used (c : Config) (s : State) : Instant × Use → State
  | (now, .ask) => (permit c now s).2
  | (now, .report r) => settle c now r s

/-- The state of a new breaker after all these uses, of which each may have its own time. -/
def after (c : Config) (past : List (Instant × Use)) : State := past.foldl (used c) .initial

theorem after_snoc (c : Config) (past : List (Instant × Use)) (e : Instant × Use) :
    after c (past ++ [e]) = used c (after c past) e :=
  List.foldl_concat ..

/-- What a state remembers. -/
def State.window : State → List Bool
  | .closed window => window
  | .tripped _ | .halfOpen .. => []

/-- The last results that count, oldest first: as many as a breaker remembers. -/
def recent (c : Config) (uses : List (Instant × Use)) : List Bool :=
  (uses.filterMap (·.2.failed?)).rtake c.window

/-- A call has failed, and among the last results with this one there are enough, and enough of
them are failures, for the breaker to trip. -/
def IsDue (c : Config) (earlier : List (Instant × Use)) (e : Instant × Use) : Prop :=
  e.2 = .report .failure ∧
    c.minimum ≤ (recent c (earlier ++ [e])).length ∧
    c.threshold.le (failureRate (recent c (earlier ++ [e]))) = true

instance (c : Config) (earlier : List (Instant × Use)) (e : Instant × Use) :
    Decidable (IsDue c earlier e) :=
  inferInstanceAs (Decidable (e.2 = .report .failure ∧
    c.minimum ≤ (recent c (earlier ++ [e])).length ∧
    c.threshold.le (failureRate (recent c (earlier ++ [e]))) = true))

/-- None of the failures is one at which the breaker trips. -/
def NoneDue (c : Config) (uses : List (Instant × Use)) : Prop :=
  ∀ earlier e, earlier ++ [e] <+: uses → ¬ IsDue c earlier e

/-- The breaker has closed at the end of the past, or it is new. -/
def HasJustClosed (c : Config) (past : List (Instant × Use)) : Prop :=
  past = [] ∨ ∃ front e, past = front ++ [e] ∧ (after c front).mode ≠ .closed ∧
    (after c past).mode = .closed

/-! ### The window -/

/-- **A window that has shown the end of a list shows the end of the longer list.** -/
theorem remember_rtake (room : 1 ≤ c.window) (failed : Bool) (l : List Bool) :
    remember c failed (l.rtake c.window) = (l ++ [failed]).rtake c.window := by
  obtain ⟨n, size⟩ : ∃ n, c.window = n + 1 := ⟨c.window - 1, by omega⟩
  rw [remember, size, List.rtake_concat_succ, List.append_cancel_right_eq]
  simp only [List.rtake, List.length_drop, List.tail_drop]
  split
  · congr 1
    omega
  -- the list is short, so there is nothing to forget
  · rw [Nat.sub_eq_zero_of_le (by omega), Nat.sub_eq_zero_of_le (by omega)]

theorem recent_snoc (room : 1 ≤ c.window) (uses : List (Instant × Use)) (e : Instant × Use) :
    recent c (uses ++ [e]) = match e.2.failed? with
      | some failed => remember c failed (recent c uses)
      | none => recent c uses := by
  obtain ⟨now, u⟩ := e
  cases told : u.failed? with
  | none => simp [recent, told]
  | some failed => simp [recent, told, remember_rtake room]

/-- **A closed breaker trips at a failure that is due, and stays closed at everything else.** -/
theorem used_recent (room : 1 ≤ c.window) (uses : List (Instant × Use)) (e : Instant × Use) :
    (IsDue c uses e ∧ used c (.closed (recent c uses)) e = .tripped e.1) ∨
      (¬ IsDue c uses e ∧
        used c (.closed (recent c uses)) e = .closed (recent c (uses ++ [e]))) := by
  have next := recent_snoc room uses e
  obtain ⟨now, u⟩ := e
  cases u with
  | ask => exact .inr ⟨fun due => (nomatch due.1), by rw [next]; rfl⟩
  | report r =>
    cases r with
    | success | ignored => exact .inr ⟨fun due => (nomatch due.1), by rw [next]; rfl⟩
    | failure =>
      have next : recent c (uses ++ [(now, .report .failure)]) = remember c true (recent c uses) :=
        next
      simp only [IsDue, next, true_and, used, settle, fail, trips, Bool.and_eq_true,
        decide_eq_true_eq]
      by_cases due : c.minimum ≤ (remember c true (recent c uses)).length ∧
          c.threshold.le (failureRate (remember c true (recent c uses))) = true
      · exact .inl ⟨due, if_pos due⟩
      · exact .inr ⟨due, if_neg due⟩

/-- A breaker that changes its mode remembers nothing. -/
theorem window_of_turned (turned : (used c s e).mode ≠ s.mode) : (used c s e).window = [] := by
  obtain ⟨now, u⟩ := e
  cases u with
  | ask =>
    cases s with
    | closed => exact absurd rfl turned
    | tripped | halfOpen => simp only [used, permit]; split <;> rfl
  | report r =>
    have turn := settle_turns c now r s
    simp only [used] at turned ⊢
    generalize settle c now r s = s' at turn turned
    cases turn with
    | succeeds | fails | ignores => exact absurd rfl turned
    | trips | late | proves | closes | retrips | returns => rfl

/-! ### Runs -/

theorem HasJustClosed.after_eq (entered : HasJustClosed c past) : after c past = .closed [] := by
  rcases entered with rfl | ⟨front, e, rfl, before, closed⟩
  · rfl
  · rw [after_snoc] at closed ⊢
    have fresh := window_of_turned (s := after c front) (e := e) (by rw [closed]; exact before.symm)
    cases same : used c (after c front) e with
    | closed window =>
      rw [same] at fresh
      exact congrArg State.closed fresh
    | tripped | halfOpen => rw [same] at closed; cases closed

theorem NoneDue.prefix_ (none : NoneDue c since) (part : earlier <+: since) : NoneDue c earlier :=
  fun front e shorter => none front e (shorter.trans part)

theorem NoneDue.snoc (none : NoneDue c since) (not_due : ¬ IsDue c since e) :
    NoneDue c (since ++ [e]) := by
  intro front e' part
  rcases List.prefix_concat_iff.mp part with whole | shorter
  · obtain ⟨rfl, same⟩ := List.append_inj' whole rfl
    cases same
    exact not_due
  · exact none front e' shorter

/-- As long as no failure is due, a breaker that has closed stays so and remembers the last results
that count. -/
theorem NoneDue.after_eq (room : 1 ≤ c.window) (fresh : after c past = .closed [])
    (none : NoneDue c since) : after c (past ++ since) = .closed (recent c since) := by
  induction since using List.reverseRecOn with
  | nil =>
    rw [List.append_nil, fresh]
    simp [recent]
  | append_singleton since e ih =>
    have before := ih (none.prefix_ (List.prefix_append _ _))
    rw [← List.append_assoc, after_snoc, before]
    rcases used_recent room since e with ⟨due, -⟩ | ⟨-, stays⟩
    · exact absurd due (none since e (List.prefix_refl _))
    · exact stays

theorem NoneDue.after_due (room : 1 ≤ c.window) (fresh : after c past = .closed [])
    (none : NoneDue c since) (due : IsDue c since e) :
    after c (past ++ since ++ [e]) = .tripped e.1 := by
  rw [after_snoc, none.after_eq room fresh]
  exact ((used_recent room since e).resolve_right fun stays => stays.1 due).2

theorem noneDue_of_closed (room : 1 ≤ c.window) (fresh : after c past = .closed [])
    (closed : ∀ earlier, earlier <+: since → (after c (past ++ earlier)).mode = .closed) :
    NoneDue c since := by
  induction since using List.reverseRecOn with
  | nil =>
    intro front e part
    cases List.append_eq_nil_iff.mp (List.prefix_nil.mp part) |>.2
  | append_singleton since e ih =>
    have none := ih fun earlier part => closed earlier (part.trans (List.prefix_append _ _))
    refine none.snoc fun due => ?_
    have last := closed (since ++ [e]) (List.prefix_refl _)
    rw [← List.append_assoc, none.after_due room fresh due] at last
    cases last

/-- **A closed breaker remembers the last results since it closed, and trips as it should by them.**
Whatever has happened before it closed, it has nothing of it in mind. From then on it is closed as
long as no failure is due: then it remembers the last results that count, and nothing else shows. At
the first failure that is due it trips. Any change of its mode empties its memory. -/
theorem remembers_recent_results (c : Config) (room : 1 ≤ c.window)
    (past : List (Instant × Use)) (entered : HasJustClosed c past) :
    after c past = .closed [] ∧
    (∀ since, NoneDue c since ↔
      ∀ earlier, earlier <+: since → (after c (past ++ earlier)).mode = .closed) ∧
    (∀ since, NoneDue c since → after c (past ++ since) = .closed (recent c since)) ∧
    (∀ since e, NoneDue c since → IsDue c since e →
      after c (past ++ since ++ [e]) = .tripped e.1) ∧
    ∀ front e, (after c (front ++ [e])).mode ≠ (after c front).mode →
      (after c (front ++ [e])).window = [] := by
  have fresh := entered.after_eq
  refine ⟨fresh, fun since => ⟨fun none earlier part => ?_, noneDue_of_closed room fresh⟩,
    fun since none => none.after_eq room fresh, fun since e none => none.after_due room fresh,
    fun front e turned => ?_⟩
  · rw [(none.prefix_ part).after_eq room fresh]
    rfl
  · rw [after_snoc] at turned ⊢
    exact window_of_turned turned

/-- A breaker that remembers three calls has tripped and closed again. After two successes, a
failure and a success it has forgotten the first of them, and the next failure is the second one of
three. -/
theorem trips_by_last_three :
    let s : Settings.Breaker :=
      { windowSize := 3, minimumCalls := 2, openDurationMs := 1000, halfOpenPermits := 1 }
    let c := Config.ofSettings "service" s
    let at_ (second : Int) (u : Use) : Instant × Use := (⟨second * 1000000000⟩, u)
    let past :=
      [at_ 0 (.report .failure), at_ 0 (.report .failure), at_ 2 .ask, at_ 3 (.report .success)]
    let since :=
      [at_ 4 .ask, at_ 4 (.report .success), at_ 5 (.report .success), at_ 6 (.report .failure),
        at_ 7 (.report .ignored), at_ 8 (.report .success)]
    let e := at_ 9 (.report .failure)
    1 ≤ c.window ∧ HasJustClosed c past ∧ NoneDue c since ∧ IsDue c since e ∧
      after c (past ++ since) = .closed [false, true, false] ∧
      after c (past ++ since ++ [e]) = .tripped ⟨9000000000⟩ := by
  intro s c at_ past since e
  have room : 1 ≤ c.window := by decide
  have entered : HasJustClosed c past :=
    .inr ⟨past.dropLast, at_ 3 (.report .success), rfl, by decide +kernel, by decide +kernel⟩
  obtain ⟨-, quiet, remembers, trips, -⟩ := remembers_recent_results c room past entered
  have closed : ∀ earlier ∈ since.inits, (after c (past ++ earlier)).mode = .closed := by
    decide +kernel
  have none : NoneDue c since :=
    (quiet since).mpr fun earlier part => closed earlier ((List.mem_inits _ _).mpr part)
  have due : IsDue c since e := by decide +kernel
  have last : recent c since = [false, true, false] := by decide +kernel
  exact ⟨room, entered, none, due, last ▸ remembers since none, trips since e none due⟩

end OrderFlow.Breaker
