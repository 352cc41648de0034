import OrderFlow.Proofs.Outbox.Streaks

/-!
A publisher that runs does batch after batch as long as they are full. It is given as many as there
are tries left and one more. That is enough, because what it does is a streak (`burst_yields`); so
the number is none that a publisher could run into (`full_batches_use_up_tries`).
-/
namespace OrderFlow.Outbox.Streak
open Surroundings
variable {c : Config} {d d' : Desk}

/-- A batch that makes its calls one after the other makes them in a streak. -/
theorem batch_yields (c : Config) (fuel : Nat) (b : Batch) (d : Desk) (full : Nat) :
    Yields (Batch.run c fuel b) d fun b' d' =>
      ∃ events, run c events ⟨d, b, full⟩ = ⟨d', b', full⟩ := by
  induction fuel generalizing b d with
  | zero => exact ⟨[], rfl⟩
  | succ fuel ih =>
    obtain ⟨events, same⟩ := ih ((b.step c).run d).1 ((b.step c).run d).2
    cases b with
    | done result => exact ⟨[], rfl⟩
    | claiming | sending | marking | missing => exact ⟨.call :: events, same⟩

/-- A batch that may make enough calls gets done. -/
theorem done_yields (fuel : Nat) (b : Batch) (d : Desk)
    (enough : b.callsLeft (min c.batchSize d.table.rows.length) ≤ fuel) :
    Yields (Batch.run c fuel b) d fun b' _ => ∃ result, b' = .done result := by
  induction fuel generalizing b d with
  | zero =>
    cases b with
    | done result => exact ⟨result, rfl⟩
    | claiming | sending | marking | missing => simp [Batch.callsLeft] at enough
  | succ fuel ih =>
    have onward (under : ∀ r, b ≠ .done r) :
        Yields (b.step c >>= Batch.run c fuel) d fun b' _ => ∃ result, b' = .done result := by
      refine (b.step_moves c d).bind fun b' d' move => ih b' d' ?_
      rw [move.length_rows]
      have less := move.callsLeft_lt (Nat.le_refl _) under
      omega
    cases b with
    | done result => exact ⟨result, rfl⟩
    | claiming | sending | marking | missing =>
      refine onward fun r same => ?_
      cases same

theorem publishBatch_yields (c : Config) (d : Desk) (full : Nat) :
    Yields (publishBatch c) d fun result d' =>
      ∃ events, run c events ⟨d, .claiming, full⟩ = ⟨d', .done result, full⟩ := by
  refine .seen ?_
  refine ((batch_yields c _ .claiming d full).and (done_yields _ .claiming d (Nat.le_refl _))).bind
    fun b d' ⟨follows, result, done⟩ => ?_
  subst done
  exact .returned follows

/-- One batch of a streak ends at the desk `d'`, and `r` tells whether the next one follows. -/
def EndsBatch (c : Config) (d : Desk) (full : Nat) (r : Except Failure Bool) (d' : Desk) : Prop :=
  ∃ events result, run c events ⟨d, .claiming, full⟩ = ⟨d', .done result, full⟩ ∧
    (fills c result = true ↔ r = .ok true)

/-- What a round shows on the meters changes nothing of what it answers. -/
theorem shown_yields (name : String) (answer : Except Failure Bool) (d : Desk) :
    Yields (do
      if (← failure? .countPending).isNone then
        let pending := (← get).table.pendingCount
        meter (Meters.outboxPending name pending)
      meter (Meters.worker name (← clock).seconds)
      return answer : StateM Desk (Except Failure Bool)) d fun r d' => r = answer ∧ d.Aside d' := by
  have told {d₁ : Desk} (before : d.Aside d₁) :
      Yields (do
        meter (Meters.worker name (← clock).seconds)
        return answer : StateM Desk (Except Failure Bool)) d₁
        fun r d' => r = answer ∧ d.Aside d' := by
    refine (lift_yields (clock_yields d₁.around)).bind fun now d₂ ⟨_, aside₂⟩ => ?_
    refine (lift_aside (meter_yields _ d₂.around)).bind fun _ d₃ aside₃ => ?_
    exact .returned ⟨rfl, (before.then_aside aside₂).then_aside aside₃⟩
  refine (lift_aside (failure_yields .countPending d.around)).bind fun missed d₁ aside₁ => ?_
  cases missed with
  | some e => exact told aside₁
  | none =>
    refine .seen ?_
    refine (lift_aside (meter_yields _ d₁.around)).bind fun _ d₂ aside₂ => ?_
    exact told (aside₁.then_aside aside₂)

theorem round_yields (c : Config) (name : String) (d : Desk) (full : Nat) :
    Yields (round c name) d fun r d' => EndsBatch c d full r d' := by
  refine (publishBatch_yields c d full).bind ?_
  intro result d₁ streak
  obtain ⟨events, follows⟩ := streak
  -- what is done after the batch leaves the table as it is
  have later {d' : Desk} {r : Except Failure Bool} (aside : d₁.Aside d')
      (again : fills c result = true ↔ r = .ok true) : EndsBatch c d full r d' := by
    refine ⟨events ++ [.change d'], result, ?_, again⟩
    rw [run_append, follows]
    simp only [run, List.foldl_cons, List.foldl_nil, step, ← aside.table]
  cases result with
  | ok report =>
    refine (shown_yields name (.ok (decide (c.batchSize ≤ report.claimed))) d₁).mono ?_
    intro r d' shown
    exact later shown.2 (by simp [fills, shown.1])
  | error e =>
    split
    · exact .returned (later (.refl d₁) (by simp [fills]))
    · refine (shown_yields name (.ok false) d₁).mono ?_
      intro r d' shown
      exact later shown.2 (by simp [fills, shown.1])

/-- A full batch leaves fewer tries than it has found. -/
theorem fewer_of_fills {events : List Event} {full : Nat} {result : Except Failure Report}
    (room : 1 ≤ c.batchSize) (hopeful : d.table.IsHopeful c.maxAttempts)
    (follows : run c events ⟨d, .claiming, full⟩ = ⟨d', .done result, full⟩)
    (again : fills c result = true) :
    d'.table.IsHopeful c.maxAttempts ∧ triesLeft c d'.table < triesLeft c d.table := by
  have begun := IsWaning.begun (x := ⟨d, .claiming, full⟩) hopeful rfl
  have waning : IsWaning c (full + triesLeft c d.table) (run c events ⟨d, .claiming, full⟩) :=
    begun.run room
  rw [follows] at waning
  refine ⟨waning.hopeful, ?_⟩
  cases result with
  | error e => cases again
  | ok report =>
    have used := waning.goesOn room rfl (of_decide_eq_true again)
    dsimp only at used
    omega

/-- The batches of a publisher that runs are those of a streak that gets over. -/
theorem burst_yields {fuel : Nat} (room : 1 ≤ c.batchSize)
    (hopeful : d.table.IsHopeful c.maxAttempts) (enough : triesLeft c d.table < fuel)
    (name : String) (full : Nat) :
    Yields (burst c name fuel) d fun _ d' => ∃ events,
      (run c events ⟨d, .claiming, full⟩).desk = d' ∧
        (run c events ⟨d, .claiming, full⟩).IsOver c := by
  induction fuel generalizing d full with
  | zero => exact absurd enough (Nat.not_lt_zero _)
  | succ fuel ih =>
    refine (round_yields c name d full).bind fun r d₁ ⟨events, result, follows, again⟩ => ?_
    have ends (none : r ≠ .ok true) : ∃ events,
        (run c events ⟨d, .claiming, full⟩).desk = d₁ ∧
          (run c events ⟨d, .claiming, full⟩).IsOver c := by
      refine ⟨events, by rw [follows], ?_⟩
      rw [follows]
      exact ⟨result, rfl, Bool.eq_false_iff.mpr (mt again.mp none)⟩
    match r with
    | .error e => exact .returned (ends nofun)
    | .ok false => exact .returned (ends nofun)
    | .ok true =>
      have fills := again.mpr rfl
      obtain ⟨hopeful', less⟩ := fewer_of_fills room hopeful follows fills
      refine (ih hopeful' (by omega) (full + 1)).mono fun _ d' ⟨later, same, ended⟩ => ?_
      have onward : run c (events ++ .call :: later) ⟨d, .claiming, full⟩ =
          run c later ⟨d₁, .claiming, full + 1⟩ := by
        rw [run_append, follows]
        simp only [run, List.foldl_cons, step, fills, ↓reduceIte]
      exact ⟨_, by rw [onward, same], by rwa [onward]⟩

/-- More batches than there are tries are never done. -/
theorem burst_fuel {fuel fuel' : Nat} (room : 1 ≤ c.batchSize)
    (hopeful : d.table.IsHopeful c.maxAttempts) (enough : triesLeft c d.table < fuel)
    (enough' : triesLeft c d.table < fuel') (name : String) :
    (burst c name fuel).run d = (burst c name fuel').run d := by
  induction fuel generalizing fuel' d with
  | zero => exact absurd enough (Nat.not_lt_zero _)
  | succ fuel ih =>
    cases fuel' with
    | zero => exact absurd enough' (Nat.not_lt_zero _)
    | succ fuel' =>
      have told := round_yields c name d 0
      simp only [burst, StateT.run_bind]
      unfold Yields at told
      generalize (round c name).run d = answer at told
      obtain ⟨r, d₁⟩ := answer
      obtain ⟨events, result, follows, again⟩ := told
      match r with
      | .error e => rfl
      | .ok false => rfl
      | .ok true =>
        obtain ⟨hopeful', less⟩ := fewer_of_fills room hopeful follows (again.mpr rfl)
        exact ih hopeful' (by omega) (by omega)

/-- A batch has room for a row. -/
theorem one_le_batchSize {s : Settings.Outbox} (configured : Config.ofSettings? s = some c) :
    1 ≤ c.batchSize := by
  unfold Config.ofSettings? at configured
  dsimp only at configured
  split at configured
  · cases configured
  · cases configured
    dsimp only
    omega

/-- **The full batches of a publisher use up the tries of its rows.** If every row that waits can be
tried once more and is the first one of its identifier, then the full batches that follow each other
and the tries that are left never outnumber the tries that there were, and each full batch leaves
fewer of them. So the batch that is not full comes after so many calls at most, whatever the clock,
the store and the broker do meanwhile. Left alone, a running publisher does such a streak to its
end: a limit on the number of its batches would not be felt. -/
theorem full_batches_use_up_tries (s : Settings.Outbox) (c : Config)
    (configured : Config.ofSettings? s = some c) (d : Desk)
    (untried : ∀ r ∈ d.table.rows, r.isPending = true → r.attempts < c.maxAttempts)
    (own : d.table.rows.Pairwise fun e r => r.isPending = true → e.posting.id ≠ r.posting.id) :
    let total := triesLeft c d.table
    (∀ events, let x := run c events { desk := d }
      x.full + triesLeft c x.desk.table ≤ total) ∧
    (∀ earlier later, let x := run c earlier { desk := d }
      let y := run c later x
      x.batch = .claiming → x.full < y.full →
        triesLeft c y.desk.table < triesLeft c x.desk.table) ∧
    (∀ events, (total + 1) * (2 * d.table.rows.length + 3) ≤ events.countP Event.isCall →
      (run c events { desk := d }).IsOver c) ∧
    ∀ name, (∃ events, let x := run c events { desk := d }
        x.desk = ((fullBurst c name).run d).2 ∧ x.IsOver c) ∧
      ∀ fuel, total < fuel → (burst c name fuel).run d = (fullBurst c name).run d := by
  intro total
  have room := one_le_batchSize configured
  have hopeful : d.table.IsHopeful c.maxAttempts := ⟨untried, own⟩
  have begun : IsWaning c total { desk := d } := by
    have waning := IsWaning.begun (x := { desk := d }) hopeful rfl
    rwa [Nat.zero_add] at waning
  refine ⟨fun events => (begun.run room).le, ?_, ?_, fun name => ⟨?_, ?_⟩⟩
  · intro earlier later x y begins more
    have used : y.full + triesLeft c y.desk.table ≤ x.full + triesLeft c x.desk.table :=
      ((IsWaning.begun (begun.run room).hopeful begins).run room).le
    omega
  · intro events enough
    refine begun.isOver room (Nat.le_refl _) (.inr (Nat.lt_of_lt_of_le ?_ enough))
    have batches : (total + 1) * (2 * d.table.rows.length + 3) =
        total * (2 * d.table.rows.length + 3) + (2 * d.table.rows.length + 3) := Nat.succ_mul _ _
    simp only [callsLeft, Batch.callsLeft, Nat.sub_zero]
    omega
  · exact burst_yields room hopeful (Nat.lt_succ_self _) name 0
  · intro fuel enough
    exact burst_fuel room hopeful enough (Nat.lt_succ_self _) name

/-- The clock shows so many seconds. -/
def atSecond (broker : Broker) (k : Nat) : Event :=
  .change ⟨{ now := ⟨k * 1000000000⟩ }, {}, broker, false⟩

/-- Two events of different aggregates, each of which may be tried twice, and a broker that is away:
four batches are full, and then the streak is over. The clock goes on by a second every seven calls.
-/
theorem four_full_batches :
    let s : Settings.Outbox :=
      { batchSize := 0, maxAttempts := 2, initialBackoffMs := 0, maxBackoffMs := 0 }
    let broker : Broker := { available := false }
    let d : Desk := ⟨{ now := ⟨0⟩ }, ⟨[fresh 1 "a", fresh 2 "b"]⟩, broker, false⟩
    let events := (List.range 5).flatMap fun k => atSecond broker k :: List.replicate 7 .call
    ∃ c, Config.ofSettings? s = some c ∧
      (∀ r ∈ d.table.rows, r.isPending = true → r.attempts < c.maxAttempts) ∧
      (d.table.rows.Pairwise fun e r => r.isPending = true → e.posting.id ≠ r.posting.id) ∧
      triesLeft c d.table = 4 ∧
      let x := run c events { desk := d }
      x.full = 4 ∧ x.full + triesLeft c x.desk.table ≤ 4 ∧ x.IsOver c ∧
        ∀ fuel, 4 < fuel → (burst c "outbox" fuel).run d = (fullBurst c "outbox").run d := by
  intro s broker d events
  refine ⟨_, rfl, ?_⟩
  generalize configured : Config.mk _ _ _ _ _ = c
  have untried : ∀ r ∈ d.table.rows, r.isPending = true → r.attempts < c.maxAttempts := by
    subst configured
    decide +kernel
  have own : d.table.rows.Pairwise fun e r =>
      r.isPending = true → e.posting.id ≠ r.posting.id := by decide +kernel
  have tries : triesLeft c d.table = 4 := by
    subst configured
    decide +kernel
  have full : (run c events { desk := d }).full = 4 := by
    subst configured
    decide +kernel
  have calls : (4 + 1) * (2 * 2 + 3) ≤ events.countP Event.isCall := by decide
  have uses := full_batches_use_up_tries s c (configured ▸ rfl) d untried own
  rw [tries] at uses
  obtain ⟨bounded, -, ends, running⟩ := uses
  exact ⟨untried, own, tries, full, bounded _, ends _ calls, (running "outbox").2⟩

/-- Two events with one identifier, each of which may be tried once: what is said of the second one
is taken for news of the first, so it is sent again when its lease is over, in a third full batch.
-/
theorem sent_again_behind_namesake :
    let s : Settings.Outbox := { batchSize := 1, maxAttempts := 1, claimLeaseSeconds := 1 }
    let d : Desk := ⟨{ now := ⟨0⟩ }, ⟨[fresh 1 "a", fresh 1 "b"]⟩, {}, false⟩
    let events := List.replicate 6 .call ++ atSecond {} 2 :: List.replicate 9 .call
    ∃ c, Config.ofSettings? s = some c ∧
      (∀ r ∈ d.table.rows, r.isPending = true → r.attempts < c.maxAttempts) ∧
      triesLeft c d.table = 2 ∧ (run c events { desk := d }).full = 3 := by
  intro s d events
  refine ⟨_, rfl, by decide +kernel, by decide +kernel, ?_⟩
  decide +kernel

end OrderFlow.Outbox.Streak
