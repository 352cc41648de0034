import OrderFlow.Proofs.Outbox.Claims
import OrderFlow.Proofs.Outbox.Tries

/-!
A streak: the batches that a publisher does one after the other without a pause, because every one
of them was full. Before each of its calls everything on its desk but the table may have changed, so
the clock may say anything and the broker may accept or refuse whatever it likes; only nothing is
posted meanwhile. A full batch has claimed a row, and it has reported on all its rows, so it has
used up a try of one of them (`IsWaning.goesOn`). There are no more full batches in a row than tries
are left, and so the streak comes to its end (`IsWaning.isOver`).
-/
namespace OrderFlow.Outbox
variable {c : Config} {d d' : Desk} {b b' : Batch} {t t' : Table} {n : Nat}

/-- How many rows a batch says that it has claimed. -/
def Batch.claimed : Batch → Nat
  | .sending _ report | .marking _ _ report | .missing _ _ _ report | .done (.ok report) =>
    report.claimed
  | .claiming | .done (.error _) => 0

/-- What a call tells of the claimed rows: a claim counts them, later calls keep the count, and a
batch without a failure has none of its rows left when it is done. -/
structure Batch.Counts (b b' : Batch) : Prop where
  claims : b = .claiming → b'.claimed = b'.rows.length
  keeps : b ≠ .claiming → b'.claimed = 0 ∨ b'.claimed = b.claimed
  ends : ∀ report, b' = .done (.ok report) → b.rows = []

/-- A call of which nothing is said. -/
theorem yields_bind {σ α β : Type} {s : σ} {act : StateM σ α} {next : α → StateM σ β}
    {Q : β → σ → Prop} (rest : ∀ a s', Yields (next a) s' Q) : Yields (act >>= next) s Q :=
  rest _ _

theorem Batch.step_counts (c : Config) (b : Batch) (d : Desk) :
    Yields (b.step c) d fun b' _ => b.Counts b' := by
  have failed (b : Batch) (e : Failure) : b.Counts (.done (.error e)) :=
    ⟨fun _ => rfl, fun _ => .inl rfl, nofun⟩
  cases b with
  | claiming =>
    refine yields_bind fun failure d₁ => ?_
    cases failure with
    | some e => exact .returned (failed _ e)
    | none =>
      refine yields_bind fun now d₂ => .seen ?_
      split
      · exact .returned (failed _ _)
      · exact .changed (.returned ⟨fun _ => rfl, fun other => absurd rfl other, nofun⟩)
  | sending rows report =>
    cases rows with
    | nil => exact .returned ⟨nofun, fun _ => .inr rfl, fun _ _ => rfl⟩
    | cons row rows =>
      refine .seen ?_
      cases sent : d.broker.send row.message with
      | mk result broker =>
        cases result with
        | ok _ | error e =>
          exact .changed (.returned ⟨nofun, fun _ => .inr rfl, nofun⟩)
  | marking row rows report =>
    refine yields_bind fun now d₁ => yields_bind fun r d₂ => ?_
    cases r with
    | error e => exact .returned (failed _ e)
    | ok _ =>
      exact yields_bind fun _ d₃ => .returned ⟨nofun, fun _ => .inr rfl, nofun⟩
  | missing row error rows report =>
    refine yields_bind fun now d₁ => ?_
    split
    · exact .returned (failed _ _)
    · refine yields_bind fun r d₂ => ?_
      cases r with
      | error e => exact .returned (failed _ e)
      | ok status =>
        cases status with
        | pending | published | failed =>
          exact yields_bind fun _ d₃ => .returned ⟨nofun, fun _ => .inr rfl, nofun⟩
  | done r => exact .returned ⟨nofun, fun _ => .inr rfl, fun _ _ => rfl⟩

/-- Each call of a batch that is not done leaves fewer of them to come. -/
theorem Move.callsLeft_lt {size : Nat} (move : Move c d d' b b')
    (within : min c.batchSize d.table.rows.length ≤ size) (under : ∀ r, b ≠ .done r) :
    b'.callsLeft size < b.callsLeft size := by
  cases move with
  | claims claimed =>
    have some := Table.length_claimed d.table c.batchSize d.around.now
      (d.around.now.after c.claimLease)
    have all : (d.table.deliverable d.around.now).length ≤ d.table.rows.length := by
      have fewer := List.length_filter_le (d.table.IsDeliverable d.around.now ·)
        (List.range d.table.rows.length)
      rwa [List.length_range] at fewer
    rw [claimed] at some
    simp only [Batch.callsLeft] at some ⊢
    omega
  | sends | misses | marks | records =>
    simp only [Batch.callsLeft, List.length_cons]
    omega
  | @ends b =>
    cases b with
    | done r => exact absurd rfl (under r)
    | claiming | sending | marking | missing => simp [Batch.callsLeft]

theorem Move.length_rows (move : Move c d d' b b') :
    d'.table.rows.length = d.table.rows.length :=
  move.wanes.length_eq.symm

/-- A claimed row is one of the new table and waits. -/
theorem Table.waits_of_claimed {limit : Nat} {now deadline : Instant} {rows : List Row} {r : Row}
    (claimed : t.claim limit now deadline = (rows, t')) (member : r ∈ rows) :
    r ∈ t'.rows ∧ r.isPending = true := by
  cases claimed
  obtain ⟨e, -, pending, -, rfl⟩ := claimFrom_due member
  exact ⟨(claimFrom_sublist _ _ _ _ _).subset member, pending⟩

/-- One of these rows still waits in the table. -/
def HoldsWaiting (rows : List Row) (t : Table) : Prop :=
  ∃ row ∈ rows, ∃ r ∈ t.rows, r.isPending = true ∧ r.posting.id = row.posting.id

/-- Of the `n` tries that were left when a batch began, one is used up, or a row that the batch
holds still waits, unless it has claimed none. -/
structure Owes (c : Config) (n : Nat) (b : Batch) (t : Table) : Prop where
  fewer : triesLeft c t ≤ n
  unsettled : b.claimed = 0 ∨ triesLeft c t < n ∨ HoldsWaiting b.rows t

/-- A report is on the row in question, which then has a try less, or on another one. -/
theorem HoldsWaiting.reported {row : Row} {rows : List Row} {f : Row → Row}
    (waits : HoldsWaiting (row :: rows) t)
    (changed : t'.rows = Table.change row.posting.id f t.rows)
    (uses : ∀ r ∈ t.rows, r.isPending = true → r.posting.id = row.posting.id →
      triesLeft c t' < triesLeft c t) :
    triesLeft c t' < triesLeft c t ∨ HoldsWaiting rows t' := by
  obtain ⟨held, member, r, stands, pending, same⟩ := waits
  by_cases named : r.posting.id = row.posting.id
  · exact .inl (uses r stands pending named)
  · have later : held ∈ rows := by
      rcases List.mem_cons.mp member with rfl | later
      · exact absurd same named
      · exact later
    refine .inr ⟨held, later, r, ?_, pending, same⟩
    rw [changed]
    exact Table.mem_change_of_ne stands named

/-- What a batch has claimed waits. -/
theorem Move.waits_first (move : Move c d d' .claiming b') (counts : Batch.claiming.Counts b') :
    b'.claimed = 0 ∨ HoldsWaiting b'.rows d'.table := by
  have all := counts.claims rfl
  cases move with
  | @claims rows table report claimed writes =>
    cases rows with
    | nil => exact .inl all
    | cons row rows =>
      obtain ⟨stands, pending⟩ := Table.waits_of_claimed claimed List.mem_cons_self
      rw [← writes.table] at stands
      exact .inr ⟨row, List.mem_cons_self, row, stands, pending, rfl⟩
  | ends => exact .inl all

/-- What a batch holds goes on waiting until a report uses up a try. -/
theorem Move.waits_later (move : Move c d d' b b') (counts : b.Counts b') (begun : b ≠ .claiming)
    (hopeful : d.table.IsHopeful c.maxAttempts) (waits : HoldsWaiting b.rows d.table) :
    b'.claimed = 0 ∨ triesLeft c d'.table < triesLeft c d.table ∨
      HoldsWaiting b'.rows d'.table := by
  cases move with
  | claims => exact absurd rfl begun
  | sends _ writes | misses _ writes =>
    rw [writes.table]
    exact .inr (.inr waits)
  | marks marked writes =>
    rw [writes.table]
    refine .inr (waits.reported (by rw [Table.markPublished_ok marked]) ?_)
    intro r stands pending named
    rw [← named] at marked
    exact Table.marked_lt hopeful stands pending marked
  | records recorded writes =>
    rw [writes.table]
    refine .inr (waits.reported (by rw [Table.recordFailure_ok recorded]) ?_)
    intro r stands pending named
    rw [← named] at recorded
    exact Table.recorded_lt hopeful stands pending recorded
  | @ends _ r =>
    cases r with
    | error e => exact .inl rfl
    | ok report =>
      obtain ⟨row, held, -⟩ := waits
      rw [counts.ends report rfl] at held
      cases held

/-- **No call makes a batch forget that it owes a try.** -/
theorem Move.owes (move : Move c d d' b b') (counts : b.Counts b')
    (hopeful : d.table.IsHopeful c.maxAttempts) (owes : Owes c n b d.table) :
    Owes c n b' d'.table := by
  have fewer : triesLeft c d'.table ≤ triesLeft c d.table := move.wanes.triesLeft_le
  refine ⟨Nat.le_trans fewer owes.fewer, ?_⟩
  by_cases begins : b = .claiming
  · subst begins
    exact (move.waits_first counts).imp_right .inr
  · rcases owes.unsettled with none | used | waits
    · exact .inl ((counts.keeps begins).elim id fun same => same.trans none)
    · exact .inr (.inl (Nat.lt_of_le_of_lt fewer used))
    · refine (move.waits_later counts begins hopeful waits).imp_right (Or.imp_left ?_)
      intro used
      exact Nat.lt_of_lt_of_le used owes.fewer

/-- Whether the next batch follows at once. -/
def fills (c : Config) : Except Failure Report → Bool
  | .ok report => c.batchSize ≤ report.claimed
  | .error _ => false

/-- A publisher on its own: its batch, and how many full ones it has done. -/
structure Streak where
  desk : Desk
  batch : Batch := .claiming
  full : Nat := 0

namespace Streak
variable {x y : Streak} {total size : Nat}

/-- What can happen. -/
inductive Event where
  /-- The publisher makes its next call; after a full batch it begins another one. -/
  | call
  /-- Everything on the desk but the table becomes something else. -/
  | change (desk : Desk)

/-- Whether the publisher makes a call. -/
def Event.isCall : Event → Bool
  | .call => true
  | .change .. => false

/-- What an event does. -/
def step (c : Config) (x : Streak) : Event → Streak
  | .change desk => { x with desk := { desk with table := x.desk.table } }
  | .call =>
    match x.batch with
    | .done result =>
      if fills c result then { x with batch := .claiming, full := x.full + 1 } else x
    | batch =>
      let (batch, desk) := (batch.step c).run x.desk
      { x with desk, batch }

/-- A run. -/
def run (c : Config) (events : List Event) (x : Streak) : Streak := events.foldl (step c) x

/-- The last batch was not full, and the publisher waits for the next poll. -/
def IsOver (c : Config) (x : Streak) : Prop :=
  ∃ result, x.batch = .done result ∧ fills c result = false

/-- What one event may do. -/
inductive Step (c : Config) (x : Streak) : Event → Streak → Prop where
  | changes (desk : Desk) :
      Step c x (.change desk) { x with desk := { desk with table := x.desk.table } }
  | goesOn {report : Report} (done : x.batch = .done (.ok report))
      (full : c.batchSize ≤ report.claimed) :
      Step c x .call { x with batch := .claiming, full := x.full + 1 }
  | rests (ended : x.IsOver c) : Step c x .call x
  | calls {b : Batch} {d : Desk} (under : ∀ r, x.batch ≠ .done r)
      (move : Move c x.desk d x.batch b) (counts : x.batch.Counts b) :
      Step c x .call { x with desk := d, batch := b }

theorem step_cases (c : Config) (x : Streak) (e : Event) : Step c x e (x.step c e) := by
  cases e with
  | change desk => exact .changes desk
  | call =>
    simp only [step]
    split
    · next result done =>
      cases result with
      | error e => exact .rests ⟨_, done, rfl⟩
      | ok report =>
        by_cases full : fills c (.ok report) = true
        · rw [if_pos full]
          exact .goesOn done (of_decide_eq_true full)
        · rw [if_neg full]
          exact .rests ⟨_, done, Bool.eq_false_iff.mpr full⟩
    · next under => exact .calls under (x.batch.step_moves c x.desk) (x.batch.step_counts c x.desk)

/-- What every step keeps holds after every run. -/
theorem run_keeps {P : Streak → Prop} {events : List Event} (holds : P x)
    (keeps : ∀ x e y, P x → Step c x e y → P y) : P (run c events x) := by
  induction events generalizing x with
  | nil => exact holds
  | cons e events ih => exact ih (keeps x e _ holds (step_cases c x e))

theorem run_append (earlier later : List Event) :
    run c (earlier ++ later) x = run c later (run c earlier x) :=
  List.foldl_append

/-- Every full batch so far has used up a try, of `total` that there were when none was done. -/
structure IsWaning (c : Config) (total : Nat) (x : Streak) : Prop where
  hopeful : x.desk.table.IsHopeful c.maxAttempts
  owes : ∃ n, x.full + n ≤ total ∧ Owes c n x.batch x.desk.table

theorem IsWaning.begun (hopeful : x.desk.table.IsHopeful c.maxAttempts)
    (begins : x.batch = .claiming) :
    IsWaning c (x.full + triesLeft c x.desk.table) x :=
  ⟨hopeful, _, Nat.le_refl _, Nat.le_refl _, .inl (by rw [begins]; rfl)⟩

theorem IsWaning.le (waning : IsWaning c total x) : x.full + triesLeft c x.desk.table ≤ total := by
  obtain ⟨-, n, within, owes⟩ := waning
  have := owes.fewer
  omega

/-- **A full batch has used up a try of a row.** -/
theorem IsWaning.goesOn {report : Report} (waning : IsWaning c total x) (room : 1 ≤ c.batchSize)
    (done : x.batch = .done (.ok report)) (full : c.batchSize ≤ report.claimed) :
    x.full + 1 + triesLeft c x.desk.table ≤ total := by
  obtain ⟨-, n, within, owes⟩ := waning
  rw [done] at owes
  have used : triesLeft c x.desk.table < n := by
    rcases owes.unsettled with none | used | ⟨row, held, -⟩
    · have : report.claimed = 0 := none
      omega
    · exact used
    · cases held
  omega

theorem IsWaning.step {e : Event} (waning : IsWaning c total x) (room : 1 ≤ c.batchSize)
    (step : Step c x e y) : IsWaning c total y := by
  cases step with
  | changes => exact ⟨waning.hopeful, waning.owes⟩
  | goesOn done full =>
    exact ⟨waning.hopeful, _, waning.goesOn room done full, Nat.le_refl _, .inl rfl⟩
  | rests => exact waning
  | calls under move counts =>
    obtain ⟨hopeful, n, within, owes⟩ := waning
    exact ⟨move.wanes.isHopeful hopeful, n, within, move.owes counts hopeful owes⟩

theorem IsWaning.run {events : List Event} (waning : IsWaning c total x)
    (room : 1 ≤ c.batchSize) : IsWaning c total (run c events x) :=
  run_keeps waning fun _ _ _ waning step => waning.step room step

/-- How many calls a streak still makes at most, given the number of rows. -/
def callsLeft (size total : Nat) (x : Streak) : Nat :=
  (total - x.full) * (2 * size + 3) + x.batch.callsLeft size

/-- Until a streak is over, each call leaves fewer of them to come. -/
theorem IsWaning.callsLeft_lt (waning : IsWaning c total x) (room : 1 ≤ c.batchSize)
    (within : x.desk.table.rows.length ≤ size) (step : Step c x .call y) :
    x.IsOver c ∨ y.callsLeft size total < x.callsLeft size total := by
  cases step with
  | goesOn done full =>
    have used := waning.goesOn room done full
    obtain ⟨left, more⟩ : ∃ left, total - x.full = left + 1 := ⟨total - x.full - 1, by omega⟩
    have fewer : total - (x.full + 1) = left := by omega
    refine .inr ?_
    simp only [callsLeft, done, more, fewer, Batch.callsLeft, Nat.succ_mul]
    omega
  | rests ended => exact .inl ended
  | calls under move counts =>
    have less := move.callsLeft_lt (Nat.le_trans (Nat.min_le_right _ _) within) under
    exact .inr (Nat.add_lt_add_left less _)

theorem Step.length_rows {e : Event} (step : Step c x e y) :
    y.desk.table.rows.length = x.desk.table.rows.length := by
  cases step with
  | changes | goesOn | rests => rfl
  | calls under move counts => exact move.length_rows

theorem IsOver.step {e : Event} (ended : x.IsOver c) (step : Step c x e y) : y.IsOver c := by
  obtain ⟨result, done, rest⟩ := ended
  cases step with
  | changes | rests => exact ⟨result, done, rest⟩
  | goesOn done' full =>
    cases done.symm.trans done'
    exact absurd full (of_decide_eq_false rest)
  | calls under => exact absurd done (under result)

/-- **A streak is over after enough calls**, whatever happens in between. -/
theorem IsWaning.isOver {events : List Event} (waning : IsWaning c total x)
    (room : 1 ≤ c.batchSize) (within : x.desk.table.rows.length ≤ size)
    (enough : x.IsOver c ∨ x.callsLeft size total < events.countP Event.isCall) :
    (Streak.run c events x).IsOver c := by
  induction events generalizing x with
  | nil => exact enough.resolve_right (Nat.not_lt_zero _)
  | cons e events ih =>
    have step := step_cases c x e
    refine ih (waning.step room step) (step.length_rows ▸ within) ?_
    rcases enough with ended | enough
    · exact .inl (ended.step step)
    · cases e with
      | change desk => exact .inr enough
      | call =>
        rw [List.countP_cons_of_pos rfl] at enough
        rcases waning.callsLeft_lt room within step with ended | less
        · exact .inl (ended.step step)
        · exact .inr (by omega)

end Streak

end OrderFlow.Outbox
