import OrderFlow.Surroundings

/-!
What comes of doing something. `Yields act s Q` says that the answer of `act`, begun in `s`, and
the state that it leaves behind are as `Q` has them; what makes several calls is followed through
call by call (`Yields.bind`).

Whatever is done, the surroundings are left as `Follows` has them: time stands still, identifiers
come from where they came from, and none is handed out twice (`Fresh`).
-/
namespace OrderFlow

/-- The answer and the state that something leaves behind are as `Q` says. -/
def Yields {σ α : Type} (act : StateM σ α) (s : σ) (Q : α → σ → Prop) : Prop :=
  Q (act.run s).1 (act.run s).2

namespace Yields
variable {σ α β : Type} {s : σ}

theorem bind {act : StateM σ α} {next : α → StateM σ β} {P : α → σ → Prop} {Q : β → σ → Prop}
    (first : Yields act s P) (rest : ∀ a s', P a s' → Yields (next a) s' Q) :
    Yields (act >>= next) s Q :=
  rest _ _ first

theorem mono {act : StateM σ α} {P Q : α → σ → Prop} (yields : Yields act s P)
    (weaker : ∀ a s', P a s' → Q a s') : Yields act s Q :=
  weaker _ _ yields

theorem and {act : StateM σ α} {P Q : α → σ → Prop} (yields : Yields act s P)
    (besides : Yields act s Q) : Yields act s fun a s' => P a s' ∧ Q a s' :=
  ⟨yields, besides⟩

/-- The answer is what the call gives. -/
theorem answered {act : StateM σ α} {P : α → σ → Prop} (yields : Yields act s P) :
    Yields act s fun a s' => act.run s = (a, s') ∧ P a s' :=
  ⟨rfl, yields⟩

theorem returned {a : α} {Q : α → σ → Prop} (holds : Q a s) : Yields (pure a) s Q := holds

/-- Looking at the state leaves it as it is. -/
theorem seen {next : σ → StateM σ β} {Q : β → σ → Prop} (rest : Yields (next s) s Q) :
    Yields (get >>= next) s Q :=
  rest

theorem changed {f : σ → σ} {next : PUnit → StateM σ β} {Q : β → σ → Prop}
    (rest : Yields (next ⟨⟩) (f s) Q) : Yields (modify f >>= next) s Q :=
  rest

/-- What is done in the surroundings of a state. -/
theorem lifted [Situated σ] {act : StateM Surroundings α} {Q : α → σ → Prop}
    (yields : Yields act (Situated.around s) fun a around => Q a (Situated.setAround s around)) :
    Yields (liftM act) s Q :=
  yields

end Yields

namespace Surroundings

/-- The surroundings `s'` may come about from `s` while time stands still. -/
structure Follows (s s' : Surroundings) : Prop where
  now : s'.now = s.now
  ids : s'.ids = s.ids
  issued : s.issued ≤ s'.issued

namespace Follows
variable {a b c : Surroundings}

theorem refl (s : Surroundings) : Follows s s := ⟨rfl, rfl, Nat.le_refl _⟩

theorem trans (first : Follows a b) (second : Follows b c) : Follows a c where
  now := second.now.trans first.now
  ids := second.ids.trans first.ids
  issued := Nat.le_trans first.issued second.issued

end Follows

/-- An identifier that was handed out between `s` and `s'`. -/
def Fresh (s s' : Surroundings) (id : Uuid) : Prop :=
  ∃ n, s.issued ≤ n ∧ n < s'.issued ∧ id = s.ids.ordered n

namespace Fresh
variable {a b c : Surroundings} {id : Uuid}

theorem followed (fresh : Fresh a b id) (later : Follows b c) : Fresh a c id := by
  obtain ⟨n, least, below, rfl⟩ := fresh
  exact ⟨n, least, Nat.lt_of_lt_of_le below later.issued, rfl⟩

theorem preceded (earlier : Follows a b) (fresh : Fresh b c id) : Fresh a c id := by
  obtain ⟨n, least, below, rfl⟩ := fresh
  exact ⟨n, Nat.le_trans earlier.issued least, below, congrArg (·.ordered n) earlier.ids⟩

end Fresh

/-- An identifier that was handed out before. -/
def HasIssued (s : Surroundings) (id : Uuid) : Prop := ∃ n < s.issued, id = s.ids.ordered n

/-- No identifier was handed out twice. -/
def IsDistinct (s : Surroundings) : Prop :=
  ∀ m < s.issued, ∀ n < s.issued, s.ids.ordered m = s.ids.ordered n → m = n

namespace Follows
variable {a b : Surroundings} {id id' : Uuid}

theorem hasIssued (follows : Follows a b) (issued : a.HasIssued id) : b.HasIssued id := by
  obtain ⟨n, below, rfl⟩ := issued
  exact ⟨n, Nat.lt_of_lt_of_le below follows.issued, by rw [follows.ids]⟩

theorem isDistinct (follows : Follows a b) (distinct : b.IsDistinct) : a.IsDistinct := by
  intro m below n below' same
  rw [← follows.ids] at same
  have later := follows.issued
  exact distinct m (Nat.lt_of_lt_of_le below later) n (Nat.lt_of_lt_of_le below' later) same

/-- An identifier that is handed out now is none of those before. -/
theorem ne_of_fresh (follows : Follows a b) (distinct : b.IsDistinct) (fresh : Fresh a b id)
    (issued : a.HasIssued id') : id' ≠ id := by
  rintro rfl
  obtain ⟨n, least, below, same⟩ := fresh
  obtain ⟨m, before, same'⟩ := issued
  rw [same, ← follows.ids] at same'
  have equal := distinct n below m (Nat.lt_of_lt_of_le before follows.issued) same'
  omega

end Follows

theorem Fresh.hasIssued {a b : Surroundings} {id : Uuid} (follows : Follows a b)
    (fresh : Fresh a b id) : b.HasIssued id := by
  obtain ⟨n, -, below, rfl⟩ := fresh
  exact ⟨n, below, by rw [follows.ids]⟩

/-- The surroundings `s'` come after `s`, however much later. -/
structure Precedes (s s' : Surroundings) : Prop where
  ids : s'.ids = s.ids
  issued : s.issued ≤ s'.issued

theorem Follows.precedes {a b : Surroundings} (follows : Follows a b) : Precedes a b :=
  ⟨follows.ids, follows.issued⟩

namespace Precedes
variable {a b c : Surroundings} {id id' : Uuid}

theorem refl (s : Surroundings) : Precedes s s := ⟨rfl, Nat.le_refl _⟩

theorem trans (first : Precedes a b) (second : Precedes b c) : Precedes a c where
  ids := second.ids.trans first.ids
  issued := Nat.le_trans first.issued second.issued

/-- What was handed out between two points in time was handed out between any two around them. -/
theorem fresh {z : Surroundings} (earlier : Precedes z a) (fresh : Fresh a b id)
    (later : Precedes b c) : Fresh z c id := by
  obtain ⟨n, least, below, rfl⟩ := fresh
  exact ⟨n, Nat.le_trans earlier.issued least, Nat.lt_of_lt_of_le below later.issued,
    congrArg (·.ordered n) earlier.ids⟩

/-- What was handed out first is not handed out again. -/
theorem ne_of_fresh (first : Precedes a b) (second : Precedes b c) (distinct : c.IsDistinct)
    (old : Fresh a b id) (new : Fresh b c id') : id ≠ id' := by
  rintro rfl
  obtain ⟨m, -, before, rfl⟩ := old
  obtain ⟨n, after, below, same⟩ := new
  rw [← first.ids, ← second.ids] at same
  have equal := distinct m (Nat.lt_of_lt_of_le before second.issued) n below same
  omega

end Precedes

/-- No mishap is to come. -/
def IsQuiet (s : Surroundings) : Prop := s.mishaps = []

/-- The next call of a kind meets no mishap. -/
def IsCalm (s : Surroundings) (call : StoreCall) : Prop := (takeFrom call s.mishaps).1 = .none

/-- The next call of a kind does not fail after it has done its work. -/
def IsPrompt (s : Surroundings) (call : StoreCall) : Prop :=
  ∀ e, (takeFrom call s.mishaps).1 ≠ .failsAfterwards e

theorem mishap_yields (call : StoreCall) (s : Surroundings) :
    Yields (mishap call) s fun _ s' => Follows s s' :=
  ⟨rfl, rfl, Nat.le_refl _⟩

theorem mishap_calm_yields (call : StoreCall) (s : Surroundings) :
    Yields (mishap call) s fun m s' => (s.IsCalm call → m = .none) ∧ Follows s s' :=
  ⟨fun calm => calm, rfl, rfl, Nat.le_refl _⟩

theorem mishap_quiet (call : StoreCall) {s : Surroundings} (quiet : s.IsQuiet) :
    Yields (mishap call) s fun m s' => m = .none ∧ s' = s := by
  obtain ⟨now, ids, issued, draws, drawn, mishaps, meters, overflowed⟩ := s
  cases quiet
  exact ⟨rfl, rfl⟩

theorem failure_yields (call : StoreCall) (s : Surroundings) :
    Yields (failure? call) s fun _ s' => Follows s s' := by
  refine (mishap_yields call s).bind fun m s' follows => ?_
  cases m <;> exact .returned follows

theorem clock_yields (s : Surroundings) :
    Yields clock s fun now s' => now = s.now ∧ Follows s s' :=
  ⟨rfl, .refl s⟩

theorem draw_yields (s : Surroundings) : Yields draw s fun _ s' => Follows s s' :=
  ⟨rfl, rfl, Nat.le_refl _⟩

theorem meter_yields (f : Meters → Meters) (s : Surroundings) :
    Yields (meter f) s fun _ s' => Follows s s' :=
  ⟨rfl, rfl, Nat.le_refl _⟩

theorem orderedId_yields (s : Surroundings) :
    Yields orderedId s fun id s' => Fresh s s' id ∧ Follows s s' :=
  ⟨⟨s.issued, Nat.le_refl _, Nat.lt_succ_self _, rfl⟩, rfl, rfl, Nat.le_succ _⟩

theorem randomId_yields (s : Surroundings) : Yields randomId s fun _ s' => Follows s s' :=
  ⟨rfl, rfl, Nat.le_succ _⟩

end Surroundings

end OrderFlow
