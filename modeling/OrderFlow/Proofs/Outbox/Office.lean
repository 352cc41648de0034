import OrderFlow.Proofs.Outbox.Moves

/-!
An office: one outbox that any number of publishers work on at once, each in its own way, while
events are posted. One event of a run lets one batch make one call, or begins a batch, or posts
something, or changes the weather: the clock, the mishaps and the broker. Nobody has to go on, so a
batch may rest for as long as it likes, with its rows in its hands, and go on when its claims have
long run out.
-/
namespace OrderFlow.Outbox

/-- An element of a longer list is the new one or stands where it has stood. -/
theorem parts_snoc {α : Type} {l before rest : List α} {x last : α}
    (parts : l ++ [last] = before ++ x :: rest) :
    rest = [] ∧ x = last ∧ before = l ∨
      ∃ rest', rest = rest' ++ [last] ∧ l = before ++ x :: rest' := by
  rcases List.eq_nil_or_concat rest with rfl | ⟨rest', last', rfl⟩
  · obtain ⟨rfl, same⟩ := List.append_inj' parts rfl
    cases same
    exact .inl ⟨rfl, rfl, rfl⟩
  · rw [List.concat_eq_append, ← List.cons_append, ← List.append_assoc] at parts
    obtain ⟨same, last⟩ := List.append_inj' parts rfl
    cases last
    exact .inr ⟨rest', List.concat_eq_append, same⟩

/-- A call that a batch has made. -/
structure Deed where
  /-- Whose call it was. -/
  doer : Nat
  before : Batch
  after : Batch
  earlier : Desk
  later : Desk

/-- The row that the broker has accepted. -/
def Deed.accepted? (d : Deed) : Option Row :=
  match d.before, d.after with
  | .sending (row :: _) _, .marking _ _ _ => some row
  | _, _ => none

/-- The desk, the batches that are under way, and the calls that were made. -/
structure Office where
  desk : Desk
  batches : List (Config × Batch) := []
  past : List Deed := []

namespace Office

/-- What the office has no power over. -/
structure Weather where
  now : Instant
  mishaps : List (StoreCall × Mishap) := []
  brokerAvailable : Bool := true
  refusals : Nat := 0

/-- The desk in a weather. -/
def Weather.over (w : Weather) (d : Desk) : Desk :=
  { d with
    around := { d.around with now := w.now, mishaps := w.mishaps }
    broker := { d.broker with available := w.brokerAvailable, refusals := w.refusals } }

/-- What can happen. -/
inductive Event where
  | post (posting : Posting)
  /-- A publisher begins a batch. -/
  | begin (config : Config)
  /-- Lets a batch make its next call. -/
  | advance (doer : Nat)
  | change (weather : Weather)

/-- The office after a batch has made a call. -/
def acted (o : Office) (doer : Nat) (c : Config) (b b' : Batch) (later : Desk) : Office where
  desk := later
  batches := o.batches.set doer (c, b')
  past := o.past ++ [⟨doer, b, b', o.desk, later⟩]

/-- What an event does. -/
def step (o : Office) : Event → Office
  | .post p => { o with desk.table := o.desk.table.insert p o.desk.around.now }
  | .begin c => { o with batches := o.batches ++ [(c, .claiming)] }
  | .advance doer =>
    match o.batches[doer]? with
    | none => o
    | some (c, b) =>
      let (b', later) := (b.step c).run o.desk
      o.acted doer c b b' later
  | .change w => { o with desk := w.over o.desk }

/-- A run. -/
def run (o : Office) (events : List Event) : Office := events.foldl step o

/-- An office in which nothing was posted yet. -/
def opening (around : Surroundings) (broker : Broker) : Office :=
  { desk := ⟨around, {}, broker, false⟩ }

/-- The rows that the broker has accepted, as often as it has. -/
def accepted (o : Office) : List Row := o.past.filterMap Deed.accepted?

/-- What one event may do. -/
inductive Step (o : Office) : Event → Office → Prop where
  | posts (p : Posting) :
      Step o (.post p) { o with desk.table := o.desk.table.insert p o.desk.around.now }
  | begins (c : Config) : Step o (.begin c) { o with batches := o.batches ++ [(c, .claiming)] }
  | rests (doer : Nat) : Step o (.advance doer) o
  | acts {doer : Nat} {c : Config} {b b' : Batch} {later : Desk}
      (under : o.batches[doer]? = some (c, b)) (move : Move c o.desk later b b') :
      Step o (.advance doer) (o.acted doer c b b' later)
  | weather (w : Weather) : Step o (.change w) { o with desk := w.over o.desk }

variable {o o' : Office} {e : Event}

theorem step_cases (o : Office) (e : Event) : Step o e (o.step e) := by
  cases e with
  | post p => exact .posts p
  | begin c => exact .begins c
  | change w => exact .weather w
  | advance doer =>
    simp only [step]
    split
    · exact .rests doer
    · next c b under => exact .acts under (b.step_moves c o.desk)

/-- What every step keeps holds after every run, given that the events are as `Q` says. -/
theorem run_keeps_where {P : Office → Prop} {Q : Event → Prop} {events : List Event}
    (met : ∀ e ∈ events, Q e) (holds : P o) (keeps : ∀ o e o', Q e → P o → Step o e o' → P o') :
    P (o.run events) := by
  induction events generalizing o with
  | nil => exact holds
  | cons e events ih =>
    exact ih (fun e' member => met e' (List.mem_cons_of_mem _ member))
      (keeps o e _ (met e List.mem_cons_self) holds (step_cases o e))

/-- What every step keeps holds after every run. -/
theorem run_keeps {P : Office → Prop} {events : List Event} (holds : P o)
    (keeps : ∀ o e o', P o → Step o e o' → P o') : P (o.run events) :=
  run_keeps_where (Q := fun _ => True) (fun _ _ => trivial) holds fun o e o' _ => keeps o e o'

theorem run_append (o : Office) (earlier later : List Event) :
    o.run (earlier ++ later) = (o.run earlier).run later :=
  List.foldl_append

theorem mem_batches_acted {doer : Nat} {c : Config} {b b' : Batch} {later : Desk}
    {batch : Config × Batch} (member : batch ∈ (o.acted doer c b b' later).batches) :
    batch ∈ o.batches ∨ batch = (c, b') :=
  List.mem_or_eq_of_mem_set member

theorem accepted_acted (o : Office) (doer : Nat) (c : Config) (b b' : Batch) (later : Desk) :
    (o.acted doer c b b' later).accepted =
      o.accepted ++ (Deed.accepted? ⟨doer, b, b', o.desk, later⟩).toList := by
  rw [accepted, acted, List.filterMap_append, List.filterMap_cons]
  cases Deed.accepted? ⟨doer, b, b', o.desk, later⟩ <;> rfl

/-- **The broker has what the batches have sent**, and nothing else is new. -/
theorem log_step (step : Step o e o') {log : List SentMessage}
    (told : o.desk.broker.log = log ++ o.accepted.map Row.message) :
    o'.desk.broker.log = log ++ o'.accepted.map Row.message := by
  cases step with
  | posts | begins | rests | weather => exact told
  | @acts doer c b b' later under move =>
    rw [accepted_acted, List.map_append, ← List.append_assoc, ← told]
    show later.broker.log = _
    cases move with
    | claims _ writes | marks _ writes | records _ writes =>
      rw [writes.broker]
      exact (List.append_nil _).symm
    | ends aside =>
      rw [aside.broker]
      cases b with
      | sending rows => cases rows <;> exact (List.append_nil _).symm
      | _ => exact (List.append_nil _).symm
    | @misses row _ _ _ _ refused writes =>
      have sent := o.desk.broker.send_log row.message
      rw [refused] at sent
      rw [writes.broker]
      rcases sent with ⟨ok, _⟩ | ⟨_, stays⟩
      · cases ok
      · exact stays.trans (List.append_nil _).symm
    | @sends row _ _ _ accepts writes =>
      have sent := o.desk.broker.send_log row.message
      rw [accepts] at sent
      rw [writes.broker]
      rcases sent with ⟨_, grows⟩ | ⟨⟨_, error⟩, _⟩
      · exact grows
      · cases error

end Office

end OrderFlow.Outbox
