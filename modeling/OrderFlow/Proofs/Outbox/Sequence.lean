import OrderFlow.Proofs.Outbox.Office
import OrderFlow.Proofs.Outbox.Rows

/-!
The events of one aggregate go out in the order in which they were posted (`published_in_order`),
however many publishers there are and however late one of them is. It is the claim that sees to it:
nothing waits in front of what a batch holds, or of what the broker has ever accepted, and whatever
counts as sent was accepted before (`IsOrdered`). Events are told apart by their identifiers, so an
event that shares its identifier can count as sent too early (`sent_for_its_namesake`).
-/
namespace OrderFlow.Outbox

/-- Whatever a batch does, the rows keep their places. -/
theorem Move.tables {c : Config} {d d' : Desk} {b b' : Batch} (move : Move c d d' b b') :
    d.table.Follows d'.table := by
  cases move with
  | claims claimed writes =>
    rw [writes.table]
    exact Table.follows_claim claimed
  | sends _ writes | misses _ writes =>
    rw [writes.table]
    exact .refl _
  | marks marked writes =>
    rw [writes.table]
    exact Table.follows_markPublished marked
  | records recorded writes =>
    rw [writes.table]
    exact Table.follows_recordFailure recorded
  | ends aside =>
    rw [aside.table]
    exact .refl _

/-- No other row has the identifier of the row in a place. -/
def Table.IsAlone (t : Table) (i : Nat) : Prop :=
  ∀ r, t.rows[i]? = some r → ∀ k e, t.rows[k]? = some e → e.posting.id = r.posting.id → k = i

/-- Where all rows have different identifiers, each of them is alone with its own. -/
theorem Table.IsAlone.of_nodup {t : Table} (apart : (t.rows.map (·.posting.id)).Nodup) (i : Nat) :
    t.IsAlone i := by
  intro r place k e place' same
  have within : k < (t.rows.map (·.posting.id)).length := by
    rw [List.length_map]
    exact (List.getElem?_eq_some_iff.mp place').1
  refine (List.getElem?_inj within apart).mp ?_
  rw [List.getElem?_map, List.getElem?_map, place, place', Option.map_some, Option.map_some, same]

namespace Office

/-- Some event of this identifier was accepted. -/
def Accepted (accepted : List Row) (id : Uuid) : Prop := ∃ a ∈ accepted, a.posting.id = id

/-- An event that counts as sent was accepted. -/
def SentOnce (accepted : List Row) (e : Row) : Prop :=
  e.status = .published → Accepted accepted e.posting.id

/-- An office in which the events of each aggregate go out one after the other. -/
structure IsOrdered (o : Office) : Prop where
  held : ∀ batch ∈ o.batches, ∀ row ∈ batch.2.rows,
    o.desk.table.Behind (fun _ => True) row.posting
  marking : ∀ batch ∈ o.batches, ∀ row rows report, batch.2 = .marking row rows report →
    row ∈ o.accepted
  sent : ∀ id ∈ o.desk.table.sent, Accepted o.accepted id
  behind : ∀ before row after, o.accepted = before ++ row :: after →
    o.desk.table.Behind (SentOnce before) row.posting

variable {o o' : Office} {e : Event} {c : Config} {b b' : Batch} {later : Desk} {doer : Nat}

/-- What was accepted stays accepted. -/
theorem Accepted.mono {accepted more : List Row} {id : Uuid} (old : Accepted accepted id) :
    Accepted (accepted ++ more) id := by
  obtain ⟨a, member, same⟩ := old
  exact ⟨a, List.mem_append_left _ member, same⟩

/-- Whatever a batch does, what it holds has nothing that waits in front of it. -/
theorem IsOrdered.moved (ordered : IsOrdered o) (under : o.batches[doer]? = some (c, b))
    (move : Move c o.desk later b b') :
    ∀ row ∈ b'.rows, later.table.Behind (fun _ => True) row.posting := by
  have held := ordered.held _ (List.mem_of_getElem? under)
  have follows := move.tables
  cases move with
  | claims claimed =>
    exact fun row member => follows.behind (Table.claim_behind claimed member)
  | sends | misses => exact fun row member => follows.behind (held row member)
  | marks | records =>
    exact fun row member => follows.behind (held row (List.mem_cons_of_mem _ member))
  | ends => exact fun row member => nomatch member

/-- What counts as sent after a call was accepted before it. -/
theorem IsOrdered.sent_moved (ordered : IsOrdered o) (under : o.batches[doer]? = some (c, b))
    (move : Move c o.desk later b b') : ∀ id ∈ later.table.sent, Accepted o.accepted id := by
  intro id member
  cases move with
  | claims claimed writes =>
    rw [writes.table] at member
    exact ordered.sent id (Table.sent_claim claimed member)
  | sends _ writes | misses _ writes =>
    rw [writes.table] at member
    exact ordered.sent id member
  | @marks row _ _ _ _ marked writes =>
    rw [writes.table] at member
    rcases Table.sent_markPublished marked member with rfl | old
    · exact ⟨row, ordered.marking _ (List.mem_of_getElem? under) _ _ _ rfl, rfl⟩
    · exact ordered.sent id old
  | records recorded writes =>
    rw [writes.table] at member
    exact ordered.sent id (Table.sent_recordFailure recorded member)
  | ends aside =>
    rw [aside.table] at member
    exact ordered.sent id member

/-- An event that is being marked was just accepted. -/
theorem marking_moved (move : Move c o.desk later b b') {row : Row} {rows : List Row}
    {report : Report} (marks : b' = .marking row rows report) :
    row ∈ (o.acted doer c b b' later).accepted := by
  rw [accepted_acted]
  cases move with
  | sends =>
    cases marks
    exact List.mem_append_right _ (List.mem_singleton_self _)
  | claims | misses | marks | records | ends => cases marks

/-- What the broker accepts is the first of the rows that a batch holds. -/
theorem held_of_accepted {d : Deed} {row : Row} (accepted : d.accepted? = some row) :
    row ∈ d.before.rows := by
  unfold Deed.accepted? at accepted
  split at accepted
  · next before _ =>
    rw [before, ← Option.some.inj accepted]
    exact List.mem_cons_self
  · cases accepted

theorem IsOrdered.acts (ordered : IsOrdered o) (under : o.batches[doer]? = some (c, b))
    (move : Move c o.desk later b b') : IsOrdered (o.acted doer c b b' later) := by
  have follows := move.tables
  have held := ordered.moved under move
  have sent := ordered.sent_moved under move
  refine ⟨fun batch member row own => ?_, fun batch member row rows report marks => ?_,
    fun id member => ?_, fun before row after parts => ?_⟩
  · rcases mem_batches_acted member with old | rfl
    · exact follows.behind (ordered.held batch old row own)
    · exact held row own
  · rcases mem_batches_acted member with old | rfl
    · rw [accepted_acted]
      exact List.mem_append_left _ (ordered.marking batch old row rows report marks)
    · exact marking_moved move marks
  · rw [accepted_acted]
    exact (sent id member).mono
  · rw [accepted_acted] at parts
    cases new : Deed.accepted? ⟨doer, b, b', o.desk, later⟩ with
    | none =>
      rw [new, Option.toList_none, List.append_nil] at parts
      exact follows.behind (ordered.behind before row after parts)
    | some first =>
      rw [new, Option.toList_some] at parts
      rcases parts_snoc parts with ⟨-, rfl, rfl⟩ | ⟨rest, -, parts⟩
      -- the row that was accepted just now
      · have own := ordered.held _ (List.mem_of_getElem? under) row (held_of_accepted new)
        refine follows.behind (own.imp fun e member _ published => ?_)
        exact ordered.sent _ (Table.mem_sent.mpr ⟨e, member, published, rfl⟩)
      · exact follows.behind (ordered.behind before row rest parts)

theorem IsOrdered.step (ordered : IsOrdered o) (step : Step o e o') : IsOrdered o' := by
  cases step with
  | posts p =>
    have follows := Table.follows_insert o.desk.table p o.desk.around.now
    refine ⟨fun batch member row own => follows.behind (ordered.held batch member row own),
      ordered.marking, fun id member => ordered.sent id ?_,
      fun before row after parts => follows.behind (ordered.behind before row after parts)⟩
    exact Table.sent_insert o.desk.table p _ ▸ member
  | begins c =>
    refine { ordered with
      held := fun batch member => ?_, marking := fun batch member row rows report marks => ?_ }
    · rcases List.mem_append.mp member with old | new
      · exact ordered.held batch old
      · rw [List.mem_singleton.mp new]
        exact fun row own => nomatch own
    · rcases List.mem_append.mp member with old | new
      · exact ordered.marking batch old row rows report marks
      · rw [List.mem_singleton.mp new] at marks
        cases marks
  | rests => exact ordered
  | acts under move => exact ordered.acts under move
  | weather w => exact { ordered with }

theorem opening_isOrdered (around : Surroundings) (broker : Broker) :
    IsOrdered (opening around broker) :=
  ⟨(fun _ member => nomatch member), (fun _ member => nomatch member),
    (fun _ member => nomatch member), fun before row after parts => by cases before <;> cases parts⟩

/-- Where in the log of the broker an event stands for the first time, counted from the beginning of
the run. -/
def firstAccepted? (o : Office) (id : Uuid) : Option Nat :=
  o.accepted.findIdx? fun r => r.posting.id = id

/-- What was accepted once was accepted for a first time. -/
theorem Accepted.first {accepted : List Row} {id : Uuid} (once : Accepted accepted id) :
    ∃ n, accepted.findIdx? (fun r => r.posting.id = id) = some n ∧
      ∃ r, accepted[n]? = some r ∧ r.posting.id = id := by
  obtain ⟨a, member, same⟩ := once
  cases found : accepted.findIdx? (fun r => r.posting.id = id) with
  | none =>
    have never := List.findIdx?_eq_none_iff.mp found a member
    exact absurd same (of_decide_eq_false never)
  | some n =>
    obtain ⟨below, named, -⟩ := List.findIdx?_eq_some_iff_getElem.mp found
    exact ⟨n, rfl, accepted[n], List.getElem?_eq_getElem below, of_decide_eq_true named⟩

/-- What was accepted early on was accepted for the first time then. -/
theorem Accepted.early {accepted : List Row} {id : Uuid} {n : Nat}
    (once : Accepted (accepted.take n) id) :
    ∃ m, accepted.findIdx? (fun r => r.posting.id = id) = some m ∧ m < n ∧
      ∃ r, accepted[m]? = some r ∧ r.posting.id = id := by
  obtain ⟨m, found, r, at_, named⟩ := once.first
  have below : m < n := by
    have within := (List.getElem?_eq_some_iff.mp at_).1
    exact Nat.lt_of_lt_of_le within (List.length_take_le n accepted)
  refine ⟨m, ?_, below, r, ?_, named⟩
  · rw [← List.take_append_drop n accepted, List.findIdx?_append, found, Option.some_or]
  · rwa [List.getElem?_take_of_lt below] at at_

/-- What the broker accepted was behind all that it accepted before. -/
theorem IsOrdered.behind_at (ordered : IsOrdered o) {n : Nat} {row : Row}
    (at_ : o.accepted[n]? = some row) :
    o.desk.table.Behind (SentOnce (o.accepted.take n)) row.posting := by
  obtain ⟨below, rfl⟩ := List.getElem?_eq_some_iff.mp at_
  refine ordered.behind _ _ (o.accepted.drop (n + 1)) ?_
  rw [List.getElem_cons_drop, List.take_append_drop]

/-- Whatever was accepted under the identifier of a row that has it alone is this row's event. -/
theorem IsOrdered.own (ordered : IsOrdered o) {n i : Nat} {row r : Row}
    (at_ : o.accepted[n]? = some row) (place : o.desk.table.rows[i]? = some r)
    (alone : o.desk.table.IsAlone i) (named : row.posting.id = r.posting.id) :
    row.posting = r.posting ∧ ∀ k < i, ∀ e, o.desk.table.rows[k]? = some e →
      e.posting.aggregateId = r.posting.aggregateId → SentOnce (o.accepted.take n) e := by
  obtain ⟨k, r', place', posting, front⟩ := ordered.behind_at at_
  have same : k = i := alone r place k r' place' (posting ▸ named)
  subst same
  cases place.symm.trans place'
  exact ⟨posting.symm, fun k before e earlier same => (front k before e earlier
    (posting ▸ same)).2⟩

/-- **The events of an aggregate go out in order.** The broker has got what the batches have sent.
Of two events of one aggregate that both count as sent, the one that was posted earlier was accepted
earlier for the first time, as long as the identifier of the other is its alone; and it was this
event that was accepted if its identifier is its alone as well. -/
theorem published_in_order (around : Surroundings) (broker : Broker) (events : List Event) :
    let o := (opening around broker).run events
    o.desk.broker.log = broker.log ++ o.accepted.map Row.message ∧
    ∀ (i j : Nat) (first second : Row), i < j →
      o.desk.table.rows[i]? = some first → o.desk.table.rows[j]? = some second →
      first.posting.aggregateId = second.posting.aggregateId →
      first.status = .published → second.status = .published → o.desk.table.IsAlone j →
      ∃ m n, o.firstAccepted? first.posting.id = some m ∧
        o.firstAccepted? second.posting.id = some n ∧ m < n ∧
        (o.accepted[n]?).map (·.posting) = some second.posting ∧
        (o.desk.table.IsAlone i → (o.accepted[m]?).map (·.posting) = some first.posting) := by
  intro o
  have ordered : IsOrdered o :=
    run_keeps (opening_isOrdered around broker) fun _ _ _ ordered step => ordered.step step
  have told : o.desk.broker.log = broker.log ++ o.accepted.map Row.message :=
    run_keeps (P := fun o => o.desk.broker.log = broker.log ++ o.accepted.map Row.message)
      (List.append_nil _).symm fun _ _ _ told step => log_step step told
  refine ⟨told, fun i j first second earlier place place' same published published' alone => ?_⟩
  have accepted := ordered.sent _ (Table.mem_sent.mpr ⟨second, List.mem_of_getElem? place',
    published', rfl⟩)
  obtain ⟨n, found, row, at_, named⟩ := accepted.first
  -- nobody else has the identifier, so it is this event that was accepted
  obtain ⟨own, front⟩ := ordered.own at_ place' alone named
  have once := front i earlier first place same published
  obtain ⟨m, found', before, row', at_', named'⟩ := once.early
  refine ⟨m, n, found', found, before, ?_, fun alone' => ?_⟩
  · rw [at_, Option.map_some, own]
  · rw [at_', Option.map_some, (ordered.own at_' place alone' named').1]

/-- Two events of one aggregate and three publishers, the first of which falls asleep over its claim
and sends its event for a second time. -/
theorem late_publisher :
    let c : Config := ⟨.zero, 10, 5, {}, .ofSeconds 30⟩
    let posting (n : Nat) : Posting := ⟨.ofNat n, "order", "", "orders.created", .nat n⟩
    let events : List Event :=
      [.post (posting 1), .post (posting 2), .begin c, .advance 0, .change { now := ⟨60000000000⟩ },
        .begin c, .advance 1, .advance 1, .advance 1, .advance 0, .begin c, .advance 2, .advance 2,
        .advance 2, .advance 0]
    let o := (opening { now := ⟨0⟩ } {}).run events
    o.accepted.map (fun r => r.posting.id) = [.ofNat 1, .ofNat 1, .ofNat 2] ∧
      ∃ first second, o.desk.table.rows = [first, second] ∧ first.status = .published ∧
        second.status = .published ∧ o.desk.table.IsAlone 0 ∧ o.desk.table.IsAlone 1 ∧
        ∃ m n, o.firstAccepted? first.posting.id = some m ∧
          o.firstAccepted? second.posting.id = some n ∧ m < n ∧
          (o.accepted[n]?).map (·.posting) = some second.posting ∧
          (o.accepted[m]?).map (·.posting) = some first.posting := by
  intro c posting events o
  have told : o.desk.table.rows.map (fun r => (r.posting.aggregateId, r.status)) =
      [("order", .published), ("order", .published)] := by decide +kernel
  obtain ⟨first, _, rows, one, two⟩ := List.map_eq_cons_iff.mp told
  obtain ⟨second, _, rfl, two, none⟩ := List.map_eq_cons_iff.mp two
  rw [List.map_eq_nil_iff.mp none] at rows
  obtain ⟨aggregate, published⟩ := Prod.mk.inj one
  obtain ⟨aggregate', published'⟩ := Prod.mk.inj two
  have place : o.desk.table.rows[0]? = some first := by rw [rows]; rfl
  have place' : o.desk.table.rows[1]? = some second := by rw [rows]; rfl
  have apart : (o.desk.table.rows.map (·.posting.id)).Nodup := by decide +kernel
  have alone : ∀ i, o.desk.table.IsAlone i := .of_nodup apart
  refine ⟨by decide +kernel, first, second, rows, published, published', alone 0, alone 1, ?_⟩
  have ordered := (published_in_order { now := ⟨0⟩ } {} events).2 0 1 first second Nat.zero_lt_one
  have same : o = (opening { now := ⟨0⟩ } {}).run events := rfl
  rw [← same] at ordered
  obtain ⟨m, n, found, found', before, own', own⟩ :=
    ordered place place' (aggregate.trans aggregate'.symm) published published' (alone 1)
  exact ⟨m, n, found, found', before, own', own (alone 0)⟩

/-- Two events of one aggregate, and one of another that has the identifier of the second. What is
said of the third one is taken for news of the second, which so counts as sent although the broker
never got it; and under its identifier something was accepted before the first event was. -/
theorem sent_for_its_namesake :
    let c : Config := ⟨.zero, 10, 5, {}, .ofSeconds 30⟩
    let posting (n : Nat) (aggregate : String) : Posting :=
      ⟨.ofNat n, aggregate, "", "orders.created", .nat n⟩
    let events : List Event :=
      [.post (posting 1 "order"), .post (posting 2 "order"), .post (posting 2 "other"),
        .change { now := ⟨0⟩, refusals := 1 }, .begin c, .advance 0, .advance 0, .advance 0,
        .advance 0, .advance 0, .change { now := ⟨60000000000⟩ }, .begin c, .advance 1, .advance 1,
        .advance 1]
    let o := (opening { now := ⟨0⟩ } {}).run events
    o.desk.table.rows.map (fun r => (r.posting.id, r.posting.aggregateId, r.status)) =
        [(.ofNat 1, "order", .published), (.ofNat 2, "order", .published),
          (.ofNat 2, "other", .pending)] ∧
      o.accepted.map (fun r => (r.posting.id, r.posting.aggregateId)) =
        [(.ofNat 2, "other"), (.ofNat 1, "order")] ∧
      o.firstAccepted? (.ofNat 1) = some 1 ∧ o.firstAccepted? (.ofNat 2) = some 0 := by
  decide +kernel

end Office

end OrderFlow.Outbox
