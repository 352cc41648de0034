import OrderFlow.Proofs.Outbox.Lifecycle
import OrderFlow.Proofs.Outbox.Log

/-!
How long a claim keeps others away. A claim runs out at the end of its lease, and it also ends when
somebody reports that its event was not sent. The table does not ask who reports, so a publisher
whose claim has run out ends the claim of the one that has got the event since. There is no other
way: before the end of a lease, another claim gets the event only if the holder has reported, or if
somebody who had claimed it earlier has, and then some report was late (`claimed_again_early`).
-/
namespace OrderFlow.Outbox

/-- What a batch holds, given the calls that were made: rows that it has claimed, each of another
event, on which it has not reported. -/
structure Holds (past : List Deed) (doer : Nat) (b : Batch) : Prop where
  owned : ∀ row ∈ b.rows, ∃ d ∈ past, d.doer = doer ∧ row ∈ d.claimed
  apart : (b.rows.map fun r => r.posting.id).Nodup
  fresh : ∀ row ∈ b.rows, ∀ d ∈ past, d.doer = doer → ¬ d.Misses row.posting.id
  idle : b = .claiming → ∀ d ∈ past, d.doer ≠ doer

/-- A claim is over on a row that is due. -/
theorem Row.over_of_due {r : Row} {now u : Instant} (due : r.isDue now = true)
    (lease : r.claimedUntil = some u) : u < now := by
  rw [Row.isDue, lease, Bool.and_eq_true] at due
  exact of_decide_eq_true due.2

variable {c : Config} {d d' : Desk} {b b' : Batch} {doer : Nat} {past : List Deed} {r : Row}

/-- What a call claims was waiting and due, and has the lease from now on. -/
theorem Move.of_claimed (move : Move c d d' b b')
    (claimed : r ∈ Deed.claimed ⟨doer, b, b', d, d'⟩) :
    b = .claiming ∧ r ∈ d'.table.rows ∧
      ∃ e ∈ d.table.rows, e.isPending = true ∧ e.isDue d.around.now = true ∧
        r = { e with claimedUntil := some (d.around.now.after c.claimLease) } := by
  cases move with
  | claims claim writes =>
    cases claim
    rw [writes.table]
    exact ⟨rfl, (Table.claimFrom_sublist _ _ _ _ _).subset claimed, Table.claimFrom_due claimed⟩
  | sends | misses | marks | records => cases claimed
  | ends => cases b <;> cases claimed

/-- A row that waits after a call is as it was before, or was claimed, or the call reports that its
event was not sent. -/
theorem Move.waiting (move : Move c d d' b b') (doer : Nat) (member : r ∈ d'.table.rows)
    (pending : r.isPending = true) :
    r ∈ d.table.rows ∨
      (∃ e ∈ d.table.rows, e.isPending = true ∧ e.isDue d.around.now = true ∧
        r = { e with claimedUntil := some (d.around.now.after c.claimLease) }) ∨
      Deed.Misses ⟨doer, b, b', d, d'⟩ r.posting.id := by
  cases move with
  | claims claim writes =>
    cases claim
    rw [writes.table] at member
    exact (Table.mem_or_claimed member).imp_right fun claimed => .inl (Table.claimFrom_due claimed)
  | sends _ writes | misses _ writes =>
    rw [writes.table] at member
    exact .inl member
  | marks marked writes =>
    rw [writes.table, Table.markPublished_ok marked] at member
    rcases Table.mem_change member with old | ⟨r', old, -, rfl⟩
    · exact .inl old
    -- what was marked no longer waits
    · unfold Table.Row.sent at pending ⊢
      split at pending
      · cases pending
      · next settled => exact absurd pending settled
  | records recorded writes =>
    rw [writes.table, Table.recordFailure_ok recorded] at member
    rcases Table.mem_change member with old | ⟨r', old, same, rfl⟩
    · exact .inl old
    · rw [(Row.Becomes.missed _ _ _ _ r').posting, same]
      exact .inr (.inr rfl)
  | ends aside =>
    rw [aside.table] at member
    exact .inl member

namespace Holds

/-- A batch that has just begun. -/
theorem of_idle (idle : ∀ d ∈ past, d.doer ≠ doer) : Holds past doer .claiming where
  owned := by
    intro row held
    cases held
  apart := .nil
  fresh := by
    intro row held
    cases held
  idle := fun _ => idle

/-- A batch after a call: it has lost some of its rows at most, and not reported on the others. -/
theorem snoc {d : Deed} (holds : Holds past doer b) (fewer : b'.rows.Sublist b.rows)
    (unreported : d.doer = doer → ∀ row ∈ b'.rows, ¬ d.Misses row.posting.id)
    (idle : b' = .claiming → b = .claiming ∧ d.doer ≠ doer) : Holds (past ++ [d]) doer b' where
  owned := by
    intro row held
    obtain ⟨z, member, rest⟩ := holds.owned row (fewer.subset held)
    exact ⟨z, List.mem_append_left _ member, rest⟩
  apart := holds.apart.sublist (fewer.map _)
  fresh := by
    intro row held d' member own
    rcases List.mem_append.mp member with old | new
    · exact holds.fresh row (fewer.subset held) d' old own
    · cases List.mem_singleton.mp new
      exact unreported own row held
  idle := by
    intro claiming d' member
    obtain ⟨before, other⟩ := idle claiming
    rcases List.mem_append.mp member with old | new
    · exact holds.idle before d' old
    · cases List.mem_singleton.mp new
      exact other

/-- The calls of others change nothing. -/
theorem other {d : Deed} (holds : Holds past doer b) (other : d.doer ≠ doer) :
    Holds (past ++ [d]) doer b :=
  holds.snoc (.refl _) (fun own => absurd own other) fun claiming => ⟨claiming, other⟩

/-- What a batch holds after a call of its own, as long as no two rows are of the same event. -/
theorem acts (holds : Holds past doer b) (move : Move c d d' b b')
    (distinct : (d'.table.postings.map (·.id)).Nodup) :
    Holds (past ++ [⟨doer, b, b', d, d'⟩]) doer b' := by
  cases move with
  | @claims rows table report claim writes =>
    refine ⟨fun row held => ?_, ?_, fun row held d' member own => ?_, fun claiming => ?_⟩
    · exact ⟨_, List.mem_append_right _ (List.mem_singleton_self _), rfl, held⟩
    · cases claim
      rw [writes.table, Table.postings, List.map_map] at distinct
      exact distinct.sublist ((Table.claimFrom_sublist _ _ _ _ _).map _)
    · rcases List.mem_append.mp member with old | new
      · exact absurd own (holds.idle rfl d' old)
      · cases List.mem_singleton.mp new
        exact Deed.not_misses rfl
    · cases claiming
  | sends | misses =>
    refine holds.snoc (.refl _) (fun _ _ _ => Deed.not_misses rfl) fun claiming => ?_
    cases claiming
  | marks =>
    refine holds.snoc (List.sublist_cons_self _ _) (fun _ _ _ => Deed.not_misses rfl)
      fun claiming => ?_
    cases claiming
  | @records row e rows =>
    obtain ⟨new, -⟩ := List.nodup_cons.mp holds.apart
    refine holds.snoc (List.sublist_cons_self _ _) (fun _ row' held misses => new ?_)
      fun claiming => ?_
    · exact List.mem_map.mpr ⟨row', held, (Option.some.inj misses).symm⟩
    · cases claiming
  | ends =>
    refine holds.snoc (List.nil_sublist _) (fun _ row held => ?_) fun claiming => ?_
    · cases held
    · cases claiming

end Holds

namespace Office

/-- The time that an event sets. -/
def Event.now? : Event → Option Instant
  | .change w => some w.now
  | _ => none

/-- Nobody gets a row of the table before its lease is over, if nobody has reported on it since it
was claimed. -/
def Lasting (past : List Deed) (t : Table) : Prop :=
  ∀ before first after, past = before ++ first :: after → ∀ r ∈ first.claimed,
    (∀ d ∈ after, ¬ d.Misses r.posting.id) → ∀ u, r.claimedUntil = some u →
    ∀ e ∈ t.rows, e.posting.id = r.posting.id → e.isPending = true →
      ∃ v, e.claimedUntil = some v ∧ u ≤ v

/-- An office in which the leases are kept as far as they go. -/
structure IsLeased (o : Office) : Prop where
  log : IsLog o.past
  dated : ∀ d ∈ o.past, d.time ≤ o.desk.around.now
  terms : ∀ d ∈ o.past, ∃ c b, o.batches[d.doer]? = some (c, b) ∧
    ∀ r ∈ d.claimed, r.claimedUntil = some (d.time.after c.claimLease)
  posted : ∀ d ∈ o.past, ∀ r ∈ d.claimed, r.posting ∈ o.desk.table.postings
  holds : ∀ doer c b, o.batches[doer]? = some (c, b) → Holds o.past doer b
  lasting : Lasting o.past o.desk.table

variable {o o' : Office} {e : Event} {later : Desk}

theorem opening_isLeased (around : Surroundings) (broker : Broker) :
    IsLeased (opening around broker) := by
  have empty {before after : List Deed} {d : Deed} : [] ≠ before ++ d :: after := by
    intro parts
    cases before <;> cases parts
  refine ⟨⟨.nil, ?_, ?_, .nil, ?_⟩, ?_, ?_, ?_, ?_, ?_⟩
  · intro d member
    cases member
  · intro before d after parts
    exact absurd parts empty
  · intro before first between second after parts
    exact absurd parts empty
  · intro d member
    cases member
  · intro d member
    cases member
  · intro d member
    cases member
  · intro doer c b under
    cases under
  · intro before first after parts
    exact absurd parts empty

/-- What is reported on is a row that the batch holds. -/
theorem held_of_missed {d : Deed} (missed : d.missed? = some r) : r ∈ d.before.rows := by
  unfold Deed.missed? at missed
  split at missed
  · next before _ =>
    rw [before, ← Option.some.inj missed]
    exact List.mem_cons_self
  · cases missed

theorem getElem?_acted {n : Nat} (under : o.batches[doer]? = some (c, b)) :
    (o.acted doer c b b' later).batches[n]? =
      if n = doer then some (c, b') else o.batches[n]? := by
  obtain ⟨below, -⟩ := List.getElem?_eq_some_iff.mp under
  show (o.batches.set doer (c, b'))[n]? = _
  rw [List.getElem?_set]
  by_cases same : doer = n
  · subst same
    simp [below]
  · rw [if_neg same, if_neg (Ne.symm same)]

/-- A row is claimed again only when the lease is over, if nobody has reported on it. -/
theorem IsLeased.relet (leased : IsLeased o) (move : Move c o.desk later b b')
    {before between : List Deed} {first : Deed} (parts : o.past = before ++ first :: between)
    (held : r ∈ first.claimed) (claims : Deed.Claims ⟨doer, b, b', o.desk, later⟩ r.posting.id)
    (quiet : ∀ d ∈ between, ¬ d.Misses r.posting.id) {u : Instant}
    (lease : r.claimedUntil = some u) : u < o.desk.around.now := by
  obtain ⟨row, claimed, same⟩ := claims
  obtain ⟨-, -, e, member, pending, due, rfl⟩ := move.of_claimed claimed
  obtain ⟨v, lease', longer⟩ :=
    leased.lasting before first between parts r held quiet u lease e member same pending
  exact Int.lt_of_le_of_lt longer (Row.over_of_due due lease')

theorem IsLeased.log_acted (leased : IsLeased o) (under : o.batches[doer]? = some (c, b))
    (move : Move c o.desk later b b') : IsLog (o.past ++ [⟨doer, b, b', o.desk, later⟩]) := by
  have holds := leased.holds doer c b under
  refine leased.log.snoc leased.dated (fun row claimed => ?_)
    (fun row missed => holds.owned row (held_of_missed missed)) ?_
    fun _ _ _ parts _ held claims quiet _ lease => leased.relet move parts held claims quiet lease
  · obtain ⟨-, -, e, -, -, -, rfl⟩ := move.of_claimed claimed
    exact ⟨_, rfl⟩
  · intro d member own id misses again
    obtain ⟨row, missed, rfl⟩ := Deed.misses_iff.mp again
    exact holds.fresh row (held_of_missed missed) d member own misses

theorem IsLeased.lasting_acted (leased : IsLeased o) (move : Move c o.desk later b b')
    (distinct : (later.table.postings.map (·.id)).Nodup) :
    Lasting (o.past ++ [⟨doer, b, b', o.desk, later⟩]) later.table := by
  intro before first after within r held quiet u lease e member same pending
  rcases parts_snoc within with ⟨-, rfl, -⟩ | ⟨after', rfl, parts⟩
  -- the row that was claimed just now
  · obtain ⟨-, there, -⟩ := move.of_claimed held
    rw [Table.postings, List.map_map] at distinct
    cases List.inj_on_of_nodup_map distinct member there same
    exact ⟨u, lease, Int.le_refl _⟩
  · have lasting := leased.lasting before first after' parts r held
      (fun d member => quiet d (List.mem_append_left _ member)) u lease
    rcases move.waiting doer member pending with old | ⟨e', old, pending', due, rfl⟩ | misses
    · exact lasting e old same pending
    -- it was claimed again, so the lease before was over
    · obtain ⟨v, lease', longer⟩ := lasting e' old same pending'
      have longer : u.nanos ≤ v.nanos := longer
      have ended : v.nanos < o.desk.around.now.nanos := Row.over_of_due due lease'
      refine ⟨_, rfl, ?_⟩
      show u.nanos ≤ o.desk.around.now.nanos + c.claimLease.nanos
      omega
    · exact absurd (same ▸ misses) (quiet _ (List.mem_append_right _ (List.mem_singleton_self _)))

theorem IsLeased.acts (leased : IsLeased o) (under : o.batches[doer]? = some (c, b))
    (move : Move c o.desk later b b') (distinct : (later.table.postings.map (·.id)).Nodup) :
    IsLeased (o.acted doer c b b' later) := by
  have still : later.around.now = o.desk.around.now := move.follows.now
  refine ⟨leased.log_acted under move, fun d member => ?_, fun d member => ?_,
    fun d member r claimed => ?_, fun n c' b'' under' => ?_,
    leased.lasting_acted move distinct⟩
  · show d.time ≤ later.around.now
    rw [still]
    rcases List.mem_append.mp member with old | new
    · exact leased.dated d old
    · cases List.mem_singleton.mp new
      exact Int.le_refl _
  · rw [getElem?_acted under]
    rcases List.mem_append.mp member with old | new
    · obtain ⟨c', b'', under', lease⟩ := leased.terms d old
      by_cases own : d.doer = doer
      · rw [own, under] at under'
        cases under'
        exact ⟨c, b', if_pos own, lease⟩
      · exact ⟨c', b'', (if_neg own).trans under', lease⟩
    · cases List.mem_singleton.mp new
      refine ⟨c, b', if_pos rfl, fun r claimed => ?_⟩
      obtain ⟨-, -, e, -, -, -, rfl⟩ := move.of_claimed claimed
      rfl
  · rcases List.mem_append.mp member with old | new
    · have posted := leased.posted d old r claimed
      rwa [← move.postings] at posted
    · cases List.mem_singleton.mp new
      obtain ⟨-, there, -⟩ := move.of_claimed claimed
      exact List.mem_map_of_mem there
  · rw [getElem?_acted under] at under'
    split at under'
    · next own =>
      cases under'
      exact own ▸ (leased.holds doer c b under).acts move distinct
    · next other => exact (leased.holds n c' b'' under').other (Ne.symm other)

theorem IsLeased.posts (leased : IsLeased o) (p : Posting)
    (distinct : ((o.desk.table.insert p o.desk.around.now).postings.map (·.id)).Nodup) :
    IsLeased { o with desk.table := o.desk.table.insert p o.desk.around.now } := by
  rw [Table.postings_insert, List.map_append] at distinct
  refine { leased with posted := fun d member r claimed => ?_, lasting := ?_ }
  · rw [Table.postings_insert]
    exact List.mem_append_left _ (leased.posted d member r claimed)
  · intro before first after parts r held quiet u lease e member same pending
    rcases List.mem_append.mp member with old | new
    · exact leased.lasting before first after parts r held quiet u lease e old same pending
    -- the new row is of an event of its own
    · cases List.mem_singleton.mp new
      have within : o.past = before ++ first :: after := parts
      have posted := leased.posted first (by simp [within]) r held
      have apart := (List.nodup_append.mp distinct).2.2 r.posting.id (List.mem_map_of_mem posted)
        p.id (List.mem_singleton_self _)
      exact absurd same.symm apart

theorem IsLeased.begins (leased : IsLeased o) (c : Config) :
    IsLeased { o with batches := o.batches ++ [(c, .claiming)] } := by
  have begun {d : Deed} (member : d ∈ o.past) : d.doer < o.batches.length := by
    obtain ⟨c', b', under, -⟩ := leased.terms d member
    exact (List.getElem?_eq_some_iff.mp under).1
  refine { leased with terms := fun d member => ?_, holds := fun n c' b' under => ?_ }
  · rw [List.getElem?_append_left (begun member)]
    exact leased.terms d member
  · rw [List.getElem?_append] at under
    split at under
    · exact leased.holds n c' b' under
    · next new =>
      obtain ⟨last, same⟩ := List.getElem?_eq_some_iff.mp under
      rw [List.getElem_singleton] at same
      cases same
      refine .of_idle fun d member own => ?_
      have below := begun member
      omega

theorem IsLeased.step (leased : IsLeased o) (steady : ∀ now, e.now? = some now →
    o.desk.around.now ≤ now) (step : Step o e o')
    (distinct : (o'.desk.table.postings.map (·.id)).Nodup) : IsLeased o' := by
  cases step with
  | posts p => exact leased.posts p distinct
  | begins c => exact leased.begins c
  | rests => exact leased
  | acts under move => exact leased.acts under move distinct
  | weather w =>
    refine { leased with dated := fun d member => ?_ }
    exact Int.le_trans (leased.dated d member) (steady w.now rfl)

theorem Step.now (step : Step o e o') : o'.desk.around.now = e.now?.getD o.desk.around.now := by
  cases step with
  | posts | begins | rests | weather => rfl
  | acts _ move => exact move.follows.now

/-- What every step keeps that does not set the clock back holds after every run in which nobody
does. -/
theorem run_keeps_steady {P : Office → Prop} {events : List Event} (holds : P o)
    (steady : (o.desk.around.now :: events.filterMap Event.now?).Pairwise (· ≤ ·))
    (keeps : ∀ o e o', (∀ now, e.now? = some now → o.desk.around.now ≤ now) → P o → Step o e o' →
      P o') : P (o.run events) := by
  induction events generalizing o with
  | nil => exact holds
  | cons e events ih =>
    have step := step_cases o e
    have now := step.now
    rw [List.filterMap_cons] at steady
    cases sets : e.now? with
    | none =>
      rw [sets] at steady now
      refine ih (keeps o e _ (fun _ some => ?_) holds step) (now ▸ steady)
      rw [sets] at some
      cases some
    | some t =>
      rw [sets] at steady now
      obtain ⟨first, rest⟩ := List.pairwise_cons.mp steady
      refine ih (keeps o e _ (fun _ some => ?_) holds step) (now ▸ rest)
      rw [sets] at some
      cases some
      exact first t List.mem_cons_self

/-- **How far leases go.** As long as nobody sets the clock back and no identifier is posted twice,
every claim has the lease of its publisher. If an event is claimed again before the lease is over,
then the holder has reported in between that the event was not sent, or somebody has who had claimed
it earlier; in the second case some report up to there came in when the lease of its reporter was
over. So where no report is late, a lease keeps everybody away until its holder has reported. -/
theorem claimed_again_early (around : Surroundings) (broker : Broker) (events : List Event)
    (steady : (around.now :: events.filterMap Event.now?).Pairwise (· ≤ ·))
    (distinct : ((events.filterMap Event.posting?).map (·.id)).Nodup) :
    let o := (opening around broker).run events
    (∀ d ∈ o.past, ∃ c b, o.batches[d.doer]? = some (c, b) ∧
      ∀ r ∈ d.claimed, r.claimedUntil = some (d.time.after c.claimLease)) ∧
    ∀ before first between second after,
      o.past = before ++ first :: (between ++ second :: after) →
      ∀ r ∈ first.claimed, ∀ u, r.claimedUntil = some u →
      second.Claims r.posting.id → second.time ≤ u →
      (∃ d ∈ between, d.doer = first.doer ∧ d.Misses r.posting.id) ∨
      (∃ d ∈ between, d.Misses r.posting.id ∧
        ∃ former ∈ before, former.doer = d.doer ∧ former.Claims r.posting.id) ∧
      ∃ d ∈ before ++ first :: between, d.MissesLate r.posting.id := by
  intro o
  have kept : (o.desk.table.postings.map (·.id)).Nodup → IsLeased o := by
    refine run_keeps_steady (P := fun o => (o.desk.table.postings.map (·.id)).Nodup → IsLeased o)
      (fun _ => opening_isLeased around broker) steady fun o e o' steady leased step distinct => ?_
    refine (leased ?_).step steady step distinct
    rw [step.postings, List.map_append] at distinct
    exact (List.nodup_append.mp distinct).1
  have posted : o.desk.table.postings = events.filterMap Event.posting? :=
    (run_postings (opening around broker) events).trans (List.nil_append _)
  have leased := kept (posted ▸ distinct)
  exact ⟨leased.terms, fun _ _ _ _ _ parts r held u lease claims early =>
    leased.log.early parts held claims lease early⟩

/-- The row that a call has claimed, told by what it shows. -/
theorem claimed_of_shown {d : Deed} {id : Uuid} {u : Instant}
    (shown : d.claimed.map (fun r => (r.posting.id, r.claimedUntil)) = [(id, some u)]) :
    ∃ r ∈ d.claimed, r.posting.id = id ∧ r.claimedUntil = some u := by
  have member : (id, some u) ∈ d.claimed.map fun r => (r.posting.id, r.claimedUntil) :=
    shown ▸ List.mem_singleton_self _
  obtain ⟨r, held, same⟩ := List.mem_map.mp member
  exact ⟨r, held, congrArg Prod.fst same, congrArg Prod.snd same⟩

/-- The broker refuses an event, the holder reports it, and another publisher claims the event long
before the end of the first lease. -/
theorem own_report_ends_lease :
    let c : Config := ⟨.zero, 10, 5, {}, .ofSeconds 30⟩
    let posting : Posting := ⟨.ofNat 1, "order", "", "orders.created", .nat 1⟩
    let events : List Event :=
      [.post posting, .begin c, .advance 0,
        .change { now := ⟨1000000000⟩, brokerAvailable := false }, .advance 0, .advance 0,
        .change { now := ⟨10000000000⟩ }, .begin c, .advance 1]
    let o := (opening { now := ⟨0⟩ } {}).run events
    ∃ claim send report again, o.past = [claim, send, report, again] ∧
      (∃ r ∈ claim.claimed, r.posting.id = .ofNat 1 ∧ r.claimedUntil = some ⟨30000000000⟩) ∧
      again.Claims (.ofNat 1) ∧ again.time = ⟨10000000000⟩ ∧
      ∃ d ∈ [send, report], d.doer = claim.doer ∧ d.Misses (.ofNat 1) := by
  intro c posting events o
  have told : o.past.map (fun d => (d.time, d.claimed.map fun r =>
        (r.posting.id, r.claimedUntil))) =
      [(⟨0⟩, [(.ofNat 1, some ⟨30000000000⟩)]), (⟨1000000000⟩, []), (⟨1000000000⟩, []),
        (⟨10000000000⟩, [(.ofNat 1, some ⟨40000000000⟩)])] := by decide +kernel
  obtain ⟨claim, _, past, shown, rest⟩ := List.map_eq_cons_iff.mp told
  obtain ⟨send, _, rfl, -, rest⟩ := List.map_eq_cons_iff.mp rest
  obtain ⟨report, _, rfl, -, rest⟩ := List.map_eq_cons_iff.mp rest
  obtain ⟨again, _, rfl, shown', rest⟩ := List.map_eq_cons_iff.mp rest
  rw [List.map_eq_nil_iff.mp rest] at past
  obtain ⟨r, held, id, lease⟩ := claimed_of_shown (congrArg Prod.snd shown)
  obtain ⟨r', held', id', -⟩ := claimed_of_shown (congrArg Prod.snd shown')
  have time : again.time = ⟨10000000000⟩ := congrArg Prod.fst shown'
  have claims : again.Claims r.posting.id := ⟨r', held', id'.trans id.symm⟩
  have early : again.time ≤ ⟨30000000000⟩ := by rw [time]; decide
  have same : o = (opening { now := ⟨0⟩ } {}).run events := rfl
  have leases := (claimed_again_early { now := ⟨0⟩ } {} events (by decide +kernel)
    (by decide +kernel)).2
  rw [← same] at leases
  rcases leases [] claim [send, report] again [] past r held _ lease claims early with
    own | ⟨⟨_, _, _, former⟩, _⟩
  · exact ⟨claim, send, report, again, past, ⟨r, held, id, lease⟩, id ▸ claims, time, id ▸ own⟩
  · obtain ⟨_, none, -⟩ := former
    cases none

/-- A publisher claims an event from the 60th second to the 90th and has not reported when another
one claims it in the 70th: one whose lease was over at the 30th second has reported since that the
event was not sent. -/
theorem freed_by_late_report :
    let c : Config := ⟨.zero, 10, 5, {}, .ofSeconds 30⟩
    let posting : Posting := ⟨.ofNat 1, "order", "", "orders.created", .nat 1⟩
    let events : List Event :=
      [.post posting, .begin c, .advance 0,
        .change { now := ⟨60000000000⟩, brokerAvailable := false }, .begin c, .advance 1,
        .advance 0, .advance 0, .change { now := ⟨70000000000⟩ }, .begin c, .advance 2]
    let o := (opening { now := ⟨0⟩ } {}).run events
    ∃ former claim send report again, o.past = [former, claim, send, report, again] ∧
      (∃ r ∈ claim.claimed, r.posting.id = .ofNat 1 ∧ r.claimedUntil = some ⟨90000000000⟩) ∧
      again.Claims (.ofNat 1) ∧ again.time = ⟨70000000000⟩ ∧
      claim.doer = 1 ∧ send.doer = 0 ∧ report.doer = 0 ∧ again.doer = 2 := by
  intro c posting events o
  have told : o.past.map (fun d => (d.doer, d.time, d.claimed.map fun r =>
        (r.posting.id, r.claimedUntil))) =
      [(0, ⟨0⟩, [(.ofNat 1, some ⟨30000000000⟩)]),
        (1, ⟨60000000000⟩, [(.ofNat 1, some ⟨90000000000⟩)]), (0, ⟨60000000000⟩, []),
        (0, ⟨60000000000⟩, []),
        (2, ⟨70000000000⟩, [(.ofNat 1, some ⟨100000000000⟩)])] := by decide +kernel
  obtain ⟨former, _, past, -, rest⟩ := List.map_eq_cons_iff.mp told
  obtain ⟨claim, _, rfl, shown, rest⟩ := List.map_eq_cons_iff.mp rest
  obtain ⟨send, _, rfl, sent, rest⟩ := List.map_eq_cons_iff.mp rest
  obtain ⟨report, _, rfl, reported, rest⟩ := List.map_eq_cons_iff.mp rest
  obtain ⟨again, _, rfl, shown', rest⟩ := List.map_eq_cons_iff.mp rest
  rw [List.map_eq_nil_iff.mp rest] at past
  obtain ⟨r', held', id', -⟩ := claimed_of_shown (congrArg (·.2.2) shown')
  exact ⟨former, claim, send, report, again, past, claimed_of_shown (congrArg (·.2.2) shown),
    ⟨r', held', id'⟩, congrArg (·.2.1) shown', congrArg Prod.fst shown, congrArg Prod.fst sent,
    congrArg Prod.fst reported, congrArg Prod.fst shown'⟩

end Office

end OrderFlow.Outbox
