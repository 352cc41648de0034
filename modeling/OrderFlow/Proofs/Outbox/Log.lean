import OrderFlow.Proofs.Outbox.Office

/-!
The log of an office: which calls have claimed an event and which have reported that it was not
sent. Between two claims of one event, the second before the lease of the first is over, somebody
has reported. If it was not the first holder, it was somebody who had claimed the event before, and
then some report up to there came in when the lease of its reporter was over (`IsLog.early`).
-/
namespace OrderFlow.Outbox

namespace Deed

/-- When the call was made. -/
def time (d : Deed) : Instant := d.earlier.around.now

/-- The rows that the call has claimed. -/
def claimed (d : Deed) : List Row :=
  match d.before, d.after with
  | .claiming, .sending rows _ => rows
  | _, _ => []

/-- The row, as it was claimed, on which the call has reported that it was not sent. -/
def missed? (d : Deed) : Option Row :=
  match d.before, d.after with
  | .missing row _ _ _, .sending _ _ => some row
  | _, _ => none

/-- The call claims the event. -/
def Claims (d : Deed) (id : Uuid) : Prop := ∃ row ∈ d.claimed, row.posting.id = id

/-- The call reports that the event was not sent. -/
def Misses (d : Deed) (id : Uuid) : Prop := d.missed?.map (·.posting.id) = some id

instance (d : Deed) (id : Uuid) : Decidable (d.Misses id) :=
  inferInstanceAs (Decidable (_ = _))

/-- The call reports so when the lease of the reporter is over. -/
def MissesLate (d : Deed) (id : Uuid) : Prop :=
  ∃ row u, d.missed? = some row ∧ row.posting.id = id ∧ row.claimedUntil = some u ∧ u < d.time

variable {d : Deed} {id : Uuid} {row : Row}

theorem misses_iff : d.Misses id ↔ ∃ row, d.missed? = some row ∧ row.posting.id = id :=
  Option.map_eq_some_iff

theorem not_misses (silent : d.missed? = none) : ¬ d.Misses id := by
  rw [Misses, silent]
  intro misses
  cases misses

end Deed

/-- A log of calls: time goes on, every claim has a lease, whoever reports has claimed the event
before and reports once, and no claim is followed by another one before the end of its lease without
a report in between. -/
structure IsLog (past : List Deed) : Prop where
  timed : past.Pairwise fun d d' => d.time ≤ d'.time
  leased : ∀ d ∈ past, ∀ r ∈ d.claimed, ∃ u, r.claimedUntil = some u
  owed : ∀ before d after, past = before ++ d :: after → ∀ row, d.missed? = some row →
    ∃ z ∈ before, z.doer = d.doer ∧ row ∈ z.claimed
  once : past.Pairwise fun d d' => d.doer = d'.doer → ∀ id, d.Misses id → ¬ d'.Misses id
  relet : ∀ before first between second after,
    past = before ++ first :: (between ++ second :: after) →
    ∀ r ∈ first.claimed, second.Claims r.posting.id → (∀ d ∈ between, ¬ d.Misses r.posting.id) →
    ∀ u, r.claimedUntil = some u → u < second.time

/-- What holds between an element of a list and one behind it. -/
theorem related_of_parts {α : Type} {R : α → α → Prop} {l before rest : List α} {x y : α}
    (related : l.Pairwise R) (parts : l = before ++ x :: rest) (member : y ∈ rest) : R x y := by
  subst parts
  exact (List.pairwise_cons.mp (List.pairwise_append.mp related).2.1).1 y member

theorem related_snoc {α : Type} {R : α → α → Prop} {l : List α} {last : α} (related : l.Pairwise R)
    (new : ∀ x ∈ l, R x last) : (l ++ [last]).Pairwise R := by
  refine List.pairwise_append.mpr ⟨related, List.pairwise_singleton _ _, fun x member y end_ => ?_⟩
  cases List.mem_singleton.mp end_
  exact new x member

namespace IsLog
variable {past before between after : List Deed} {first second d : Deed} {r : Row} {id : Uuid}

theorem in_order (log : IsLog past) (parts : past = before ++ first :: after) (later : d ∈ after) :
    first.time ≤ d.time := by
  have ordered := related_of_parts log.timed parts later
  exact ordered

/-- Either nobody reports that the event was not sent, or there is a first report. -/
theorem quiet_or_first (between : List Deed) (id : Uuid) :
    (∀ d ∈ between, ¬ d.Misses id) ∨
      ∃ quiet d rest, between = quiet ++ d :: rest ∧ d.Misses id ∧
        ∀ d' ∈ quiet, ¬ d'.Misses id := by
  cases found : between.find? fun d => d.Misses id with
  | none =>
    have none := List.find?_eq_none.mp found
    exact .inl fun d member misses => none d member (decide_eq_true misses)
  | some d =>
    obtain ⟨misses, quiet, rest, parts, others⟩ := List.find?_eq_some_iff_append.mp found
    refine .inr ⟨quiet, d, rest, parts, of_decide_eq_true misses, fun d' member misses' => ?_⟩
    have not := others d' member
    rw [decide_eq_true misses'] at not
    cases not

/-- Once the event was claimed again, without a report, the first lease is over. -/
theorem over_after (log : IsLog past) {quiet rest : List Deed} {z : Deed} {u : Instant}
    (parts : past = before ++ first :: (quiet ++ rest)) (held : r ∈ first.claimed)
    (none : ∀ d ∈ quiet, ¬ d.Misses r.posting.id) (again : z ∈ quiet)
    (claims : z.Claims r.posting.id) (lease : r.claimedUntil = some u) (later : d ∈ rest) :
    u < d.time := by
  obtain ⟨front, tail, rfl⟩ := List.append_of_mem again
  have next : past = before ++ first :: (front ++ z :: (tail ++ rest)) := by
    rw [parts, List.append_assoc, List.cons_append]
  have upTo : past = (before ++ first :: front) ++ z :: (tail ++ rest) := by
    rw [next, List.append_assoc, List.cons_append]
  have ended := log.relet _ first front z _ next r held claims
    (fun d' member => none d' (List.mem_append_left _ member)) u lease
  have after_ : z.time ≤ d.time := log.in_order upTo (List.mem_append_right _ later)
  exact Int.lt_of_lt_of_le ended after_

/-- **Where an earlier holder reports, some report is late**: its own, or that of somebody by whom
it has got the event before the time. -/
theorem late (log : IsLog past) {row : Row} {z : Deed}
    (parts : past = before ++ first :: (between ++ d :: after))
    (claims : first.Claims row.posting.id) (reports : d.missed? = some row) (earlier : z ∈ before)
    (own : z.doer = d.doer) (held : row ∈ z.claimed) :
    (∃ d' ∈ before ++ first :: between, d'.MissesLate row.posting.id) ∨
      d.MissesLate row.posting.id := by
  induction size : before.length using Nat.strongRecOn
    generalizing before first between d after row z with
  | ind n ih =>
    obtain ⟨front, rest, rfl⟩ := List.append_of_mem earlier
    have inner : past = front ++ z :: (rest ++ first :: (between ++ d :: after)) := by
      rw [parts, List.append_assoc, List.cons_append]
    obtain ⟨u, lease⟩ := log.leased z (by simp [inner]) row held
    have ends_late (ended : u < d.time) : d.MissesLate row.posting.id :=
      ⟨row, u, reports, rfl, lease, ended⟩
    rcases quiet_or_first rest row.posting.id with quiet | ⟨quiet, m, rest', rfl, misses, none⟩
    -- the lease of the earlier holder was over when the event was claimed again
    · have ended := log.relet front z rest first _ inner row held claims quiet u lease
      have later : first.time ≤ d.time := log.in_order parts (by simp)
      exact .inr (ends_late (Int.lt_of_lt_of_le ended later))
    obtain ⟨row', reports', same⟩ := Deed.misses_iff.mp misses
    rw [List.append_assoc, List.cons_append] at inner
    have upTo : past = (front ++ z :: quiet) ++
        m :: (rest' ++ first :: (between ++ d :: after)) := by
      rw [inner, List.append_assoc, List.cons_append]
    obtain ⟨z', member, own', held'⟩ := log.owed _ m _ upTo row' reports'
    rcases List.mem_append.mp member with former | next
    -- the earlier holder has got the event by a report of somebody who had claimed it still earlier
    · have shorter : front.length < n := by simp at size; omega
      rw [← same]
      have claims' : z.Claims row'.posting.id := ⟨row, held, same.symm⟩
      rcases ih front.length shorter inner claims' reports' former own' held' rfl with
        ⟨d', among, late⟩ | late
      · refine .inl ⟨d', ?_, late⟩
        rw [← List.cons_append, ← List.append_assoc, List.append_assoc]
        exact List.mem_append_left _ among
      · exact .inl ⟨m, by simp, late⟩
    rcases List.mem_cons.mp next with rfl | again
    -- it would have reported twice
    · have twice := related_of_parts log.once upTo (y := d) (by simp)
      exact absurd (Deed.misses_iff.mpr ⟨row, reports, rfl⟩) (twice (own'.symm.trans own) _ misses)
    -- its lease was over when the next holder claimed the event
    · exact .inr (ends_late (log.over_after inner held none again ⟨row', held', same⟩ lease
        (by simp)))

/-- **Who claims an event before the lease is over** owes it to a report of the holder, or to one of
somebody who has claimed the event earlier, and then some report was late. -/
theorem early (log : IsLog past) (parts : past = before ++ first :: (between ++ second :: after))
    (held : r ∈ first.claimed) (claims : second.Claims r.posting.id) {u : Instant}
    (lease : r.claimedUntil = some u) (early : second.time ≤ u) :
    (∃ d ∈ between, d.doer = first.doer ∧ d.Misses r.posting.id) ∨
      (∃ d ∈ between, d.Misses r.posting.id ∧
        ∃ former ∈ before, former.doer = d.doer ∧ former.Claims r.posting.id) ∧
      ∃ d ∈ before ++ first :: between, d.MissesLate r.posting.id := by
  rcases quiet_or_first between r.posting.id with quiet | ⟨quiet, d, rest, rfl, misses, none⟩
  · have ended := log.relet before first between second after parts r held claims quiet u lease
    exact absurd ended (Int.not_lt.mpr early)
  obtain ⟨row, reports, same⟩ := Deed.misses_iff.mp misses
  rw [List.append_assoc, List.cons_append] at parts
  have upTo : past = (before ++ first :: quiet) ++ d :: (rest ++ second :: after) := by
    rw [parts, List.append_assoc, List.cons_append]
  obtain ⟨z, member, doer, held'⟩ := log.owed _ d _ upTo row reports
  rcases List.mem_append.mp member with former | next
  · refine .inr ⟨⟨d, by simp, misses, z, former, doer, row, held', same⟩, ?_⟩
    rw [← same]
    rcases log.late parts ⟨r, held, same.symm⟩ reports former doer held' with
      ⟨d', among, late⟩ | late
    · refine ⟨d', ?_, late⟩
      rw [← List.cons_append, ← List.append_assoc]
      exact List.mem_append_left _ among
    · exact ⟨d, by simp, late⟩
  rcases List.mem_cons.mp next with rfl | again
  · exact .inl ⟨d, by simp, doer.symm, misses⟩
  -- nobody has claimed the event since, for its lease is not over yet
  · have ended := log.over_after parts held none again ⟨row, held', same⟩ lease
      (List.mem_cons_of_mem _ (List.mem_append_right _ List.mem_cons_self))
    exact absurd ended (Int.not_lt.mpr early)

/-- What another call must keep to. -/
theorem snoc (log : IsLog past) (time : ∀ d' ∈ past, d'.time ≤ d.time)
    (leased : ∀ r ∈ d.claimed, ∃ u, r.claimedUntil = some u)
    (owed : ∀ row, d.missed? = some row → ∃ z ∈ past, z.doer = d.doer ∧ row ∈ z.claimed)
    (once : ∀ d' ∈ past, d'.doer = d.doer → ∀ id, d'.Misses id → ¬ d.Misses id)
    (relet : ∀ before first between, past = before ++ first :: between → ∀ r ∈ first.claimed,
      d.Claims r.posting.id → (∀ d' ∈ between, ¬ d'.Misses r.posting.id) →
      ∀ u, r.claimedUntil = some u → u < d.time) : IsLog (past ++ [d]) := by
  refine ⟨related_snoc log.timed time, fun d' member => ?_, fun before d' after parts => ?_,
    related_snoc log.once once, fun before first between second after parts => ?_⟩
  · rcases List.mem_append.mp member with old | new
    · exact log.leased d' old
    · cases List.mem_singleton.mp new
      exact leased
  · rcases parts_snoc parts with ⟨-, rfl, rfl⟩ | ⟨after', -, parts⟩
    · exact owed
    · exact log.owed before d' after' parts
  · rw [← List.cons_append, ← List.append_assoc] at parts
    rcases parts_snoc parts with ⟨-, rfl, rfl⟩ | ⟨after', -, parts⟩
    · exact relet before first between rfl
    · rw [List.append_assoc, List.cons_append] at parts
      exact log.relet before first between second after' parts

end IsLog

end OrderFlow.Outbox
