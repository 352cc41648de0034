import Mathlib.Data.List.Nodup
import OrderFlow.Email
import OrderFlow.Proofs.Checkout.Commitments

/-!
Sweeps of the checkout ledger cannot be observed. A record that no longer counts may linger, be
swept away or be replaced; `Resembles` leaves open which of these has become of it, every call of
the store keeps it and answers alike (`Alike.serves`), and a sweep on one side only keeps it too
(`Alike.sweeps`). So two runs with the same calls answer alike, however they are swept
(`sweeps_unobservable`).
-/
namespace OrderFlow

namespace Assoc
variable {κ α : Type} [DecidableEq κ] {k : κ} {m : Assoc κ α}

/-- Where no key occurs twice, what is sorted out does not uncover anything else. -/
theorem find?_filter_of_nodup (once : m.keys.Nodup) (p : κ × α → Bool) :
    find? k (m.filter p) = (find? k m).filter fun a => p (k, a) := by
  induction m with
  | nil => rfl
  | cons entry rest ih =>
    obtain ⟨l, a⟩ := entry
    obtain ⟨new, once⟩ := List.nodup_cons.mp once
    have rest_only (other : l ≠ k ∨ ¬ p (l, a) = true) :
        find? k (((l, a) :: rest).filter p) = find? k (rest.filter p) := by
      by_cases kept : p (l, a) = true
      · rw [List.filter_cons_of_pos kept, find?, if_neg (other.resolve_right (not_not.mpr kept))]
      · rw [List.filter_cons_of_neg kept]
    by_cases same : l = k
    · subst same
      by_cases kept : p (l, a) = true
      · rw [List.filter_cons_of_pos kept, find?, if_pos rfl, find?, if_pos rfl,
          Option.filter_some, if_pos kept]
      · have gone : find? l rest = none := by
          rw [← Option.not_isSome_iff_eq_none, ← mem_keys_iff]
          exact new
        rw [rest_only (.inr kept), ih once, gone, find?, if_pos rfl, Option.filter_some,
          if_neg kept, Option.filter_none]
    · rw [rest_only (.inl same), find?, if_neg same]
      exact ih once

omit [DecidableEq κ] in
theorem nodup_keys_filter (once : m.keys.Nodup) (p : κ × α → Bool) : (keys (m.filter p)).Nodup :=
  once.sublist (List.filter_sublist.map _)

theorem nodup_keys_insert (once : m.keys.Nodup) (a : α) : (insert k a m).keys.Nodup := by
  rw [keys_insert]
  split
  · exact once
  · next new =>
    refine List.nodup_append.mpr ⟨once, List.nodup_singleton _, fun l old k' last same => ?_⟩
    exact new (List.mem_singleton.mp last ▸ same ▸ old)

end Assoc

namespace KeyRecord

/-- A record that counts has counted before. -/
theorem isLive_before {r : KeyRecord} {now later : Instant} (passed : now ≤ later)
    (live : r.isLive later = true) : r.isLive now = true := by
  simp only [isLive, isExpired, Bool.not_eq_true', decide_eq_false_iff_not] at live ⊢
  exact fun expired => live (Int.le_trans expired passed)

end KeyRecord

namespace Ledger
variable {l l' : Ledger} {now now' : Instant} {key : String}

/-- The records that still count. -/
def live (l : Ledger) (now : Instant) : Assoc String KeyRecord :=
  l.records.filter fun r => r.2.isLive now

/-- What will count later counts now. -/
theorem find?_later (l : Ledger) (key : String) (passed : now ≤ now') :
    l.find? key now' = (l.find? key now).filter (·.isLive now') := by
  rw [find?, find?, Option.filter_filter]
  refine congrArg (Option.filter · _) (funext fun r => ?_)
  cases live : r.isLive now' with
  | false => simp
  | true => simp [KeyRecord.isLive_before passed live]

/-- A sweep hides nothing that counts, and uncovers nothing. -/
theorem find?_sweep (once : l.records.keys.Nodup) (key : String) :
    (l.sweep now).2.find? key now = l.find? key now := by
  have kept : (l.sweep now).2.records.find? key =
      (l.records.find? key).filter (·.isLive now) :=
    Assoc.find?_filter_of_nodup once _
  rw [find?, kept, find?, Option.filter_filter]
  simp only [Bool.and_self]

theorem mem_live (once : l.records.keys.Nodup) {r : KeyRecord} :
    (key, r) ∈ l.live now ↔ l.find? key now = some r := by
  rw [live, find?, List.mem_filter, Option.filter_eq_some_iff]
  refine and_congr_left fun _ => ⟨Assoc.find?_of_mem once, Assoc.mem_of_find?⟩

/-- Two ledgers that nothing tells apart but records that no longer count. -/
structure Resembles (now : Instant) (l l' : Ledger) : Prop where
  found : ∀ key, l.find? key now = l'.find? key now
  stock : l.stock = l'.stock
  sequences : l.sequences = l'.sequences
  outbox : l.outbox = l'.outbox
  once : l.records.keys.Nodup ∧ l'.records.keys.Nodup

namespace Resembles

theorem refl (once : l.records.keys.Nodup) (now : Instant) : Resembles now l l :=
  ⟨fun _ => rfl, rfl, rfl, rfl, once, once⟩

theorem symm (resembles : Resembles now l l') : Resembles now l' l where
  found key := (resembles.found key).symm
  stock := resembles.stock.symm
  sequences := resembles.sequences.symm
  outbox := resembles.outbox.symm
  once := resembles.once.symm

theorem trans {l'' : Ledger} (first : Resembles now l l') (second : Resembles now l' l'') :
    Resembles now l l'' where
  found key := (first.found key).trans (second.found key)
  stock := first.stock.trans second.stock
  sequences := first.sequences.trans second.sequences
  outbox := first.outbox.trans second.outbox
  once := ⟨first.once.1, second.once.2⟩

theorem later (resembles : Resembles now l l') (passed : now ≤ now') : Resembles now' l l' where
  found key := by rw [find?_later l key passed, find?_later l' key passed, resembles.found]
  stock := resembles.stock
  sequences := resembles.sequences
  outbox := resembles.outbox
  once := resembles.once

/-- **The same records count.** -/
theorem live_perm (resembles : Resembles now l l') : (l.live now).Perm (l'.live now) := by
  have entries (l : Ledger) (once : l.records.keys.Nodup) : (l.live now).Nodup :=
    (Assoc.nodup_keys_filter once _).of_map _
  refine (List.perm_ext_iff_of_nodup (entries l resembles.once.1)
    (entries l' resembles.once.2)).mpr fun ⟨key, r⟩ => ?_
  rw [mem_live resembles.once.1, mem_live resembles.once.2, resembles.found]

theorem sweep (resembles : Resembles now l l') : Resembles now (l.sweep now).2 l' where
  found key := (find?_sweep resembles.once.1 key).trans (resembles.found key)
  stock := resembles.stock
  sequences := resembles.sequences
  outbox := resembles.outbox
  once := ⟨Assoc.nodup_keys_filter resembles.once.1 _, resembles.once.2⟩

theorem enter (resembles : Resembles now l l') (day : CalendarDay) (sequence : Int)
    (wanted : List (Uuid × Int)) (final : FinalCheckout) :
    Resembles now (l.enter day sequence wanted final now)
      (l'.enter day sequence wanted final now) where
  found key := by
    have entered (l : Ledger) : (l.enter day sequence wanted final now).find? key now =
        if final.record.key = key then (some final.record).filter (·.isLive now)
        else l.find? key now := by
      unfold find?
      rw [show (l.enter day sequence wanted final now).records.find? key = _ from
        Assoc.find?_insert ..]
      split <;> rfl
    rw [entered, entered, resembles.found]
  stock := congrArg (takeOut · wanted) resembles.stock
  sequences := congrArg (Assoc.insert day sequence) resembles.sequences
  outbox := congrArg (Outbox.Table.insert · final.posting now) resembles.outbox
  once := ⟨Assoc.nodup_keys_insert resembles.once.1 _, Assoc.nodup_keys_insert resembles.once.2 _⟩

/-- **A draft is answered alike, and leaves ledgers behind that are alike.** -/
theorem commit [EmailCheck] (resembles : Resembles now l l') (d : CheckoutDraft) (eventId : Uuid) :
    (l.commit d eventId now).1 = (l'.commit d eventId now).1 ∧
      Resembles now (l.commit d eventId now).2 (l'.commit d eventId now).2 := by
  have next (day : CalendarDay) : l'.nextSequence day = l.nextSequence day := by
    rw [nextSequence, nextSequence, resembles.sequences]
  have available (product : Uuid) : l'.available product = l.available product := by
    rw [Ledger.available, Ledger.available, resembles.stock]
  have shortage (wanted : List (Uuid × Int)) : l'.shortage? wanted = l.shortage? wanted := by
    simp only [shortage?, available]
  have stays (answer : CommitAnswer) :
      (answer, l).1 = (answer, l').1 ∧ Resembles now (answer, l).2 (answer, l').2 :=
    ⟨rfl, resembles⟩
  simp only [Ledger.commit, ← resembles.found d.key, next, shortage, available]
  split
  · exact stays _
  split
  · exact stays _
  split
  · exact stays _
  split
  · exact stays _
  split
  · exact stays _
  split
  · exact stays _
  · exact ⟨rfl, resembles.enter _ _ _ _⟩

end Resembles
end Ledger

namespace Checkout
open Surroundings
variable {now now' : Instant} {d d' : CheckoutDesk}

/-- A call of the store of the checkouts. -/
inductive Visit where
  | find (key : String)
  | commit (draft : CheckoutDraft)
  | sweep

/-- What a call is answered. -/
inductive Reply where
  | found (record : Except Failure (Option KeyRecord))
  | committed (answer : CommitAnswer)

namespace Visit

def isSweep : Visit → Bool
  | sweep => true
  | _ => false

/-- Serves a call; nobody waits for what a sweep answers. -/
def serve [EmailCheck] : Visit → StateM CheckoutDesk (Option Reply)
  | find key => return some (.found (← findRecord key))
  | commit draft => return some (.committed (← Checkout.commit draft))
  | sweep => do
    let _ ← Checkout.sweep
    return none

end Visit

/-- The desk at a point in time. -/
def atTime (now : Instant) (d : CheckoutDesk) : CheckoutDesk :=
  { d with around := { d.around with now } }

/-- Serves calls one after the other, each at its time; the answers. -/
def serveAll [EmailCheck] : List (Instant × Visit) → StateM CheckoutDesk (List Reply)
  | [] => return []
  | (now, visit) :: rest => do
    modify (atTime now)
    let reply ← visit.serve
    let replies ← serveAll rest
    return reply.toList ++ replies

/-- The calls that somebody waits for. -/
def awaited (visits : List (Instant × Visit)) : List (Instant × Visit) :=
  visits.filter fun v => !v.2.isSweep

/-! ## Calls of a store that answers -/

theorem lift_mishap_quiet (call : StoreCall) (quiet : d.around.IsQuiet) :
    Yields (liftM (mishap call)) d fun m d' => m = .none ∧ d' = d := by
  refine .lifted ((mishap_quiet call quiet).mono fun m a ⟨calm, same⟩ => ⟨calm, ?_⟩)
  rw [same]
  rfl

theorem findRecord_quiet (key : String) (quiet : d.around.IsQuiet) :
    Yields (findRecord key) d fun r d' =>
      r = .ok (d.ledger.find? key d.around.now) ∧ d' = d := by
  refine (lift_mishap_quiet .findRecord quiet).bind ?_
  rintro _ _ ⟨rfl, rfl⟩
  exact ⟨rfl, rfl⟩

section
variable {_ : EmailCheck}

theorem commit_quiet (draft : CheckoutDraft) (quiet : d.around.IsQuiet) :
    Yields (commit draft) d fun answer d' =>
      let commits := d.ledger.commit draft (d.around.ids.ordered d.around.issued) d.around.now
      answer = commits.1 ∧ d' = { d with
        around := { d.around with issued := d.around.issued + 1 }
        ledger := commits.2 } := by
  refine (lift_mishap_quiet .commitCheckout quiet).bind ?_
  rintro _ _ ⟨rfl, rfl⟩
  exact ⟨rfl, rfl⟩

theorem sweep_quiet (quiet : d.around.IsQuiet) :
    Yields sweep d fun _ d' => d' = { d with ledger := (d.ledger.sweep d.around.now).2 } := by
  have calm : Yields (failure? .sweepRecords) d.around fun e a => e = none ∧ a = d.around := by
    refine (mishap_quiet .sweepRecords quiet).bind ?_
    rintro _ _ ⟨rfl, rfl⟩
    exact ⟨rfl, rfl⟩
  have calm : Yields (liftM (failure? .sweepRecords)) d fun e d' => e = none ∧ d' = d := by
    refine .lifted (calm.mono fun e a ⟨fine, same⟩ => ⟨fine, ?_⟩)
    rw [same]
    rfl
  refine calm.bind ?_
  rintro _ _ ⟨rfl, rfl⟩
  rfl

theorem serveAll_cons {time : Instant} {visit : Visit} {rest : List (Instant × Visit)}
    {reply : Option Reply} {replies : List Reply} {e : CheckoutDesk}
    (first : visit.serve.run (atTime time d) = (reply, e))
    (others : (serveAll rest).run e = (replies, d')) :
    (serveAll ((time, visit) :: rest)).run d = (reply.toList ++ replies, d') := by
  have unrolled : (serveAll ((time, visit) :: rest)).run d =
      ((visit.serve.run (atTime time d)).1.toList ++
          ((serveAll rest).run (visit.serve.run (atTime time d)).2).1,
        ((serveAll rest).run (visit.serve.run (atTime time d)).2).2) := rfl
  rw [unrolled, first, others]

/-! ## Two runs -/

/-- Two desks whose ledgers are alike, with the same identifiers to come and no mishap. -/
structure Alike (now : Instant) (d d' : CheckoutDesk) : Prop where
  ledgers : d.ledger.Resembles now d'.ledger
  ids : d.around.ids = d'.around.ids
  issued : d.around.issued = d'.around.issued
  quiet : d.around.IsQuiet ∧ d'.around.IsQuiet

namespace Alike

theorem later (alike : Alike now d d') (passed : now ≤ now') : Alike now' d d' :=
  { alike with ledgers := alike.ledgers.later passed }

/-- **A sweep on one side only tells nothing apart.** -/
theorem sweeps (alike : Alike now d d') :
    ∃ e, Visit.sweep.serve.run (atTime now d) = (none, e) ∧ Alike now e d' := by
  have swept : Yields Visit.sweep.serve (atTime now d) fun reply e =>
      reply = none ∧ Alike now e d' := by
    refine (sweep_quiet (d := atTime now d) alike.quiet.1).bind ?_
    rintro _ _ rfl
    exact ⟨rfl, alike.ledgers.sweep, alike.ids, alike.issued, alike.quiet⟩
  exact ⟨_, Prod.ext swept.1 rfl, swept.2⟩

/-- **A call is answered alike on both sides.** -/
theorem serves (alike : Alike now d d') {visit : Visit} (call : visit.isSweep = false) :
    ∃ reply e e', visit.serve.run (atTime now d) = (reply, e) ∧
      visit.serve.run (atTime now d') = (reply, e') ∧ Alike now e e' := by
  suffices same : Yields visit.serve (atTime now d) fun reply e =>
      Yields visit.serve (atTime now d') fun reply' e' => reply' = reply ∧ Alike now e e' by
    obtain ⟨answers, alike⟩ := same
    exact ⟨_, _, (visit.serve.run (atTime now d')).2, rfl, Prod.ext answers rfl, alike⟩
  cases visit with
  | sweep => cases call
  | find key =>
    refine (findRecord_quiet (d := atTime now d) key alike.quiet.1).bind ?_
    rintro _ _ ⟨rfl, rfl⟩
    refine .returned ((findRecord_quiet (d := atTime now d') key alike.quiet.2).bind ?_)
    rintro _ _ ⟨rfl, rfl⟩
    have found := (alike.ledgers.found key).symm
    exact .returned ⟨congrArg (fun r => some (Reply.found (.ok r))) found, { alike with }⟩
  | commit draft =>
    refine (commit_quiet (d := atTime now d) draft alike.quiet.1).bind ?_
    rintro _ _ ⟨rfl, rfl⟩
    refine .returned ((commit_quiet (d := atTime now d') draft alike.quiet.2).bind ?_)
    rintro _ _ ⟨rfl, rfl⟩
    obtain ⟨answers, ledgers⟩ :=
      alike.ledgers.commit draft (d.around.ids.ordered d.around.issued)
    have same : d'.around.ids.ordered d'.around.issued = d.around.ids.ordered d.around.issued := by
      rw [alike.ids, alike.issued]
    simp only [atTime, same]
    exact .returned ⟨congrArg (fun a => some (Reply.committed a)) answers.symm, ledgers,
      alike.ids, congrArg (· + 1) alike.issued, alike.quiet⟩

/-- **A run is answered like the same run without its sweeps.** -/
theorem unswept {visits : List (Instant × Visit)} (alike : Alike now d d')
    (ahead : ∀ v ∈ visits, now ≤ v.1) (steady : visits.Pairwise (·.1 ≤ ·.1)) :
    ∃ replies e e', (serveAll visits).run d = (replies, e) ∧
      (serveAll (awaited visits)).run d' = (replies, e') ∧
      ∀ last, now ≤ last → (∀ v ∈ visits, v.1 ≤ last) → Alike last e e' := by
  induction visits generalizing now d d' with
  | nil => exact ⟨_, _, _, rfl, rfl, fun last passed _ => alike.later passed⟩
  | cons v rest ih =>
    obtain ⟨time, visit⟩ := v
    obtain ⟨first, onward⟩ := List.pairwise_cons.mp steady
    have alike := alike.later (ahead _ List.mem_cons_self)
    have last_le {last : Instant} (after : ∀ v ∈ (time, visit) :: rest, v.1 ≤ last) :
        time ≤ last ∧ ∀ v ∈ rest, v.1 ≤ last :=
      List.forall_mem_cons.mp after
    by_cases sweeps : visit.isSweep = true
    · have dropped : awaited ((time, visit) :: rest) = awaited rest :=
        List.filter_cons_of_neg (by simp [sweeps])
      cases visit with
      | find | commit => cases sweeps
      | sweep =>
        obtain ⟨e, served, alike⟩ := alike.sweeps
        obtain ⟨replies, e₁, e₁', run, run', alike⟩ := ih alike first onward
        refine ⟨_, _, _, serveAll_cons served run, dropped ▸ run', fun last _ after => ?_⟩
        exact alike last (last_le after).1 (last_le after).2
    · have kept : awaited ((time, visit) :: rest) = (time, visit) :: awaited rest :=
        List.filter_cons_of_pos (by simp [sweeps])
      obtain ⟨reply, e, e', served, served', alike⟩ := alike.serves (by simpa using sweeps)
      obtain ⟨replies, e₁, e₁', run, run', alike⟩ := ih alike first onward
      refine ⟨_, _, _, serveAll_cons served run, kept ▸ serveAll_cons served' run',
        fun last _ after => ?_⟩
      exact alike last (last_le after).1 (last_le after).2

end Alike

/-- Points in time before and after all of a run. -/
theorem exists_around (visits : List (Instant × Visit)) :
    ∃ start last, ∀ v ∈ visits, start ≤ v.1 ∧ v.1 ≤ last := by
  induction visits with
  | nil => exact ⟨⟨0⟩, ⟨0⟩, fun _ => (nomatch ·)⟩
  | cons v rest ih =>
    obtain ⟨start, last, between⟩ := ih
    refine ⟨⟨min v.1.nanos start.nanos⟩, ⟨max v.1.nanos last.nanos⟩,
      List.forall_mem_cons.mpr ⟨⟨Int.min_le_left _ _, Int.le_max_left _ _⟩, fun w member => ?_⟩⟩
    exact ⟨Int.le_trans (Int.min_le_right _ _) (between w member).1,
      Int.le_trans (between w member).2 (Int.le_max_right _ _)⟩

/-- Two runs with the same calls from one desk, seen after both. -/
theorem serveAll_alike [EmailCheck] (quiet : d.around.IsQuiet) (once : d.ledger.records.keys.Nodup)
    {visits visits' : List (Instant × Visit)} (steady : visits.Pairwise (·.1 ≤ ·.1))
    (steady' : visits'.Pairwise (·.1 ≤ ·.1)) (same : awaited visits = awaited visits')
    {last : Instant} (after : ∀ v ∈ visits ++ visits', v.1 ≤ last) :
    ∃ replies e e', (serveAll visits).run d = (replies, e) ∧
      (serveAll visits').run d = (replies, e') ∧ e.ledger.Resembles last e'.ledger := by
  obtain ⟨start, _, before⟩ := exists_around ((last, .sweep) :: (visits ++ visits'))
  obtain ⟨⟨passed, -⟩, before⟩ := List.forall_mem_cons.mp before
  obtain ⟨before, before'⟩ := List.forall_mem_append.mp before
  obtain ⟨after, after'⟩ := List.forall_mem_append.mp after
  have alike : Alike start d d := ⟨.refl once start, rfl, rfl, quiet, quiet⟩
  obtain ⟨replies, e, u, run, bare, resembles⟩ :=
    alike.unswept (fun v member => (before v member).1) steady
  obtain ⟨replies', e', u', run', bare', resembles'⟩ :=
    alike.unswept (fun v member => (before' v member).1) steady'
  rw [same, bare'] at bare
  cases bare
  exact ⟨_, _, _, run, run',
    (resembles last passed after).ledgers.trans (resembles' last passed after').ledgers.symm⟩

/-- **Sweeps cannot be observed.** Two runs with the same calls at the same times, swept whenever
and however often, are answered alike; and wherever both have come equally far, their ledgers hold
the same stock, the same numbers, the same rows, and the same records among those that count. -/
theorem sweeps_unobservable [EmailCheck] (quiet : d.around.IsQuiet)
    (once : d.ledger.records.keys.Nodup) {visits visits' : List (Instant × Visit)}
    (steady : visits.Pairwise (·.1 ≤ ·.1)) (steady' : visits'.Pairwise (·.1 ≤ ·.1))
    (same : awaited visits = awaited visits') :
    ((serveAll visits).run d).1 = ((serveAll visits').run d).1 ∧
      ∀ front, front <+: visits → ∀ front', front' <+: visits' → awaited front = awaited front' →
        let l := ((serveAll front).run d).2.ledger
        let l' := ((serveAll front').run d).2.ledger
        l.stock = l'.stock ∧ l.sequences = l'.sequences ∧ l.outbox = l'.outbox ∧
          ∀ now, (∀ v ∈ front ++ front', v.1 ≤ now) → (l.live now).Perm (l'.live now) := by
  constructor
  · obtain ⟨_, last, between⟩ := exists_around (visits ++ visits')
    obtain ⟨replies, e, e', run, run', -⟩ :=
      serveAll_alike quiet once steady steady' same fun v member => (between v member).2
    rw [run, run']
  · intro front cut front' cut' same l l'
    have resembles {now : Instant} (after : ∀ v ∈ front ++ front', v.1 ≤ now) :
        l.Resembles now l' := by
      obtain ⟨replies, e, e', run, run', resembles⟩ := serveAll_alike quiet once
        (steady.sublist cut.sublist) (steady'.sublist cut'.sublist) same after
      simp only [l, l', run, run', resembles]
    obtain ⟨_, last, between⟩ := exists_around (front ++ front')
    have alike := resembles fun v member => (between v member).2
    exact ⟨alike.stock, alike.sequences, alike.outbox, fun now after => (resembles after).live_perm⟩

end

/-- An order is swept away the moment its time is up, or lingers. -/
theorem swept_and_lingering :
    let d : CheckoutDesk := { around := { now := ⟨0⟩ }, ledger := { stock := [(default, 3)] } }
    let sold := Visit.commit (Samples.draft [2, 1])
    let visits : List (Instant × Visit) :=
      [(⟨0⟩, sold), (⟨60000000000⟩, .sweep), (⟨60000000000⟩, .find "k")]
    let visits' : List (Instant × Visit) :=
      [(⟨0⟩, .sweep), (⟨0⟩, sold), (⟨60000000000⟩, .find "k")]
    d.around.IsQuiet ∧ d.ledger.records.keys.Nodup ∧
      visits.Pairwise (·.1 ≤ ·.1) ∧ visits'.Pairwise (·.1 ≤ ·.1) ∧
      awaited visits = awaited visits' ∧
      ((serveAll visits).run d).2.ledger.records.length = 0 ∧
      ((serveAll visits').run d).2.ledger.records.length = 1 ∧
      ((serveAll visits).run d).1 = ((serveAll visits').run d).1 := by
  intro d sold visits visits'
  have once : d.ledger.records.keys.Nodup := List.nodup_nil
  have steady : visits.Pairwise (·.1 ≤ ·.1) := by decide
  have steady' : visits'.Pairwise (·.1 ≤ ·.1) := by decide
  exact ⟨rfl, once, steady, steady', rfl, by decide +kernel, by decide +kernel,
    (sweeps_unobservable (d := d) rfl once steady steady' rfl).1⟩

end Checkout
end OrderFlow
