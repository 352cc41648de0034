import Mathlib.Data.List.Forall2
import OrderFlow.Proofs.Checkout.Moves
import OrderFlow.Proofs.Checkout.Replay
import OrderFlow.Proofs.Outbox.Moves

/-!
Sales and the ledger. A sale is a draft that was committed; nothing but sales takes products out of
the stock, counts up the numbers of a day or posts an event, and a ledger that recalls its sales
(`Ledger.Recalls`) holds no record but theirs. While a record counts there is no second sale under
its key (`Ledger.SetsApart.change`).
-/
namespace OrderFlow

variable {_ : EmailCheck}

namespace Assoc
variable {κ α : Type} [DecidableEq κ] {k : κ} {a : α} {m : Assoc κ α}

theorem mem_insert {entry : κ × α} (member : entry ∈ insert k a m) :
    entry = (k, a) ∨ entry ∈ m := by
  induction m with
  | nil => exact .inl (List.mem_singleton.mp member)
  | cons first rest ih =>
    obtain ⟨l, b⟩ := first
    by_cases same : l = k
    · rw [insert, if_pos same] at member
      exact (List.mem_cons.mp member).imp_right (List.mem_cons_of_mem _)
    · rw [insert, if_neg same] at member
      rcases List.mem_cons.mp member with first | later
      · exact .inr (first ▸ List.mem_cons_self)
      · exact (ih later).imp_right (List.mem_cons_of_mem _)

/-- What is found and stays is found again. -/
theorem find?_filter {p : κ × α → Bool} (found : find? k m = some a) (stays : p (k, a) = true) :
    find? k (m.filter p) = some a := by
  induction m with
  | nil => cases found
  | cons entry rest ih =>
    obtain ⟨l, b⟩ := entry
    by_cases same : l = k
    · rw [find?, if_pos same] at found
      cases found
      rw [List.filter_cons_of_pos (same ▸ stays), find?, if_pos same]
    · rw [find?, if_neg same] at found
      by_cases kept : p (l, b) = true
      · rw [List.filter_cons_of_pos kept, find?, if_neg same]
        exact ih found
      · rw [List.filter_cons_of_neg kept]
        exact ih found

end Assoc

/-- A checkout that has become an order: what was asked for under which key, the draft, the answer,
and when that was. -/
structure Sale where
  key : String
  request : CheckoutRequest
  draft : CheckoutDraft
  outcome : CheckoutOutcome
  time : Instant

namespace Sale

/-- What the draft of a sale has become. -/
def Becomes [EmailCheck] (s : Sale) (final : FinalCheckout) : Prop :=
  ∃ number eventId, s.draft.Finalized number eventId s.time final ∧ final.outcome = s.outcome

/-- The stock after a sale. -/
def takeOut (stock : Assoc Uuid Int) (s : Sale) : Assoc Uuid Int :=
  Ledger.takeOut stock (s.draft.reservations?.getD [])

/-- The last numbers of the days after a sale: that of its own day is one higher. -/
def count (sequences : Assoc CalendarDay Int) (s : Sale) : Assoc CalendarDay Int :=
  sequences.insert s.time.day ((sequences.find? s.time.day).getD 0 + 1)

end Sale

/-- The record that a sale has left behind. -/
structure KeyRecord.IsOf (record : KeyRecord) (s : Sale) : Prop where
  fingerprint : record.fingerprint = s.request.fingerprint
  replay : record.replay = .ok { s.outcome with replayed := true }

namespace Ledger
variable {keep : Int} {before l l' : Ledger} {now now' : Instant} {sales : List Sale}
  {sale? : Option Sale}

/-- How a ledger may change: by a sale, or without one. -/
inductive Change [EmailCheck] (now : Instant) (l l' : Ledger) : Option Sale → Prop where
  /-- Nothing but the progress of the outbox changes. -/
  | posts (records : l'.records = l.records) (stock : l'.stock = l.stock)
      (sequences : l'.sequences = l.sequences) (postings : l'.outbox.postings = l.outbox.postings) :
      Change now l l' none
  | sweeps (swept : l' = (l.sweep now).2) : Change now l l' none
  | sells {s : Sale} {final : FinalCheckout} {eventId : Uuid} {wanted : List (Uuid × Int)}
      (time : s.time = now) (outcome : final.outcome = s.outcome)
      (committed : l.Committed l' s.draft eventId now final wanted) : Change now l l' (some s)

theorem Change.stays (same : l' = l) : Change now l l' none := by
  rw [same]
  exact .posts rfl rfl rfl rfl

/-- What a ledger that has started as `before` knows of the sales so far. -/
structure Recalls [EmailCheck] (before l : Ledger) (sales : List Sale) : Prop where
  kept : ∀ r ∈ l.records, ∃ s ∈ sales, ∃ final, s.Becomes final ∧ r = (s.draft.key, final.record)
  stock : l.stock = sales.foldl Sale.takeOut before.stock
  sequences : l.sequences = sales.foldl Sale.count before.sequences
  posted : List.Forall₂ (fun s p => ∃ final, s.Becomes final ∧ final.posting = p) sales
    l.outbox.postings

/-- A sale and what it has become, on its way into the ledger. -/
theorem Committed.becomes {s : Sale} {final : FinalCheckout} {eventId : Uuid}
    {wanted : List (Uuid × Int)} (time : s.time = now) (outcome : final.outcome = s.outcome)
    (committed : l.Committed l' s.draft eventId now final wanted) : s.Becomes final :=
  ⟨_, _, time ▸ CheckoutDraft.finalize_ok committed.finalized, outcome⟩

/-- **A ledger recalls its sales however it changes.** -/
theorem Recalls.change (recalls : Recalls before l sales) (change : Change now l l' sale?) :
    Recalls before l' (sales ++ sale?.toList) := by
  cases change with
  | posts records stock sequences postings =>
    rw [Option.toList_none, List.append_nil]
    refine ⟨?_, stock.trans recalls.stock, sequences.trans recalls.sequences, ?_⟩
    · rw [records]
      exact recalls.kept
    · rw [postings]
      exact recalls.posted
  | sweeps swept =>
    rw [Option.toList_none, List.append_nil, swept]
    exact { recalls with kept := fun r member => recalls.kept r (List.mem_filter.mp member).1 }
  | @sells s final _ _ time outcome committed =>
    have becomes := committed.becomes time outcome
    have key : final.record.key = s.draft.key := by
      rw [(CheckoutDraft.finalize_ok committed.finalized).record]
    rw [Option.toList_some, committed.entered]
    refine ⟨fun r member => ?_, ?_, ?_, ?_⟩
    · rcases Assoc.mem_insert member with new | old
      · exact ⟨s, by simp, final, becomes, by rw [new, key]⟩
      · obtain ⟨s', earlier, rest⟩ := recalls.kept r old
        exact ⟨s', List.mem_append_left _ earlier, rest⟩
    · rw [List.foldl_append, ← recalls.stock]
      simp only [List.foldl_cons, List.foldl_nil, Sale.takeOut, committed.reserved,
        Option.getD_some]
      rfl
    · rw [List.foldl_append, ← recalls.sequences, ← time]
      rfl
    · show List.Forall₂ _ _ (l.outbox.insert final.posting now).postings
      rw [Outbox.Table.postings_insert]
      exact List.rel_append recalls.posted (.cons ⟨final, becomes, rfl⟩ .nil)

/-- Sales under one key are apart: the record of each counts until it has run out, and so long there
is no other. -/
structure SetsApart (keep : Int) (l : Ledger) (sales : List Sale) (now : Instant) : Prop where
  held : ∀ s ∈ sales, s.time ≤ now ∧ (s.time.shift keep ≤ now ∨
    ∃ r, l.records.find? s.draft.key = some r ∧ s.time.shift keep ≤ r.expiresAt)
  apart : sales.Pairwise fun s s' => s.draft.key = s'.draft.key → s.time.shift keep ≤ s'.time

theorem SetsApart.later (sets : SetsApart keep l sales now) (passed : now ≤ now') :
    SetsApart keep l sales now' := by
  refine { sets with held := fun s member => ?_ }
  obtain ⟨past, held⟩ := sets.held s member
  exact ⟨Int.le_trans past passed, held.imp_left fun expired => Int.le_trans expired passed⟩

/-- A sweep drops no record that still counts. -/
theorem SetsApart.sweeps (sets : SetsApart keep l sales now) :
    SetsApart keep (l.sweep now).2 sales now := by
  refine { sets with held := fun s member => ?_ }
  obtain ⟨past, ended | ⟨r, found, late⟩⟩ := sets.held s member
  · exact ⟨past, .inl ended⟩
  · by_cases live : r.isLive now = true
    · exact ⟨past, .inr ⟨r, Assoc.find?_filter found live, late⟩⟩
    · have expired : r.expiresAt ≤ now := by
        simpa [KeyRecord.isLive, KeyRecord.isExpired] using live
      exact ⟨past, .inl (Int.le_trans late expired)⟩

/-- Under a key that is free every earlier sale has run out. -/
theorem SetsApart.ended (sets : SetsApart keep l sales now) {s : Sale} (member : s ∈ sales)
    (free : l.find? s.draft.key now = none) : s.time.shift keep ≤ now := by
  obtain ⟨-, ended | ⟨r, found, late⟩⟩ := sets.held s member
  · exact ended
  · have expired : r.expiresAt ≤ now := by
      simpa [Ledger.find?, found, KeyRecord.isLive, KeyRecord.isExpired] using free
    exact Int.le_trans late expired

theorem SetsApart.sells (sets : SetsApart keep l sales now) {s : Sale} {final : FinalCheckout}
    {eventId : Uuid} {wanted : List (Uuid × Int)} (time : s.time = now)
    (kept : s.draft.keep = keep)
    (committed : l.Committed l' s.draft eventId now final wanted) :
    SetsApart keep l' (sales ++ [s]) now := by
  have finalized := CheckoutDraft.finalize_ok committed.finalized
  have expires : final.record.expiresAt = s.time.shift keep := by
    rw [finalized.record, time, kept]
  have found (k : String) : l'.records.find? k =
      if s.draft.key = k then some final.record else l.records.find? k := by
    rw [committed.entered]
    show Assoc.find? k (l.records.insert final.record.key final.record) = _
    rw [Assoc.find?_insert, finalized.record]
  refine ⟨fun s' member => ?_, ?_⟩
  · rcases List.mem_append.mp member with old | new
    · obtain ⟨past, held⟩ := sets.held s' old
      refine ⟨past, ?_⟩
      rw [found]
      by_cases same : s.draft.key = s'.draft.key
      · exact .inl (sets.ended old (same ▸ committed.free))
      · rw [if_neg same]
        exact held
    · rw [List.mem_singleton.mp new, found, if_pos rfl]
      exact ⟨Int.le_of_eq (congrArg Instant.nanos time),
        .inr ⟨_, rfl, Int.le_of_eq (congrArg Instant.nanos expires.symm)⟩⟩
  · refine List.pairwise_append.mpr ⟨sets.apart, List.pairwise_singleton _ _, ?_⟩
    intro s' old s'' new same
    cases List.mem_singleton.mp new
    rw [time]
    exact sets.ended old (same ▸ committed.free)

/-- **While a record counts there is no second sale under its key.** -/
theorem SetsApart.change (sets : SetsApart keep l sales now) (change : Change now l l' sale?)
    (kept : ∀ s, sale? = some s → s.draft.keep = keep) :
    SetsApart keep l' (sales ++ sale?.toList) now := by
  cases change with
  | posts records =>
    rw [Option.toList_none, List.append_nil]
    refine ⟨?_, sets.apart⟩
    rw [records]
    exact sets.held
  | sweeps swept =>
    rw [Option.toList_none, List.append_nil, swept]
    exact sets.sweeps
  | sells time outcome committed => exact sets.sells time (kept _ rfl) committed

end Ledger

end OrderFlow
