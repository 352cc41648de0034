import OrderFlow.Proofs.Order.Index
import OrderFlow.Proofs.Traffic.Charging
import OrderFlow.Proofs.Traffic.Deliveries

/-!
What is told of one doer. A property of what a doer has done, of the book and of where the doer
stands lasts (`Lasting`) if it holds when the doer begins, goes on with every step of its own, is
not harmed by what others do to the book, and does not ask anything of a doer that is broken off.
Such a property holds of every doer after every run (`Traffic.run_told`).
-/
namespace OrderFlow

variable {_ : EmailCheck}

/-- `S` lasts as long as everything that is done is as `Q` has it. -/
structure Lasting [EmailCheck] (cfg : Shop.Config) (Q : Happening → Prop)
    (S : List Happening → OrderBook → Doing → Prop) : Prop where
  begins : ∀ (c : Call) (b : OrderBook), S [] b c.doing
  dispatched : ∀ (id : Uuid) (b : OrderBook), S [] b (.attempt (.reading .charge id))
  goes : ∀ {h : Happening} {hs : List Happening}, h.IsActual cfg →
    h.before.Move cfg h.earlier h.after h.later → Q h → h.earlier.book.IsIndexed →
    S hs h.earlier.book h.before → S (hs ++ [h]) h.later.book h.after
  others : ∀ {now : Instant} {o? : Option PaymentOutcome} {e? : Option OrderCreated}
    {b b' : OrderBook} {hs : List Happening} {d : Doing}, b.IsIndexed →
    OrderBook.Change now o? e? b b' → S hs b d → S hs b' d
  gone : ∀ {hs : List Happening} {b : OrderBook} {d : Doing}, S hs b d → S hs b .gone

namespace Traffic
variable {cfg : Shop.Config} {Q : Happening → Prop}
  {S : List Happening → OrderBook → Doing → Prop} {t t' : Traffic} {e : Event}

/-- What is told of all doers. -/
structure IsTold (S : List Happening → OrderBook → Doing → Prop) (t : Traffic) : Prop where
  indexed : t.shop.book.IsIndexed
  begun : ∀ h ∈ t.past, h.doer < t.doings.length
  told : ∀ (n : Nat) (d : Doing), t.doings[n]? = some d → S (t.doneBy n) t.shop.book d

/-- Nobody who is only about to begin has done anything. -/
theorem IsTold.doneBy_new (told : t.IsTold S) {n : Nat} (new : t.doings.length ≤ n) :
    t.doneBy n = [] := by
  refine List.filter_eq_nil_iff.mpr fun h member same => ?_
  have same : h.doer = n := of_decide_eq_true same
  exact absurd (told.begun h member) (by omega)

theorem IsTold.begins (told : t.IsTold S) (lasting : Lasting cfg Q S) (c : Call) :
    { t with doings := t.doings ++ [c.doing] }.IsTold S := by
  refine ⟨told.indexed, fun h member => ?_, fun n d now => ?_⟩
  · rw [List.length_append]
    exact Nat.lt_add_right _ (told.begun h member)
  · have now : (t.doings ++ [c.doing])[n]? = some d := now
    show S (t.doneBy n) t.shop.book d
    rcases Nat.lt_or_ge n t.doings.length with old | new
    · rw [List.getElem?_append_left old] at now
      exact told.told n d now
    · rw [List.getElem?_append_right new] at now
      obtain rfl := List.mem_singleton.mp (List.mem_of_getElem? now)
      rw [told.doneBy_new new]
      exact lasting.begins c _

theorem IsTold.ends (told : t.IsTold S) (lasting : Lasting cfg Q S) (doer : Nat) :
    { t with doings := t.doings.set doer .gone }.IsTold S := by
  refine ⟨told.indexed, fun h member => ?_, fun n d now => ?_⟩
  · rw [List.length_set]
    exact told.begun h member
  · have now : (t.doings.set doer .gone)[n]? = some d := now
    show S (t.doneBy n) t.shop.book d
    rw [List.getElem?_set] at now
    split at now
    · next same =>
      split at now
      · next below =>
        cases now
        subst same
        exact lasting.gone (told.told doer _ (List.getElem?_eq_getElem below))
      · cases now
    · exact told.told n d now

theorem IsTold.acts (told : t.IsTold S) (lasting : Lasting cfg Q S) (sound : t.IsSound)
    {doer : Nat} {d d' : Doing} {later : Shop} (under : t.doings[doer]? = some d)
    (move : d.Move cfg t.shop d' later) (actual : (t.news doer d d' later).IsActual cfg)
    (fine : Q (t.news doer d d' later)) : (t.acted doer d d' later).IsTold S := by
  have below := (List.getElem?_eq_some_iff.mp under).1
  have longer : t.doings.length ≤ (t.acted doer d d' later).doings.length := by
    simp [acted]
  refine ⟨told.indexed.change move.changes, fun h member => ?_, fun n e now => ?_⟩
  · rcases List.mem_append.mp member with old | new
    · exact (told.begun h old).trans_le longer
    · rw [List.mem_singleton.mp new]
      exact below.trans_le longer
  · rw [doneBy_acted]
    rcases Nat.lt_or_ge n t.doings.length with old | new
    · rw [getElem?_acted (List.getElem?_eq_getElem old)] at now
      by_cases same : doer = n
      · subst same
        rw [if_pos rfl] at now ⊢
        cases now
        exact lasting.goes actual move fine told.indexed (told.told doer d under)
      · rw [if_neg same] at now ⊢
        exact lasting.others told.indexed move.changes
          (told.told n e ((List.getElem?_eq_getElem old).trans now))
    · -- What is dispatched begins at the beginning.
      rw [if_neg (by omega), told.doneBy_new new]
      rcases doings_acted now with ⟨rfl, -⟩ | ⟨-, before⟩ | ⟨p, task, rfl⟩
      · exact absurd below (by omega)
      · exact absurd (List.getElem?_eq_some_iff.mp before).1 (by omega)
      · obtain ⟨id, rfl⟩ := sound.dispatched move task
        exact lasting.dispatched id _

/-- **What lasts is told of every doer.** -/
theorem run_told (lasting : Lasting cfg Q S) (around : Surroundings) (stock : Assoc Uuid Int)
    (sequences : Assoc CalendarDay Int) (events : List Event)
    (fine : ∀ h ∈ ((opening around stock sequences).run cfg events).past, Q h) :
    ((opening around stock sequences).run cfg events).IsTold S := by
  refine run_keeps_actual (P := fun t => (∀ h ∈ t.past, Q h) → t.IsTold S)
    (opening_isSound around stock sequences) (fun _ member => nomatch member)
    (fun _ => ⟨OrderBook.isIndexed_empty, (fun _ member => nomatch member),
      fun _ _ now => nomatch now⟩) ?_ fine
  intro t e t' sound actual told step fine
  cases step with
  | rests => exact told fine
  | weather w =>
    have told := told fine
    exact ⟨told.indexed, told.begun, told.told⟩
  | begins c => exact (told fine).begins lasting c
  | ends doer => exact (told fine).ends lasting doer
  | @acts doer d d' later under ready move =>
    have new : t.news doer d d' later ∈ (t.acted doer d d' later).past :=
      List.mem_append_right _ (List.mem_singleton_self _)
    exact (told fun h member => fine h (List.mem_append_left _ member)).acts lasting sound under
      move (actual _ new) (fine _ new)

end Traffic

end OrderFlow
