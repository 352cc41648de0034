import OrderFlow.Proofs.Traffic.Outcomes

/-!
No message is lost. What the past tells of each delivery is its story (`IsAccounted`), whatever
else goes on in the meantime; so a delivery that ends has ended as `Delivery.Ends` has it, and has
dealt with its event no more often than it may (`nothing_lost`).
-/
namespace OrderFlow.Traffic
open Delivery
variable {_ : EmailCheck} {cfg : Shop.Config} {t t' : Traffic} {e : Event}

/-- What the past tells of the deliveries. -/
structure IsAccounted [EmailCheck] (cfg : Shop.Config) (t : Traffic) : Prop where
  begun : ∀ h ∈ t.past, h.doer < t.doings.length
  stands : ∀ (n : Nat) (m : Message) (p : Phase), t.doings[n]? = some (.delivery m p) →
    Delivery.Stands cfg.delivery m (t.doneBy n) t.shop.book p
  bounded : ∀ n, triesIn (t.doneBy n) ≤ cfg.delivery.retry.maxRetries + 1
  /-- A delivery that has ended rests, unless it is broken off. -/
  rests : ∀ h ∈ t.past, ∀ m r, h.after = .delivery m (.done r) →
    t.doings[h.doer]? = some (.delivery m (.done r)) ∨ t.doings[h.doer]? = some .gone
  ends : ∀ h ∈ t.past, ∀ m r, h.after = .delivery m (.done r) →
    Ends m (t.doneBy h.doer) t.shop.book r

/-- Nobody who is only about to begin has done anything. -/
theorem IsAccounted.doneBy_new (accounted : t.IsAccounted cfg) :
    t.doneBy t.doings.length = [] := by
  refine List.filter_eq_nil_iff.mpr fun h member same => ?_
  exact absurd (of_decide_eq_true same) (Nat.ne_of_lt (accounted.begun h member))

/-- Only a delivery goes on as a delivery. -/
theorem delivery_before {s s' : Shop} {d : Doing} {m : Message} {p' : Phase}
    (move : d.Move cfg s (.delivery m p') s') : ∃ p, d = .delivery m p := by
  cases move
  exact ⟨_, rfl⟩

section
variable {doer : Nat} {d d' : Doing} {later : Shop}

/-- A delivery that has ended does nothing any more, and neither does what was broken off. -/
theorem news_isIdle {m : Message} {r : Except Failure Handling}
    (actual : (t.news doer d d' later).IsActual cfg) (move : d.Move cfg t.shop d' later)
    (rests : d = .delivery m (.done r) ∨ d = .gone) :
    d' = d ∧ IsIdle (t.news doer d d' later) := by
  rcases rests with rfl | rfl
  · obtain ⟨p', _, after, took⟩ := Took.of_actual actual rfl
    obtain ⟨rfl, idle⟩ := took.ended
    exact ⟨after, idle⟩
  · cases move
    exact ⟨rfl, rfl, rfl, Happening.sent_of_same rfl, rfl⟩

theorem IsAccounted.stands_acted (accounted : t.IsAccounted cfg)
    (under : t.doings[doer]? = some d) (actual : (t.news doer d d' later).IsActual cfg)
    (move : d.Move cfg t.shop d' later) {n : Nat} {m : Message} {p : Phase}
    (now : (t.acted doer d d' later).doings[n]? = some (.delivery m p)) :
    Delivery.Stands cfg.delivery m ((t.acted doer d d' later).doneBy n) later.book p := by
  rw [doneBy_acted]
  rcases doings_acted now with ⟨rfl, rfl⟩ | ⟨other, before⟩ | ⟨q, task, impossible⟩
  · obtain ⟨q, rfl⟩ := delivery_before move
    obtain ⟨p', d₀, after, took⟩ := Took.of_actual actual rfl
    cases after
    rw [if_pos rfl]
    exact (accounted.stands n m q under).turn took
  · rw [if_neg (Ne.symm other)]
    exact (accounted.stands n m p before).later fun id => move.changes.isProcessed_stays
  · cases impossible

theorem IsAccounted.bounded_acted (accounted : t.IsAccounted cfg)
    (under : t.doings[doer]? = some d) (actual : (t.news doer d d' later).IsActual cfg) (n : Nat) :
    triesIn ((t.acted doer d d' later).doneBy n) ≤ cfg.delivery.retry.maxRetries + 1 := by
  have before := accounted.bounded n
  rw [doneBy_acted]
  split
  · next same =>
    subst same
    cases d with
    | delivery m p =>
      obtain ⟨p', d₀, after, took⟩ := Took.of_actual actual rfl
      exact (accounted.stands doer m p under).bounded took before
    | _ =>
      rw [triesIn_snoc]
      exact before
  · exact before

theorem IsAccounted.begun_acted (accounted : t.IsAccounted cfg) (under : t.doings[doer]? = some d) :
    ∀ h ∈ (t.acted doer d d' later).past, h.doer < (t.acted doer d d' later).doings.length := by
  intro h member
  show h.doer < (t.doings.set doer d' ++ later.tasks.map Doing.attempt).length
  rw [List.length_append, List.length_set]
  rcases List.mem_append.mp member with old | new
  · exact Nat.lt_add_right _ (accounted.begun h old)
  · rw [List.mem_singleton.mp new]
    exact Nat.lt_add_right _ (List.getElem?_eq_some_iff.mp under).1

/-- A delivery of which the end is told takes its turn again. -/
theorem IsAccounted.again (accounted : t.IsAccounted cfg) (under : t.doings[doer]? = some d)
    (actual : (t.news doer d d' later).IsActual cfg) (move : d.Move cfg t.shop d' later)
    {h : Happening} (old : h ∈ t.past) {m : Message} {r : Except Failure Handling}
    (ended : h.after = .delivery m (.done r)) (same : doer = h.doer) :
    (d = .delivery m (.done r) ∨ d = .gone) ∧ d' = d ∧ IsIdle (t.news doer d d' later) := by
  have rests := accounted.rests h old m r ended
  rw [← same, under, Option.some_inj, Option.some_inj] at rests
  exact ⟨rests, news_isIdle actual move rests⟩

theorem IsAccounted.rests_acted (accounted : t.IsAccounted cfg) (under : t.doings[doer]? = some d)
    (actual : (t.news doer d d' later).IsActual cfg) (move : d.Move cfg t.shop d' later)
    {h : Happening} (member : h ∈ (t.acted doer d d' later).past) {m : Message}
    {r : Except Failure Handling} (ended : h.after = .delivery m (.done r)) :
    (t.acted doer d d' later).doings[h.doer]? = some (.delivery m (.done r)) ∨
      (t.acted doer d d' later).doings[h.doer]? = some .gone := by
  rcases List.mem_append.mp member with old | new
  · by_cases same : doer = h.doer
    · obtain ⟨rests, stays, -⟩ := accounted.again under actual move old ended same
      rw [getElem?_acted (same ▸ under), if_pos same, stays, Option.some_inj, Option.some_inj]
      exact rests
    · refine (accounted.rests h old m r ended).imp (fun before => ?_) fun before => ?_
      · rw [getElem?_acted before, if_neg same]
      · rw [getElem?_acted before, if_neg same]
  · rw [List.mem_singleton.mp new] at ended ⊢
    rw [getElem?_acted under, if_pos rfl]
    exact .inl (congrArg some ended)

theorem IsAccounted.ends_acted (accounted : t.IsAccounted cfg) (under : t.doings[doer]? = some d)
    (actual : (t.news doer d d' later).IsActual cfg) (move : d.Move cfg t.shop d' later)
    {h : Happening} (member : h ∈ (t.acted doer d d' later).past) {m : Message}
    {r : Except Failure Handling} (ended : h.after = .delivery m (.done r)) :
    Ends m ((t.acted doer d d' later).doneBy h.doer) later.book r := by
  rcases List.mem_append.mp member with old | new
  · have before := (accounted.ends h old m r ended).later fun id => move.changes.isProcessed_stays
    rw [doneBy_acted]
    split
    · next same => exact before.snoc (accounted.again under actual move old ended same).2.2
    · exact before
  · rw [List.mem_singleton.mp new] at ended ⊢
    refine accounted.stands_acted under actual move (p := .done r) ?_
    rw [getElem?_acted under, if_pos rfl]
    exact congrArg some ended

theorem IsAccounted.acts (accounted : t.IsAccounted cfg) (under : t.doings[doer]? = some d)
    (actual : ∀ h ∈ (t.acted doer d d' later).past, h.IsActual cfg)
    (move : d.Move cfg t.shop d' later) : (t.acted doer d d' later).IsAccounted cfg := by
  have actual : (t.news doer d d' later).IsActual cfg :=
    actual _ (List.mem_append_right _ (List.mem_singleton_self _))
  exact {
    begun := accounted.begun_acted under
    stands := fun _ _ _ => accounted.stands_acted under actual move
    bounded := accounted.bounded_acted under actual
    rests := fun _ member _ _ => accounted.rests_acted under actual move member
    ends := fun _ member _ _ => accounted.ends_acted under actual move member }

end

/-- A delivery that begins has done nothing yet. -/
theorem IsAccounted.begins (accounted : t.IsAccounted cfg) (c : Call) :
    { t with doings := t.doings ++ [c.doing] }.IsAccounted cfg := by
  refine { accounted with
    begun := fun h member => ?_, stands := fun n m p now => ?_
    rests := fun h member m r ended => ?_ }
  · rw [List.length_append]
    exact Nat.lt_add_right _ (accounted.begun h member)
  · have now : (t.doings ++ [c.doing])[n]? = some (.delivery m p) := now
    rw [List.getElem?_append] at now
    split at now
    · exact accounted.stands n m p now
    · obtain ⟨first, begins⟩ := List.getElem?_eq_some_iff.mp now
      obtain rfl : n = t.doings.length := by
        rw [List.length_singleton] at first
        omega
      simp only [Nat.sub_self, List.getElem_cons_zero] at begins
      cases c <;> cases begins
      show Delivery.Stands cfg.delivery m (t.doneBy _) t.shop.book .reading
      rw [accounted.doneBy_new]
      exact ⟨rfl, rfl, fun _ _ member => absurd member List.not_mem_nil, rfl⟩
  · show (t.doings ++ [c.doing])[h.doer]? = _ ∨ (t.doings ++ [c.doing])[h.doer]? = _
    rw [List.getElem?_append_left (accounted.begun h member)]
    exact accounted.rests h member m r ended

/-- What is broken off does nothing any more. -/
theorem IsAccounted.gone (accounted : t.IsAccounted cfg) (doer : Nat) :
    { t with doings := t.doings.set doer .gone }.IsAccounted cfg := by
  refine { accounted with
    begun := fun h member => ?_, stands := fun n m p now => ?_
    rests := fun h member m r ended => ?_ }
  · rw [List.length_set]
    exact accounted.begun h member
  · have now : (t.doings.set doer .gone)[n]? = some (.delivery m p) := now
    rw [List.getElem?_set] at now
    split at now
    · split at now <;> cases now
    · exact accounted.stands n m p now
  · show (t.doings.set doer .gone)[h.doer]? = _ ∨ (t.doings.set doer .gone)[h.doer]? = _
    rw [List.getElem?_set]
    split
    · next same => exact .inr (by rw [if_pos (same ▸ accounted.begun h member)])
    · exact accounted.rests h member m r ended

theorem IsAccounted.step (accounted : t.IsAccounted cfg)
    (actual : ∀ h ∈ t'.past, h.IsActual cfg) (step : Step cfg t e t') : t'.IsAccounted cfg := by
  cases step with
  | rests => exact accounted
  | weather w => exact { accounted with }
  | acts under _ move => exact accounted.acts under actual move
  | begins c => exact accounted.begins c
  | ends doer => exact accounted.gone doer

theorem opening_isAccounted [EmailCheck] (cfg : Shop.Config) (around : Surroundings)
    (stock : Assoc Uuid Int) (sequences : Assoc CalendarDay Int) :
    (opening around stock sequences).IsAccounted cfg where
  begun _ member := nomatch member
  stands _ _ _ now := nomatch now
  bounded _ := Nat.zero_le _
  rests _ member := nomatch member
  ends _ member := nomatch member

theorem run_isAccounted [EmailCheck] (cfg : Shop.Config) (around : Surroundings)
    (stock : Assoc Uuid Int) (sequences : Assoc CalendarDay Int) (events : List Event) :
    ((opening around stock sequences).run cfg events).IsAccounted cfg :=
  run_keeps_actual (opening_isSound around stock sequences) (fun _ member => nomatch member)
    (opening_isAccounted cfg around stock sequences)
    fun _ _ _ _ actual accounted step => accounted.step actual step

/-- **No message is lost.** A delivery begins to deal with its event no more often than it may. If
it ends with the event processed or known, the event is in the ledger and no dead letter was sent;
if it ends dead-lettered, one dead letter was accepted that tells of the last failure and of how
many there were, one if the message could not be read and else one for each try; and if it ends
with a failure nothing was sent. Where the event was not dealt with, the book is left as it was, as
long as the store fails before it does anything. -/
theorem nothing_lost (cfg : Shop.Config) (tries : Nat) (initialDelay maxDelay : Span)
    (service : String) (around : Surroundings) (stock : Assoc Uuid Int)
    (sequences : Assoc CalendarDay Int) (events : List Event) :
    let cfg := { cfg with delivery := .ofTries tries initialDelay maxDelay service }
    let t := (opening around stock sequences).run cfg events
    (∀ n, triesIn (t.doneBy n) ≤ max 1 tries) ∧
    ∀ h ∈ t.past, ∀ m r, h.after = .delivery m (.done r) →
      Ends m (t.doneBy h.doer) t.shop.book r := by
  intro cfg t
  have accounted : t.IsAccounted cfg := run_isAccounted cfg around stock sequences events
  refine ⟨fun n => ?_, accounted.ends⟩
  have bounded := accounted.bounded n
  have allowed : cfg.delivery.retry.maxRetries = max 1 tries - 1 := rfl
  omega

end OrderFlow.Traffic
