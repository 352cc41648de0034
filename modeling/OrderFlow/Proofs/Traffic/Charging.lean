import OrderFlow.Proofs.Traffic.Past
import OrderFlow.Proofs.Traffic.Stories

/-!
Charges in traffic. However many attempts there are to pay for an order, one at most calls the
gateway: the one that has moved the order from `pending` to `processing`, which only one of them can
do, since no order becomes `pending` again. What this attempt does is told by its story, and what is
stored of it in the end is what it has done (`charged_at_most_once`).
-/
namespace OrderFlow.Traffic
variable {_ : EmailCheck} {cfg : Shop.Config} {t t' : Traffic} {e : Event}

/-- What belongs to one attempt, the first thing first. -/
def trace (t : Traffic) (run : Nat) : List Happening := t.past.filter (·.run = run)

/-- What the past tells of the attempts to pay. -/
structure IsChronicled (cfg : Shop.Config) (t : Traffic) : Prop where
  stories : ∀ k, ∃ p, Story cfg.payment.policy (t.trace k) p
  current : ∀ (n : Nat) (d : Doing) (p : Payment.Phase), t.doings[n]? = some d →
    d.attempt? = some p → p.isFresh = false →
    ∃ last, (t.doneBy n).getLast? = some last ∧ Story cfg.payment.policy (t.trace last.run) p
  runs : ∀ h ∈ t.past, h.run < t.past.length
  doers : ∀ h ∈ t.past, ∀ h' ∈ t.past, h.run = h'.run → h.doer = h'.doer
  logged : t.shop.gateway.calls = callsIn t.past
  /-- Who has moved an order was the first to do so. -/
  left : ∀ h ∈ t.past, ∀ x, h.Claims x →
    ∃ order, t.shop.book.findOrder x = some order ∧ order.status ≠ .pending
  once : t.past.Pairwise fun h h' => ∀ x, h.Claims x → ¬ h'.Claims x

theorem trace_length (runs : ∀ h ∈ t.past, h.run < t.past.length) : t.trace t.past.length = [] := by
  refine List.filter_eq_nil_iff.mpr fun h member same => ?_
  exact absurd (of_decide_eq_true same) (Nat.ne_of_lt (runs h member))

/-- What a doing does next belongs to the attempt that it has begun, or to a new one. -/
theorem IsChronicled.runOf_cases (chronicled : t.IsChronicled cfg) {doer : Nat} {d : Doing}
    (under : t.doings[doer]? = some d) :
    (∃ last p, (t.doneBy doer).getLast? = some last ∧ t.runOf doer d = last.run ∧
        d.attempt? = some p ∧ Story cfg.payment.policy (t.trace last.run) p) ∨
      t.runOf doer d = t.past.length ∧ ∀ p, d.attempt? = some p → p.isFresh = true := by
  cases attempt : d.attempt? with
  | none =>
    refine .inr ⟨?_, fun _ same => by cases same⟩
    simp only [runOf, attempt]
  | some p =>
    cases fresh : p.isFresh with
    | true =>
      refine .inr ⟨?_, fun q same => by cases same; exact fresh⟩
      simp only [runOf, attempt]
      cases (t.doneBy doer).getLast? with
      | none => rfl
      | some last => exact if_pos fresh
    | false =>
      obtain ⟨last, done, story⟩ := chronicled.current doer d p under attempt fresh
      refine .inl ⟨last, p, done, ?_, rfl, story⟩
      simp [runOf, attempt, done, fresh]

theorem mem_of_doneBy {doer : Nat} {last : Happening}
    (done : (t.doneBy doer).getLast? = some last) : last ∈ t.past ∧ last.doer = doer := by
  obtain ⟨member, same⟩ := List.mem_filter.mp (List.mem_of_getLast? done)
  exact ⟨member, of_decide_eq_true same⟩

/-- The story so far of the attempt that goes on. -/
theorem IsChronicled.story (chronicled : t.IsChronicled cfg) {doer : Nat} {d : Doing}
    (under : t.doings[doer]? = some d) :
    ∃ p, Story cfg.payment.policy (t.trace (t.runOf doer d)) p ∧
      ∀ q, d.attempt? = some q → q = p := by
  rcases chronicled.runOf_cases under with ⟨last, p, done, same, attempt, story⟩ | ⟨new, fresh⟩
  · refine ⟨p, same ▸ story, fun q under => ?_⟩
    rw [attempt] at under
    cases under
    rfl
  · rw [new, trace_length chronicled.runs]
    cases attempt : d.attempt? with
    | none => exact ⟨.reading .charge default, .empty _ rfl, fun _ same => by cases same⟩
    | some p => exact ⟨p, .empty _ (fresh p attempt), fun q same => by cases same; rfl⟩

/-- The first to move an order leaves nothing for others. -/
theorem Step.left (step : Step cfg t e t')
    (left : ∀ h ∈ t.past, ∀ x, h.Claims x →
      ∃ order, t.shop.book.findOrder x = some order ∧ order.status ≠ .pending)
    {h : Happening} (member : h ∈ t'.past) {x : Uuid} (claims : h.Claims x) :
    ∃ order, t'.shop.book.findOrder x = some order ∧ order.status ≠ .pending := by
  have old (member : h ∈ t.past) :
      ∃ order, t'.shop.book.findOrder x = some order ∧ order.status ≠ .pending := by
    obtain ⟨order, found, moved⟩ := left h member x claims
    obtain ⟨o?, e?, change⟩ := step.book
    obtain ⟨order', found', -⟩ := change.order_stays found
    exact ⟨order', found', change.leaves_pending found found' moved⟩
  cases step with
  | rests | begins | ends | weather => exact left h member x claims
  | acts under ready move =>
    rcases List.mem_append.mp member with past | new
    · exact old past
    · rw [List.mem_singleton.mp new] at claims
      obtain ⟨-, order, found, moved⟩ := claims
      exact ⟨order, found, by rw [moved]; nofun⟩

/-- The traffic goes on without anything being done. -/
theorem IsChronicled.of_same (chronicled : t.IsChronicled cfg) (past : t'.past = t.past)
    (doings : ∀ (n : Nat) (d : Doing) (p : Payment.Phase), t'.doings[n]? = some d →
      d.attempt? = some p → p.isFresh = false → t.doings[n]? = some d)
    (calls : t'.shop.gateway.calls = t.shop.gateway.calls) (book : t'.shop.book = t.shop.book) :
    t'.IsChronicled cfg where
  stories := by
    simp only [trace, past]
    exact chronicled.stories
  current n d p under attempt begun := by
    have under := doings n d p under attempt begun
    simp only [trace, doneBy, past]
    exact chronicled.current n d p under attempt begun
  runs := by
    rw [past]
    exact chronicled.runs
  doers := by
    rw [past]
    exact chronicled.doers
  logged := by
    rw [past, calls]
    exact chronicled.logged
  left := by
    rw [past, book]
    exact chronicled.left
  once := by
    rw [past]
    exact chronicled.once

section
variable {doer : Nat} {d d' : Doing} {later : Shop}

/-- What is done is told where it belongs, and nowhere else. -/
theorem trace_acted (k : Nat) :
    (t.acted doer d d' later).trace k =
      if t.runOf doer d = k then t.trace k ++ [⟨doer, t.runOf doer d, d, d', t.shop, later⟩]
      else t.trace k := by
  simp only [trace, acted, List.filter_append]
  split
  · next same => simp [same]
  · next other => simp [other]

theorem doneBy_acted (n : Nat) :
    (t.acted doer d d' later).doneBy n =
      if doer = n then t.doneBy n ++ [⟨doer, t.runOf doer d, d, d', t.shop, later⟩]
      else t.doneBy n := by
  simp only [doneBy, acted, List.filter_append]
  split
  · next same => simp [same]
  · next other => simp [other]

/-- Nobody else has done anything for the attempt that goes on. -/
theorem IsChronicled.own (chronicled : t.IsChronicled cfg) (under : t.doings[doer]? = some d)
    {h : Happening} (member : h ∈ t.past) (same : h.run = t.runOf doer d) : h.doer = doer := by
  rcases chronicled.runOf_cases under with ⟨last, -, done, ofLast, -, -⟩ | ⟨new, -⟩
  · obtain ⟨past, ofDoer⟩ := mem_of_doneBy done
    rw [← ofDoer]
    exact chronicled.doers h member last past (same.trans ofLast)
  · rw [new] at same
    exact absurd same (Nat.ne_of_lt (chronicled.runs h member))

theorem IsChronicled.runOf_le (chronicled : t.IsChronicled cfg)
    (under : t.doings[doer]? = some d) : t.runOf doer d ≤ t.past.length := by
  rcases chronicled.runOf_cases under with ⟨last, -, done, same, -, -⟩ | ⟨new, -⟩
  · rw [same]
    exact Nat.le_of_lt (chronicled.runs last (mem_of_doneBy done).1)
  · exact Nat.le_of_eq new

/-- The story of the run that goes on, and where the doing stands in it. -/
theorem IsChronicled.goes_on (chronicled : t.IsChronicled cfg) (sound : t.IsSound)
    (under : t.doings[doer]? = some d) (move : d.Move cfg t.shop d' later) :
    ∃ p', Story cfg.payment.policy
      (t.trace (t.runOf doer d) ++ [⟨doer, t.runOf doer d, d, d', t.shop, later⟩]) p' ∧
      ∀ q, d'.attempt? = some q → q.isFresh = false → q = p' := by
  obtain ⟨p, story, ofDoing⟩ := chronicled.story under
  rcases move.moves_or_idle sound.gateway doer (t.runOf doer d) with ⟨q, q', moves⟩ | idle
  · cases ofDoing q moves.before
    refine ⟨q', story.move moves, fun r after _ => ?_⟩
    exact Option.some.inj (after.symm.trans moves.after)
  · refine ⟨p, story.idle idle, fun q after begun => ?_⟩
    rw [idle.new q after] at begun
    cases begun

/-- **Whatever is done goes on with the story that it belongs to.** -/
theorem IsChronicled.acts (chronicled : t.IsChronicled cfg) (sound : t.IsSound)
    (under : t.doings[doer]? = some d) (ready : d.isReady t.shop.around.now = true)
    (move : d.Move cfg t.shop d' later) : (t.acted doer d d' later).IsChronicled cfg := by
  obtain ⟨p', grown, stands⟩ := chronicled.goes_on sound under move
  refine ⟨fun k => ?_, fun n e q now attempt begun => ?_, fun h member => ?_, ?_, ?_, ?_, ?_⟩
  · rw [trace_acted]
    split
    · next same => exact ⟨p', same ▸ grown⟩
    · exact chronicled.stories k
  -- The doer itself, one that stands where it stood, or an attempt that is only now dispatched.
  · rcases doings_acted now with ⟨rfl, rfl⟩ | ⟨other, before⟩ | ⟨r, task, rfl⟩
    · refine ⟨⟨n, t.runOf n d, d, e, t.shop, later⟩, ?_, ?_⟩
      · rw [doneBy_acted, if_pos rfl, List.getLast?_concat]
      · rw [trace_acted, if_pos rfl, stands q attempt begun]
        exact grown
    · obtain ⟨last, done, told⟩ := chronicled.current n e q before attempt begun
      obtain ⟨past, ofDoer⟩ := mem_of_doneBy done
      refine ⟨last, ?_, ?_⟩
      · rw [doneBy_acted, if_neg (Ne.symm other)]
        exact done
      · rw [trace_acted, if_neg fun same => ?_]
        · exact told
        · exact other (ofDoer.symm.trans (chronicled.own under past same.symm))
    · obtain ⟨id, rfl⟩ := sound.dispatched move task
      cases attempt
      cases begun
  · rw [show (t.acted doer d d' later).past.length = t.past.length + 1 by simp [acted]]
    rcases List.mem_append.mp member with old | new
    · exact Nat.lt_succ_of_lt (chronicled.runs h old)
    · rw [List.mem_singleton.mp new]
      exact Nat.lt_succ_of_le (chronicled.runOf_le under)
  · intro h member h' member' same
    rcases List.mem_append.mp member with old | new <;>
      rcases List.mem_append.mp member' with old' | new'
    · exact chronicled.doers h old h' old' same
    · rw [List.mem_singleton.mp new'] at same ⊢
      exact chronicled.own under old same
    · rw [List.mem_singleton.mp new] at same ⊢
      exact (chronicled.own under old' same.symm).symm
    · rw [List.mem_singleton.mp new, List.mem_singleton.mp new']
  · show later.gateway.calls = callsIn (t.past ++ [_])
    rw [callsIn_snoc, ← chronicled.logged]
    exact move.log sound.gateway doer (t.runOf doer d)
  · exact fun h member x claims => (Step.acts under ready move).left chronicled.left member claims
  · refine List.pairwise_append.mpr ⟨chronicled.once, List.pairwise_singleton _ _, ?_⟩
    intro h old h' new x claims claims'
    rw [List.mem_singleton.mp new] at claims'
    obtain ⟨⟨order, found, pending⟩, -⟩ := claims'
    obtain ⟨order', found', moved⟩ := chronicled.left h old x claims
    rw [show t.shop.book.findOrder x = some order from found] at found'
    cases found'
    exact moved pending

end

theorem IsChronicled.step (chronicled : t.IsChronicled cfg) (sound : t.IsSound)
    (step : Step cfg t e t') : t'.IsChronicled cfg := by
  cases step with
  | rests => exact chronicled
  | begins c =>
    refine chronicled.of_same rfl (fun n d p under attempt begun => ?_) rfl rfl
    rw [List.getElem?_append] at under
    split at under
    · exact under
    · have new := List.mem_singleton.mp (List.mem_of_getElem? under)
      rw [new] at attempt
      cases c <;> cases attempt
      cases begun
  | ends doer =>
    refine chronicled.of_same rfl (fun n d p under attempt begun => ?_) rfl rfl
    rw [List.getElem?_set] at under
    split at under
    · split at under
      · cases under
        cases attempt
      · cases under
    · exact under
  | weather w => exact chronicled.of_same rfl (fun _ _ _ under _ _ => under) rfl rfl
  | acts under ready move => exact chronicled.acts sound under ready move

theorem opening_isChronicled (cfg : Shop.Config) (around : Surroundings) (stock : Assoc Uuid Int)
    (sequences : Assoc CalendarDay Int) :
    (opening around stock sequences).IsChronicled cfg where
  stories _ := ⟨.reading .charge default, .empty _ rfl⟩
  current _ _ _ under := by cases under
  runs _ member := by cases member
  doers _ member := by cases member
  logged := rfl
  left _ member := by cases member
  once := .nil

theorem run_isChronicled [EmailCheck] (cfg : Shop.Config) (around : Surroundings)
    (stock : Assoc Uuid Int) (sequences : Assoc CalendarDay Int) (events : List Event) :
    ((opening around stock sequences).run cfg events).IsChronicled cfg :=
  run_keeps_all (opening_isSound around stock sequences)
    (opening_isChronicled cfg around stock sequences)
    fun _ _ _ sound chronicled step => chronicled.step sound step

/-- An order is moved from `pending` to `processing` once at most. -/
theorem IsChronicled.claimed_once (chronicled : t.IsChronicled cfg) {c c' : Happening} {x : Uuid}
    (member : c ∈ t.past) (member' : c' ∈ t.past) (claims : c.Claims x) (claims' : c'.Claims x) :
    c = c' := by
  rcases related_of_pairwise chronicled.once member member' with same | once | once
  · exact same
  · exact absurd claims' (once x claims)
  · exact absurd claims (once x claims')

/-- Who calls the gateway has moved the order before. -/
theorem IsChronicled.claimed (chronicled : t.IsChronicled cfg) {h : Happening}
    {call : Gateway.LoggedCall} (member : h ∈ t.past) (called : call ∈ h.charged) :
    ∃ c ∈ t.past, c.run = h.run ∧ c.Claims call.request.orderId := by
  obtain ⟨p, story⟩ := chronicled.stories h.run
  have told : h ∈ t.trace h.run := List.mem_filter.mpr ⟨member, decide_eq_true rfl⟩
  obtain ⟨a, b, split⟩ := List.append_of_mem told
  obtain ⟨c, before, claims⟩ := story.claimed a h b split call called
  have ofRun : c ∈ t.trace h.run := by
    rw [split]
    exact List.mem_append_left _ before
  obtain ⟨past, same⟩ := List.mem_filter.mp ofRun
  exact ⟨c, past, of_decide_eq_true same, claims⟩

end OrderFlow.Traffic
