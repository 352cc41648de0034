import OrderFlow.Email
import OrderFlow.Proofs.Order.Searches
import OrderFlow.Proofs.Traffic.Past
import OrderFlow.Proofs.Traffic.Recovery
import OrderFlow.Proofs.Traffic.Settlement

/-!
What attempts to pay report. An attempt that has handed its outcome to the store reports that
outcome, whatever the store has made of it. By then the payment is settled, once and for all, but
perhaps by somebody else: a payment that the attempt has still found pending carries the reported
outcome, and one that was settled in the meantime carries another (`reports_unless_overtaken`). A
sweep counts what its attempts report.
-/
namespace OrderFlow

/-- A transaction tells how an outcome ended. -/
structure PaymentTransaction.Carries (tx : PaymentTransaction) (o : PaymentOutcome) : Prop where
  status : tx.status = .ofResult o.result
  external : tx.externalTransactionId = o.externalTransactionId
  reason : tx.failureReason = o.failureReason

namespace OrderBook
variable {now : Instant} {b b' : OrderBook} {o : PaymentOutcome}

/-- Once an outcome is applied, its event has been dealt with. -/
theorem finalize_known {s : Settlement} (applied : b.finalize o now = .ok (s, b')) :
    b'.isProcessed o.eventId = true := by
  rcases finalize_notes applied with ⟨_, rfl, known⟩ | ⟨_, _, _, processed⟩
  · exact known
  · rw [isProcessed, processed, Assoc.has, Assoc.find?_insert, if_pos rfl]
    rfl

/-- The event of an outcome that is there to be applied is dealt with for the first time when its
payment is settled. -/
theorem Change.notes {e? : Option OrderCreated} (change : Change now (some o) e? b b')
    (none : e? = none) (new : b.isProcessed o.eventId = false)
    (known : b'.isProcessed o.eventId = true) : b'.IsSettled o.orderId := by
  cases change with
  | posts | moves => cases new.symm.trans known
  | creates mine => cases none.symm.trans mine
  | applies mine applied =>
    cases mine
    rcases finalize_cases applied with ⟨order, tx, tx', settled⟩ | rfl | ⟨tx, found, done, rfl⟩
    · exact settled.isSettled
    · cases new.symm.trans known
    · exact ⟨tx, found, done⟩

end OrderBook

/-- What is about to apply an outcome is not about to enter an order. -/
theorem Doing.entry?_of_outcome? {d : Doing} {o : PaymentOutcome} (mine : d.outcome? = some o) :
    d.entry? = none := by
  cases d with
  | delivery m p => cases p <;> first | rfl | cases mine
  | _ => rfl

namespace Payment
variable {cfg : Config} {d d' : OrderDesk} {o : PaymentOutcome}

/-- An attempt ends with an outcome only by handing it to the store. -/
theorem Move.reports {p p' : Phase} (move : Move cfg d d' p p') (running : p.isDone = false)
    (ended : p' = .done (.ok (some o))) :
    p.settles? = some o ∧ ∃ s, d.Settles d' o (.ok s) := by
  cases move with
  | quits _ nothing =>
    cases ended
    cases nothing
  | settled settles does =>
    cases ended
    exact ⟨settles, _, does⟩
  | rests => cases running
  | _ => cases ended

theorem Sweep.Move.reports {w w' : Sweep} {p : Phase} (move : Sweep.Move cfg d d' w w')
    (under : w.attempt? = some p) (running : p.isDone = false)
    (ended : w'.attempt? = some (.done (.ok (some o)))) :
    p.settles? = some o ∧ ∃ s, d.Settles d' o (.ok s) := by
  cases move with
  | @attempts q p' under' _ move =>
    cases under.symm.trans under'
    exact move.reports running (Option.some.inj ((Sweep.attempt?_with under p').symm.trans ended))
  | turns _ idle => cases idle _ ended

end Payment

/-- The outcome with which an attempt to pay comes to its end while `d` becomes `d'`. -/
def Doing.report? (d d' : Doing) : Option PaymentOutcome :=
  if d.attempt?.any (!·.isDone) then
    d'.attempt?.bind fun p => p.result?.bind Payment.outcome?
  else none

/-- The answer of a sweep that is at its end. -/
def Doing.swept? : Doing → Option Nat
  | .sweep (.done (.ok n)) => some n
  | _ => none

theorem Doing.of_swept {d : Doing} {n : Nat} (swept : d.swept? = some n) :
    d = .sweep (.done (.ok n)) := by
  unfold swept? at swept
  split at swept
  · rw [Option.some.inj swept]
  · cases swept

/-- The outcome that is reported when something was done. -/
def Happening.report? (h : Happening) : Option PaymentOutcome := h.before.report? h.after

theorem Doing.report?_eq_some {d d' : Doing} {o : PaymentOutcome}
    (reports : d.report? d' = some o) :
    ∃ p, d.attempt? = some p ∧ p.isDone = false ∧
      d'.attempt? = some (.done (.ok (some o))) := by
  unfold report? at reports
  split at reports
  · next running =>
    obtain ⟨p, under, running⟩ := (Option.any_eq_true _ _).mp running
    obtain ⟨q, under', ended⟩ := Option.bind_eq_some_iff.mp reports
    obtain ⟨r, result, outcome⟩ := Option.bind_eq_some_iff.mp ended
    refine ⟨p, under, by simpa using running, under'.trans ?_⟩
    cases q <;> cases result
    cases r with
    | error => cases outcome
    | ok o' =>
      cases outcome
      rfl
  · cases reports

/-- What ends an attempt with an outcome was about to apply it, and has it applied. -/
theorem Doing.Move.reports [EmailCheck] {cfg : Shop.Config} {s s' : Shop} {d d' : Doing}
    {o : PaymentOutcome} (move : d.Move cfg s d' s') (reports : d.report? d' = some o) :
    d.outcome? = some o ∧ ∃ r, s.book.finalize o s.around.now = .ok (r, s'.book) := by
  obtain ⟨p, under, running, ended⟩ := Doing.report?_eq_some reports
  have applied {desk : OrderDesk} (does : ∃ r, s.orderDesk.Settles desk o (.ok r)) :
      ∃ r, s.book.finalize o s.around.now = .ok (r, desk.book) := by
    obtain ⟨r, ⟨⟨_, failed⟩, _⟩ | ⟨r', book, applied, _, writes⟩⟩ := does
    · cases failed
    · exact ⟨r', writes.book ▸ applied⟩
  cases move with
  | attempt move =>
    cases under
    obtain ⟨settles, does⟩ := move.reports running (Option.some.inj ended)
    exact ⟨settles, applied does⟩
  | sweep move =>
    obtain ⟨settles, does⟩ := move.reports under running ended
    refine ⟨?_, applied does⟩
    have under : Payment.Sweep.attempt? _ = some p := under
    simp only [Doing.outcome?, under, Option.bind_some, settles]
  | _ => cases under

namespace Traffic
variable {_ : EmailCheck} {cfg : Shop.Config} {t t' : Traffic} {e : Event}

/-- The event of an outcome has been dealt with by something that was not about to apply this
outcome: its identifier was used for something else. -/
def IsTaken (t : Traffic) (o : PaymentOutcome) : Prop :=
  ∃ h ∈ t.past, h.before.outcome? ≠ some o ∧ h.earlier.book.isProcessed o.eventId = false ∧
    h.later.book.isProcessed o.eventId = true

/-- Where the event of an outcome has been dealt with, its payment is settled; and what was
reported has a payment that was settled by then and has stayed as it was. -/
structure IsReported (t : Traffic) : Prop where
  noted : ∀ o, t.shop.book.isProcessed o.eventId = true →
    t.IsTaken o ∨ t.shop.book.IsSettled o.orderId
  reported : ∀ h ∈ t.past, ∀ o, h.report? = some o → t.IsTaken o ∨
    ∃ tx, h.later.book.findPayment o.orderId = some tx ∧ tx.status ≠ .pending ∧
      t.shop.book.findPayment o.orderId = some tx

theorem IsTaken.acted {o : PaymentOutcome} (taken : t.IsTaken o) (doer : Nat) (d d' : Doing)
    (later : Shop) : (t.acted doer d d' later).IsTaken o := by
  obtain ⟨h, member, used⟩ := taken
  exact ⟨h, List.mem_append_left _ member, used⟩

theorem IsReported.acts (reported : t.IsReported) (paired : t.shop.book.IsPaired) {doer : Nat}
    {d d' : Doing} {later : Shop} (move : d.Move cfg t.shop d' later) :
    (t.acted doer d d' later).IsReported := by
  have change := move.changes
  have noted (o : PaymentOutcome) (known : later.book.isProcessed o.eventId = true) :
      (t.acted doer d d' later).IsTaken o ∨ later.book.IsSettled o.orderId := by
    by_cases old : t.shop.book.isProcessed o.eventId = true
    · refine (reported.noted o old).imp (·.acted doer d d' later) ?_
      rintro ⟨tx, found, done⟩
      exact ⟨tx, change.settled_stays paired found done, done⟩
    · have new : t.shop.book.isProcessed o.eventId = false := by simpa using old
      by_cases mine : d.outcome? = some o
      · rw [mine] at change
        exact .inr (change.notes (Doing.entry?_of_outcome? mine) new known)
      · exact .inl ⟨⟨doer, t.runOf doer d, d, d', t.shop, later⟩,
          List.mem_append_right _ (List.mem_singleton_self _), mine, new, known⟩
  refine ⟨noted, fun h member o reports => ?_⟩
  rcases List.mem_append.mp member with old | last
  · refine (reported.reported h old o reports).imp (·.acted doer d d' later) ?_
    rintro ⟨tx, found, done, stays⟩
    exact ⟨tx, found, done, change.settled_stays paired stays done⟩
  · cases List.mem_singleton.mp last
    obtain ⟨-, r, applied⟩ := move.reports reports
    refine (noted o (OrderBook.finalize_known applied)).imp_right ?_
    rintro ⟨tx, found, done⟩
    exact ⟨tx, found, done, found⟩

theorem run_isReported [EmailCheck] (cfg : Shop.Config) (around : Surroundings)
    (stock : Assoc Uuid Int) (sequences : Assoc CalendarDay Int) (events : List Event) :
    ((opening around stock sequences).run cfg events).IsReported := by
  refine (run_keeps_all (P := fun t => t.IsReported ∧ t.shop.book.IsPaired)
    (opening_isSound around stock sequences)
    ⟨⟨(fun _ known => nomatch known), fun _ member => nomatch member⟩, fun _ _ => rfl⟩ ?_).1
  rintro t e t' - ⟨reported, paired⟩ step
  obtain ⟨_, _, change⟩ := step.book
  refine ⟨?_, change.paired paired⟩
  cases step with
  | rests | begins | ends | weather => exact ⟨reported.noted, reported.reported⟩
  | acts _ _ move => exact reported.acts paired move

/-- What an attempt reports whose payment was still pending has settled the payment. -/
theorem settlement_of_report {h : Happening} {o : PaymentOutcome}
    (move : h.before.Move cfg h.earlier h.after h.later) (reports : h.report? = some o)
    (pending : (h.earlier.book.findPayment o.orderId).any (·.status = .pending) = true)
    (settled : h.later.book.IsSettled o.orderId) :
    h.settlement o.orderId = [(o, h.earlier.around.now)] := by
  obtain ⟨mine, -⟩ := move.reports reports
  obtain ⟨tx, found, done⟩ := settled
  have ends : ¬ (h.later.book.findPayment o.orderId).any (·.status = .pending) = true := by
    simpa [found] using done
  rw [Happening.settlement, OrderBook.settlement, if_pos ⟨pending, ends⟩, mine]
  rfl

/-- Whatever was reported, the payment carries the one outcome that has settled it. -/
theorem report_settled (accounts : ∀ x, t.shop.book.Account x (t.settlements x))
    (continuous : t.IsContinuous cfg) (reported : t.IsReported) {h : Happening}
    (member : h ∈ t.past) {o : PaymentOutcome} (reports : h.report? = some o) :
    t.IsTaken o ∨ ∃ tx o' time, h.later.book.findPayment o.orderId = some tx ∧
      tx.status ≠ .pending ∧ tx.Carries o' ∧ t.settlements o.orderId = [(o', time)] ∧
      ((h.earlier.book.findPayment o.orderId).any (·.status = .pending) = true → o' = o) := by
  refine (reported.reported h member o reports).imp_right ?_
  rintro ⟨tx, found, done, stays⟩
  have account := accounts o.orderId
  generalize applied : t.settlements o.orderId = settlements at account
  cases account with
  | unknown _ noPayment => cases noPayment.symm.trans stays
  | waiting _ ofPayment _ pending =>
    cases ofPayment.symm.trans stays
    exact absurd pending done
  | @settled _ _ o' time _ ofPayment _ _ result external reason =>
    cases ofPayment.symm.trans stays
    refine ⟨tx, o', time, found, done, ⟨result, external, reason⟩, rfl, fun pending => ?_⟩
    have mine := settlement_of_report (continuous.moved h member) reports pending ⟨tx, found, done⟩
    have listed : (o, h.earlier.around.now) ∈ t.settlements o.orderId :=
      List.mem_flatMap.mpr ⟨h, member, mine ▸ List.mem_singleton_self _⟩
    rw [applied] at listed
    exact (congrArg Prod.fst (List.mem_singleton.mp listed)).symm

end Traffic

/-! ## What a sweep counts -/

namespace Payment

/-- How many payments a sweep takes for settled so far, none if it has failed. -/
def Sweep.counted? : Sweep → Option Nat
  | .seekingStalled => some 0
  | .seekingUnsettled _ settled => some settled
  | .charging attempt _ _ settled | .expiring attempt _ settled =>
    some (attempt.result?.elim settled (count settled))
  | .done result => result.toOption

theorem Sweep.count_eq (settled : Nat) (r : Result) :
    count settled r = settled + (outcome? r).toList.length := by
  match r with
  | .error _ | .ok none | .ok (some _) => rfl

/-- The count of a sweep grows by one with every outcome that its attempts report. -/
def Sweep.Counts (w w' : Sweep) : Prop :=
  ∀ n', w'.counted? = some n' → ∃ n, w.counted? = some n ∧
    n' = n + ((Doing.sweep w).report? (.sweep w')).toList.length

theorem Sweep.search_counts {w : Sweep} {n : Nat} (idle : w.attempt? = none)
    (counted : w.counted? = some n) (cutoff : Instant)
    (find : Instant → StateM OrderDesk (Except OrderError (List Uuid))) {next : List Uuid → Sweep}
    (goesOn : ∀ ids, (next ids).counted? = some n) (d : OrderDesk) :
    Yields (Sweep.search cutoff find next) d fun w' _ => w.Counts w' := by
  have silent (w' : Sweep) : (Doing.sweep w).report? (.sweep w') = none := by
    simp [Doing.report?, Doing.attempt?, idle]
  unfold Sweep.search
  split
  · exact .returned fun _ none => nomatch none
  · refine Yields.bind (P := fun _ _ => True) trivial fun r d' _ => ?_
    cases r with
    | error e => exact .returned fun _ none => nomatch none
    | ok ids =>
      refine .returned fun n' counted' => ⟨n, counted, ?_⟩
      rw [silent]
      exact Option.some.inj (counted'.symm.trans (goesOn ids))

theorem Sweep.step_counts (cfg : Config) (r : Recovery) (w : Sweep) (d : OrderDesk) :
    Yields (w.step cfg r) d fun w' _ => w.Counts w' := by
  have charges (start : Instant) (n : Nat) (ids : List Uuid) :
      (charge start n ids).counted? = some n := by cases ids <;> rfl
  have expires (n : Nat) (ids : List Uuid) : (expire n ids).counted? = some n := by
    cases ids <;> rfl
  have attempted {p p' : Phase} (running : p.isDone = false) (n : Nat) :
      (p'.result?.elim n (count n)) = p.result?.elim n (count n) +
        (p'.result?.bind outcome?).toList.length := by
    have before : p.result? = none := by cases p <;> first | rfl | cases running
    rw [before]
    cases p'.result? with
    | none => rfl
    | some result => exact count_eq n result
  cases w with
  | seekingStalled =>
    exact Yields.bind (P := fun _ _ => True) trivial fun now d' _ =>
      search_counts rfl rfl _ _ (charges now 0) d'
  | seekingUnsettled start settled => exact search_counts rfl rfl _ _ (expires settled) d
  | done result => exact .returned fun n' counted => ⟨n', counted, rfl⟩
  | charging attempt more start settled =>
    by_cases running : attempt.isDone = false
    · rw [step_charging cfg r running]
      refine Yields.bind (P := fun _ _ => True) trivial fun p' d' _ =>
        .returned fun n' counted => ?_
      refine ⟨_, rfl, (Option.some.inj counted).symm.trans ?_⟩
      simpa [Doing.report?, Doing.attempt?, Sweep.attempt?, running] using attempted running settled
    · obtain ⟨result, rfl⟩ := attempt.isDone_iff.mp (by simpa using running)
      refine .returned fun n' counted => ⟨count settled result, rfl, ?_⟩
      split at counted
      · cases counted
      · rw [charges] at counted
        exact (Option.some.inj counted).symm
  | expiring attempt more settled =>
    by_cases running : attempt.isDone = false
    · rw [step_expiring cfg r running]
      refine Yields.bind (P := fun _ _ => True) trivial fun p' d' _ =>
        .returned fun n' counted => ?_
      refine ⟨_, rfl, (Option.some.inj counted).symm.trans ?_⟩
      simpa [Doing.report?, Doing.attempt?, Sweep.attempt?, running] using attempted running settled
    · obtain ⟨result, rfl⟩ := attempt.isDone_iff.mp (by simpa using running)
      refine .returned fun n' counted => ⟨count settled result, rfl, ?_⟩
      split at counted
      · cases counted
      · rw [expires] at counted
        exact (Option.some.inj counted).symm

end Payment

/-- Nothing but a sweep becomes a sweep, and its count grows with what it reports. -/
theorem Doing.step_counts [EmailCheck] (cfg : Shop.Config) (d : Doing) (s : Shop) :
    Yields (d.step cfg) s fun d' _ => ∀ w', d' = .sweep w' → ∃ w, d = .sweep w ∧ w.Counts w' := by
  have other {α : Type} (act : StateM Shop α) {f : α → Doing} (none : ∀ a w', f a ≠ .sweep w') :
      Yields (do return f (← act)) s fun d' _ =>
        ∀ w', d' = .sweep w' → ∃ w, d = .sweep w ∧ w.Counts w' :=
    Yields.bind (P := fun _ _ => True) trivial fun a _ _ =>
      .returned fun w' same => absurd same (none a w')
  cases d with
  | sweep w =>
    refine (Shop.atOrders_yields (w.step_counts cfg.payment cfg.recovery _)).bind ?_
    rintro w' _ ⟨_, _, counts⟩
    exact .returned fun _ same => ⟨w, rfl, by cases same; exact counts⟩
  | gone => exact .returned fun _ same => nomatch same
  | batch side b => cases side <;> exact other _ (fun _ _ => nofun)
  | _ => exact other _ (fun _ _ => nofun)

namespace Traffic
variable {cfg : Shop.Config} {t : Traffic}

/-- The outcomes that something under way has reported. -/
def reportsBy (t : Traffic) (doer : Nat) : List PaymentOutcome :=
  (t.doneBy doer).filterMap (·.report?)

/-- Every sweep has counted what it has reported. -/
def IsTallied (t : Traffic) : Prop :=
  ∀ doer w n, t.doings[doer]? = some (.sweep w) → w.counted? = some n →
    n = (t.reportsBy doer).length

theorem reportsBy_acted (n doer : Nat) (d d' : Doing) (later : Shop) :
    (t.acted doer d d' later).reportsBy n =
      t.reportsBy n ++ if doer = n then (d.report? d').toList else [] := by
  rw [reportsBy, doneBy_acted]
  split
  · rw [List.filterMap_append]
    cases reports : d.report? d' <;> simp [reportsBy, Happening.report?, reports]
  · rw [List.append_nil, reportsBy]

/-- What is yet to begin has reported nothing. -/
theorem IsContinuous.reportsBy_new [EmailCheck] (continuous : t.IsContinuous cfg) :
    t.reportsBy t.doings.length = [] := by
  have none_done : t.doneBy t.doings.length = [] := by
    refine List.filter_eq_nil_iff.mpr fun h member => ?_
    obtain ⟨d, at_doer, -⟩ := continuous.current h member
    have below := (List.getElem?_eq_some_iff.mp at_doer).1
    simpa using Nat.ne_of_lt below
  rw [reportsBy, none_done]
  rfl

theorem IsTallied.acts (tallied : t.IsTallied) {doer : Nat} {d d' : Doing} {later : Shop}
    (under : t.doings[doer]? = some d)
    (counts : ∀ w', d' = .sweep w' → ∃ w, d = .sweep w ∧ w.Counts w') :
    (t.acted doer d d' later).IsTallied := by
  intro m w n at_m counted
  rw [reportsBy_acted]
  rcases doings_acted at_m with ⟨rfl, rfl⟩ | ⟨other, at_m⟩ | ⟨p, _, same⟩
  · obtain ⟨w₀, rfl, grows⟩ := counts w rfl
    obtain ⟨n₀, before, rfl⟩ := grows n counted
    rw [tallied _ _ _ under before, if_pos rfl, List.length_append]
  · rw [if_neg (Ne.symm other), List.append_nil]
    exact tallied m w n at_m counted
  · cases same

theorem IsTallied.step [EmailCheck] (tallied : t.IsTallied) (continuous : t.IsContinuous cfg)
    (e : Event) : (t.step cfg e).IsTallied := by
  cases e with
  | call c =>
    intro m w n at_m counted
    have at_m : (t.doings ++ [c.doing])[m]? = some (.sweep w) := at_m
    rw [List.getElem?_append] at at_m
    split at at_m
    · exact tallied m w n at_m counted
    · obtain ⟨first, begins⟩ := List.getElem?_eq_some_iff.mp at_m
      obtain rfl : m = t.doings.length := by
        rw [List.length_singleton] at first
        omega
      simp only [Nat.sub_self, List.getElem_cons_zero] at begins
      cases c <;> cases begins
      cases counted
      exact congrArg List.length continuous.reportsBy_new.symm
  | abandon doer =>
    intro m w n at_m counted
    have at_m : (t.doings.set doer .gone)[m]? = some (.sweep w) := at_m
    rw [List.getElem?_set] at at_m
    split at at_m
    · split at at_m <;> cases at_m
    · exact tallied m w n at_m counted
  | change weather => exact tallied
  | advance doer =>
    simp only [Traffic.step]
    split
    · exact tallied
    · next d under =>
      split
      · exact tallied.acts under (d.step_counts cfg t.shop)
      · exact tallied

theorem run_isTallied [EmailCheck] (cfg : Shop.Config) (around : Surroundings)
    (stock : Assoc Uuid Int) (sequences : Assoc CalendarDay Int) (events : List Event) :
    ((opening around stock sequences).run cfg events).IsTallied := by
  have kept (t : Traffic) (sound : t.IsSound) (continuous : t.IsContinuous cfg)
      (tallied : t.IsTallied) : (t.run cfg events).IsTallied := by
    induction events generalizing t with
    | nil => exact tallied
    | cons e events ih =>
      have step : Step cfg t e (t.step cfg e) := step_cases cfg sound e
      exact ih _ (sound.step step) (continuous.step step) (tallied.step continuous e)
  exact kept _ (opening_isSound around stock sequences)
    (run_isContinuous cfg around stock sequences []) fun _ _ _ none => nomatch none

/-! ## Reports and records -/

/-- **What is reported is recorded unless somebody else was faster.** Whenever an attempt reports an
outcome, its payment is settled and carries the one outcome that has settled it; that is the
reported outcome if the attempt has still found the payment pending. Only where the identifier of
the event was used for something else may the payment be open. The answer of a sweep is the number
of outcomes that its attempts have reported. -/
theorem reports_unless_overtaken [EmailCheck] (cfg : Shop.Config) (around : Surroundings)
    (stock : Assoc Uuid Int) (sequences : Assoc CalendarDay Int) (events : List Event) :
    let t := (opening around stock sequences).run cfg events
    (∀ h ∈ t.past, ∀ o, h.report? = some o → t.IsTaken o ∨
      ∃ tx o' time, h.later.book.findPayment o.orderId = some tx ∧ tx.status ≠ .pending ∧
        tx.Carries o' ∧ t.settlements o.orderId = [(o', time)] ∧
        ((h.earlier.book.findPayment o.orderId).any (·.status = .pending) = true → o' = o)) ∧
      ∀ doer n, t.doings[doer]? = some (.sweep (.done (.ok n))) →
        n = (t.reportsBy doer).length := by
  intro t
  have reported : t.IsReported := run_isReported cfg around stock sequences events
  have continuous : t.IsContinuous cfg := run_isContinuous cfg around stock sequences events
  refine ⟨fun h member o reports => ?_, fun doer n ended => ?_⟩
  · exact report_settled (run_accounts cfg around stock sequences events) continuous reported
      member reports
  · exact run_isTallied cfg around stock sequences events doer _ n ended rfl

instance (t : Traffic) (o : PaymentOutcome) : Decidable (t.IsTaken o) :=
  inferInstanceAs (Decidable (∃ h ∈ t.past, _))

/-- An attempt waits for the gateway when a sweep, a minute later, gives its payment up as never
settled; before the sweep has written this down the gateway confirms, and the attempt settles the
payment. -/
def racing : List Event :=
  [.advance 0, .advance 0, .advance 1, .advance 1, .advance 1, .advance 1,
    .change { now := .ofMillis 61000 }, .call .recover, .advance 2, .advance 2, .advance 2,
    .advance 2, .advance 1, .advance 1, .advance 2, .advance 2]

/-- The shop after all that. -/
def raced : Traffic :=
  (opening { now := ⟨0⟩ } [] []).run minutely
    (.call (.deliver placedMessage) :: .advance 0 :: racing)

theorem raced_eq :
    raced = (arrived { now := ⟨0⟩ } placedMessage placed).run minutely racing := by
  rw [raced, run_arrived _ _ _ received_placed]

/-- The attempt reports what it has recorded. -/
theorem report_of_the_faster :
    ∃ h ∈ raced.past, ∃ o, h.report? = some o ∧ o.result = .success ∧ ¬ raced.IsTaken o ∧
      ∃ tx time, h.later.book.findPayment o.orderId = some tx ∧ tx.status ≠ .pending ∧
        tx.Carries o ∧ raced.settlements o.orderId = [(o, time)] := by
  have seen : raced.past.any (fun h => h.report?.any fun o => decide (o.result = .success ∧
      ¬ raced.IsTaken o ∧
        (h.earlier.book.findPayment o.orderId).any (·.status = .pending) = true)) = true := by
    rw [raced_eq]
    decide +kernel
  obtain ⟨h, member, reports⟩ := List.any_eq_true.mp seen
  obtain ⟨o, reports, holds⟩ := (Option.any_eq_true _ _).mp reports
  obtain ⟨success, free, pending⟩ := of_decide_eq_true holds
  have settled := (reports_unless_overtaken minutely { now := ⟨0⟩ } [] []
    (.call (.deliver placedMessage) :: .advance 0 :: racing)).1 h member o reports
  rw [← raced] at settled
  obtain ⟨tx, o', time, found, done, carries, settlements, mine⟩ := settled.resolve_left free
  cases mine pending
  exact ⟨h, member, o, reports, success, free, tx, time, found, done, carries, settlements⟩

/-- The sweep reports a failure where a success is recorded, and counts a payment that it has not
settled. -/
theorem report_of_the_slower :
    (∃ h ∈ raced.past, ∃ o tx, h.report? = some o ∧ o.result = .failed ∧ ¬ raced.IsTaken o ∧
      h.later.book.findPayment o.orderId = some tx ∧ tx.status = .success ∧ ¬ tx.Carries o) ∧
      raced.doings[2]? = some (.sweep (.done (.ok 1))) ∧
      ∀ h ∈ raced.past, h.doer = 2 → h.settlement placed.orderId = [] := by
  have seen : raced.past.any (fun h => h.report?.any fun o => decide (o.result = .failed ∧
      ¬ raced.IsTaken o) &&
        (h.later.book.findPayment o.orderId).any (·.status = .success)) = true := by
    rw [raced_eq]
    decide +kernel
  have idle : ∀ h ∈ raced.past, h.doer = 2 → h.settlement placed.orderId = [] := by
    rw [raced_eq]
    decide +kernel
  have ended : raced.doings[2]?.bind Doing.swept? = some 1 := by
    rw [raced_eq]
    decide +kernel
  refine ⟨?_, ?_, idle⟩
  · obtain ⟨h, member, reports⟩ := List.any_eq_true.mp seen
    obtain ⟨o, reports, holds⟩ := (Option.any_eq_true _ _).mp reports
    obtain ⟨fails, found⟩ := Bool.and_eq_true_iff.mp holds
    obtain ⟨failed, free⟩ := of_decide_eq_true fails
    obtain ⟨tx, found, success⟩ := (Option.any_eq_true _ _).mp found
    have success : tx.status = .success := of_decide_eq_true success
    refine ⟨h, member, o, tx, reports, failed, free, found, success, fun carries => ?_⟩
    have told := carries.status
    rw [success, failed] at told
    cases told
  · obtain ⟨d, under, ended⟩ := Option.bind_eq_some_iff.mp ended
    rw [under, Doing.of_swept ended]

end Traffic

end OrderFlow
