import Mathlib.Algebra.Order.Floor.Div
import OrderFlow.Email
import OrderFlow.Proofs.Order.Choices
import OrderFlow.Proofs.Traffic.Serving

/-!
The progress that recovery makes. Where nothing hinders it and nobody else is about, a sweep does
exactly its work (`Swept`): it attempts the stalled payments that it chose by age, then gives up
those of the orders left in process that it chose by age, and leaves everything else alone
(`recover_swept`). So whatever waited at a cut-off is settled as soon as the sweeps had room for all
of it (`recovered_drains`, `recovery_exact`).
-/
namespace OrderFlow

namespace Payment

/-- A sweep that begins at `now` can tell its cut-offs. -/
structure Recovery.Tells (r : Recovery) (now : Instant) : Prop where
  stalled : (now.shift (-r.stalledAfter)).inCalendar = true
  unsettled : (now.shift (-r.unsettledAfter)).inCalendar = true

namespace Sweep
variable {cfg : Config} {r : Recovery} {d : OrderDesk}

/-- The first search of a sweep. -/
theorem seekingStalled_run (cfg : Config)
    (told : (d.around.now.shift (-r.stalledAfter)).inCalendar = true)
    (quiet : d.around.IsQuiet) :
    (seekingStalled.step cfg r).run d = (charge d.around.now 0
      (d.book.stalled (d.around.now.shift (-r.stalledAfter)) r.batchSize), d) := by
  have sought : Yields (seekingStalled.step cfg r) d fun w d' =>
      w = charge d.around.now 0
        (d.book.stalled (d.around.now.shift (-r.stalledAfter)) r.batchSize) ∧ d' = d := by
    refine Yields.bind (P := fun now d' => now = d.around.now ∧ d' = d) ⟨rfl, rfl⟩ ?_
    rintro now d' ⟨rfl, same⟩
    subst same
    exact search_quiet (f := fun c b => b.stalled c r.batchSize) told quiet
  exact Prod.ext sought.1 sought.2

/-- The second search of a sweep, which has begun at `start`. -/
theorem seekingUnsettled_run (cfg : Config) {start : Instant} (settled : Nat)
    (told : (start.shift (-r.unsettledAfter)).inCalendar = true) (quiet : d.around.IsQuiet) :
    ((seekingUnsettled start settled).step cfg r).run d = (expire settled
      (d.book.unsettled (start.shift (-r.unsettledAfter)) r.batchSize), d) := by
  have sought : Yields ((seekingUnsettled start settled).step cfg r) d fun w d' =>
      w = expire settled
        (d.book.unsettled (start.shift (-r.unsettledAfter)) r.batchSize) ∧ d' = d :=
    search_quiet (f := fun c b => b.unsettled c r.batchSize) told quiet
  exact Prod.ext sought.1 sought.2

end Sweep
end Payment

namespace Shop
open Surroundings Payment
variable {cfg : Config} {s s' t : Shop} {x : Uuid} {a₀ final : Surroundings} {b₀ : OrderBook}

/-! ## One sweep -/

/-- What a sweep has done that has gone from the shop `s` to `s'` with the answer `r`: it has made
one attempt for each of the orders `first`, and then given up each of the orders `second`. -/
structure Swept (cfg : Config) (s : Shop) (first second : List Uuid) (r : Except OrderError Nat)
    (s' : Shop) : Prop where
  stalled : OrderBook.Chosen
    (s.book.IsStalled (s.around.now.shift (-cfg.recovery.stalledAfter)))
    cfg.recovery.batchSize.toNat first
  unsettled : OrderBook.Chosen
    (s.book.IsAdrift (s.around.now.shift (-cfg.recovery.unsettledAfter)))
    cfg.recovery.batchSize.toNat second
  attempts : ∃ rs between rs',
    (attemptAll cfg .charge first).run s = (rs, between) ∧
      Served .charge first s rs between ∧
      (attemptAll cfg .expire second).run between = (rs', s') ∧
      Served .expire second between rs' s'
  counts : r = .ok (first.length + second.length)
  charged : ∀ x ∈ first, ∃ o, o.orderId = x ∧ s'.book.Shows o
  expired : ∀ x ∈ second, ∃ o, o.orderId = x ∧ IsExpiry o ∧ s'.book.Shows o
  spared : ∀ x, x ∉ first → x ∉ second → s.book.Spares s'.book x

theorem Served.shows {purpose : Purpose} {ids : List Uuid} {rs : List Result}
    (served : Served purpose ids s rs t) (member : x ∈ ids) :
    ∃ o, o.orderId = x ∧ t.book.Shows o ∧ (purpose = .expire → IsExpiry o) := by
  have outcomes := served.outcomes
  clear served
  induction outcomes with
  | nil => cases member
  | cons one _ ih =>
    rcases List.mem_cons.mp member with rfl | later
    · obtain ⟨o, -, shown⟩ := one
      exact ⟨o, shown⟩
    · exact ih later

/-- The attempts of the first half leave the orders in process as they were. -/
theorem Served.adrift_iff {ids : List Uuid} {rs : List Result} {cutoff cutoff' : Instant}
    (served : Served .charge ids s rs t)
    (stalled : ∀ x ∈ ids, ∃ time, s.book.IsStalled cutoff x time) (x : Uuid) (time : Instant) :
    t.book.IsAdrift cutoff' x time ↔ s.book.IsAdrift cutoff' x time := by
  by_cases member : x ∈ ids
  · obtain ⟨since, stalled⟩ := stalled x member
    obtain ⟨o, rfl, shows, -⟩ := served.shows member
    exact ⟨fun adrift => absurd shows.isSettled adrift.not_settled,
      fun adrift => absurd adrift stalled.not_adrift⟩
  · have spared := served.spares x member
    exact ⟨fun adrift => adrift.spared spared.symm, fun adrift => adrift.spared spared⟩

/-- What a sweep answers that stands at its end. -/
def answerOf (w : Sweep) : Except OrderError Nat :=
  match w with
  | .done result => result
  | _ => .error (.shared .overflow)

/-- How far a sweep through the shop goes at most. -/
def sweepFuel (cfg : Config) (s : Shop) : Nat :=
  Sweep.left cfg.payment.policy s.book.orders.length .seekingStalled + 1

theorem recover_run (cfg : Config) (s : Shop) :
    (recover cfg).run s =
      (answerOf ((sweepOn cfg (sweepFuel cfg s) .seekingStalled).run s).1,
        ((sweepOn cfg (sweepFuel cfg s) .seekingStalled).run s).2) := by
  have followed : (recover cfg).run s =
      (match ((sweepOn cfg (sweepFuel cfg s) .seekingStalled).run s).1 with
        | .done result => (pure result : StateM Shop (Except OrderError Nat))
        | _ => pure (.error (.shared .overflow))).run
          ((sweepOn cfg (sweepFuel cfg s) .seekingStalled).run s).2 := rfl
  rw [followed]
  cases ((sweepOn cfg (sweepFuel cfg s) .seekingStalled).run s).1 <;> rfl

/-- No order is chosen by both searches, so there is room for all that are chosen. -/
theorem room_for_both {first second : List Uuid} {cutoff cutoff' : Instant} {limit : Nat}
    (stalled : OrderBook.Chosen (s.book.IsStalled cutoff) limit first)
    (unsettled : OrderBook.Chosen (s.book.IsAdrift cutoff') limit second) :
    first.length + second.length ≤ s.book.orders.length := by
  have apart : (first ++ second).Nodup := by
    refine List.nodup_append.mpr ⟨stalled.once, unsettled.once, fun x one y other same => ?_⟩
    subst same
    obtain ⟨_, waits⟩ := stalled.waited x one
    obtain ⟨_, adrift⟩ := unsettled.waited x other
    exact waits.not_adrift adrift
  have filed : first ++ second ⊆ s.book.orders.keys := by
    intro x either
    rcases List.mem_append.mp either with one | other
    · obtain ⟨_, _, _, found, -⟩ := stalled.waited x one
      exact OrderBook.mem_keys_of_findOrder found
    · obtain ⟨_, _, _, adrift, -⟩ := unsettled.waited x other
      exact OrderBook.mem_keys_of_findOrder adrift.ofOrder
  have fewer := apart.length_le_of_subset filed
  rwa [List.length_append, Assoc.keys, List.length_map] at fewer

/-- The sweep has fuel for an attempt for each order, and for both searches. -/
theorem sweepFuel_enough (cfg : Config) {n : Nat} (few : n ≤ s.book.orders.length) :
    n * (Sweep.perPayment cfg.payment.policy + 1) + 3 ≤ sweepFuel cfg s := by
  have each : s.book.orders.length ≤ s.book.orders.length * Sweep.perPayment cfg.payment.policy :=
    Nat.le_mul_of_pos_right _ (Nat.succ_pos _)
  have all := Nat.mul_le_mul_right (Sweep.perPayment cfg.payment.policy + 1) few
  rw [Nat.mul_succ s.book.orders.length] at all
  simp only [sweepFuel, Sweep.left]
  omega

section
variable (drawable : cfg.payment.policy.retry.IsDrawable)
  (distinct : final.IsDistinct) (unknown : ∀ id, Fresh a₀ final id → b₀.isProcessed id = false)
include drawable distinct unknown

/-- The first half of a sweep: one attempt for each order that the search has found. -/
theorem charges_first {first : List Uuid}
    (found : s.book.stalled (s.around.now.shift (-cfg.recovery.stalledAfter))
      cfg.recovery.batchSize = first)
    (tended : IsTended a₀ b₀ s) (tells : cfg.recovery.Tells s.around.now) (more : Nat)
    (before : ((sweepOn cfg (first.length * (Sweep.perPayment cfg.payment.policy + 1) + more + 1)
      .seekingStalled).run s).2.around.Precedes final) :
    ∃ rs t, (attemptAll cfg .charge first).run s = (rs, t) ∧ Served .charge first s rs t ∧
      IsTended a₀ b₀ t ∧ ∃ left, more ≤ left ∧
        (sweepOn cfg (first.length * (Sweep.perPayment cfg.payment.policy + 1) + more + 1)
          .seekingStalled).run s =
            (sweepOn cfg left (.seekingUnsettled s.around.now first.length)).run t := by
  subst found
  have chosen := OrderBook.stalled_chosen tended.tended.indexed tended.tended.filed
    (s.around.now.shift (-cfg.recovery.stalledAfter)) cfg.recovery.batchSize
  have stand : ∀ x ∈ s.book.stalled (s.around.now.shift (-cfg.recovery.stalledAfter))
      cfg.recovery.batchSize, s.book.IsOpen .charge x := by
    intro x member
    obtain ⟨_, order, tx, ofOrder, status, ofPayment, pending, -⟩ := chosen.waited x member
    exact ⟨order, tx, ofOrder, ofPayment, by simp [isOpen, status, pending]⟩
  have sought := Sweep.seekingStalled_run cfg.payment tells.stalled tended.tended.quiet
  rw [follow_turn rfl, turn_rests rfl sought] at before ⊢
  obtain ⟨rs, t, all, served, tended', -, left, enough, same⟩ :=
    serves_all drawable distinct unknown (Sweep.charge_serves s.around.now) chosen.once stand
      tended 0 more before
  rw [Nat.zero_add] at same
  exact ⟨rs, t, all, served, tended', left, enough, same⟩

/-- The second half of a sweep: each order that the search has found is given up. -/
theorem expires_second {second : List Uuid} {start : Instant}
    (found : s.book.unsettled (start.shift (-cfg.recovery.unsettledAfter))
      cfg.recovery.batchSize = second)
    (tended : IsTended a₀ b₀ s) (tells : cfg.recovery.Tells start) (settled more : Nat)
    (before : ((sweepOn cfg (second.length * (Sweep.perPayment cfg.payment.policy + 1) + more + 1)
      (.seekingUnsettled start settled)).run s).2.around.Precedes final) :
    ∃ rs t, (attemptAll cfg .expire second).run s = (rs, t) ∧ Served .expire second s rs t ∧
      IsTended a₀ b₀ t ∧
        (sweepOn cfg (second.length * (Sweep.perPayment cfg.payment.policy + 1) + more + 1)
          (.seekingUnsettled start settled)).run s =
            (.done (.ok (settled + second.length)), t) := by
  subst found
  have chosen := OrderBook.unsettled_chosen tended.tended.indexed tended.tended.filed
    (start.shift (-cfg.recovery.unsettledAfter)) cfg.recovery.batchSize
  have stand : ∀ x ∈ s.book.unsettled (start.shift (-cfg.recovery.unsettledAfter))
      cfg.recovery.batchSize, s.book.IsOpen .expire x := by
    intro x member
    obtain ⟨_, order, tx, unsettled, -⟩ := chosen.waited x member
    exact ⟨order, tx, unsettled.ofOrder, unsettled.ofPayment,
      by simp [isOpen, unsettled.processing, unsettled.pending]⟩
  have sought :=
    Sweep.seekingUnsettled_run cfg.payment settled tells.unsettled tended.tended.quiet
  rw [follow_turn rfl, turn_rests rfl sought] at before ⊢
  obtain ⟨rs, t, all, served, tended', -, left, -, same⟩ :=
    serves_all drawable distinct unknown Sweep.expire_serves chosen.once stand tended settled more
      before
  exact ⟨rs, t, all, served, tended', same.trans (follow_done rfl left t)⟩

/-- **A sweep does exactly its work**, where nothing hinders it and nobody else is about. -/
theorem recover_swept (tended : IsTended a₀ b₀ s) (tells : cfg.recovery.Tells s.around.now)
    (before : ((recover cfg).run s).2.around.Precedes final) :
    Yields (recover cfg) s fun r s' =>
      IsTended a₀ b₀ s' ∧ ∃ first second, Swept cfg s first second r s' := by
  rw [Yields, recover_run]
  rw [recover_run] at before
  obtain ⟨first, found⟩ : ∃ ids, s.book.stalled
      (s.around.now.shift (-cfg.recovery.stalledAfter)) cfg.recovery.batchSize = ids := ⟨_, rfl⟩
  have stalled := OrderBook.stalled_chosen tended.tended.indexed tended.tended.filed
    (s.around.now.shift (-cfg.recovery.stalledAfter)) cfg.recovery.batchSize
  have few := OrderBook.length_stalled tended.tended.filed
    (s.around.now.shift (-cfg.recovery.stalledAfter)) cfg.recovery.batchSize
  rw [show s.orderDesk.book = s.book from rfl, found] at stalled few
  obtain ⟨more, fuel⟩ : ∃ more, sweepFuel cfg s =
      first.length * (Sweep.perPayment cfg.payment.policy + 1) + more + 1 := by
    have enough := sweepFuel_enough cfg few
    exact ⟨sweepFuel cfg s - first.length * (Sweep.perPayment cfg.payment.policy + 1) - 1, by omega⟩
  rw [fuel] at before ⊢
  obtain ⟨rs, between, charges, served, tendedBetween, left, enough, same⟩ :=
    charges_first drawable distinct unknown found tended tells more before
  rw [same] at before ⊢
  -- What was left in process when the sweep began is what the second search finds.
  obtain ⟨second, found'⟩ : ∃ ids, between.book.unsettled
      (s.around.now.shift (-cfg.recovery.unsettledAfter)) cfg.recovery.batchSize = ids := ⟨_, rfl⟩
  have unsettled := (OrderBook.unsettled_chosen tendedBetween.tended.indexed
    tendedBetween.tended.filed (s.around.now.shift (-cfg.recovery.unsettledAfter))
    cfg.recovery.batchSize).congr (served.adrift_iff stalled.waited)
  rw [show between.orderDesk.book = between.book from rfl, found'] at unsettled
  obtain ⟨more', rfl⟩ : ∃ more', left =
      second.length * (Sweep.perPayment cfg.payment.policy + 1) + more' + 1 := by
    have enough' := sweepFuel_enough cfg (room_for_both stalled unsettled)
    rw [fuel, Nat.add_mul] at enough'
    exact ⟨left - second.length * (Sweep.perPayment cfg.payment.policy + 1) - 1, by omega⟩
  obtain ⟨rs', t, expires, served', tended', same'⟩ :=
    expires_second drawable distinct unknown found' tendedBetween tells first.length more' before
  rw [same']
  refine ⟨tended', first, second, stalled, unsettled, ⟨rs, between, rs', charges, served, expires,
    served'⟩, rfl, fun x member => ?_, fun x member => ?_, fun x one other => ?_⟩
  · obtain ⟨o, rfl, shows, -⟩ := served.shows member
    refine ⟨o, rfl, shows.spared (served'.spares _ fun other => ?_)⟩
    obtain ⟨_, waits⟩ := stalled.waited _ member
    obtain ⟨_, adrift⟩ := unsettled.waited _ other
    exact waits.not_adrift adrift
  · obtain ⟨o, own, shows, expiry⟩ := served'.shows member
    exact ⟨o, own, expiry rfl, shows⟩
  · exact (served.spares x one).trans (served'.spares x other)

end

/-! ## One sweep after the other -/

section
variable {first second : List Uuid} {r : Except OrderError Nat}

/-- A sweep settles what it chooses, and spares the rest. -/
theorem Swept.settles_or_spares (swept : Swept cfg s first second r s') (x : Uuid) :
    s'.book.IsSettled x ∨ x ∉ first ∧ x ∉ second ∧ s.book.Spares s'.book x := by
  by_cases one : x ∈ first
  · obtain ⟨o, rfl, shows⟩ := swept.charged x one
    exact .inl shows.isSettled
  · by_cases other : x ∈ second
    · obtain ⟨o, rfl, -, shows⟩ := swept.expired x other
      exact .inl shows.isSettled
    · exact .inr ⟨one, other, swept.spared x one other⟩

/-- Of the payments that were stalled at a cut-off, a sweep with a later one settles as many as it
has room for. -/
theorem Swept.drains_stalled (swept : Swept cfg s first second r s') (indexed : s.book.IsIndexed)
    (filed : s.book.IsFiled) (indexed' : s'.book.IsIndexed) (filed' : s'.book.IsFiled)
    {cutoff : Instant} (late : cutoff ≤ s.around.now.shift (-cfg.recovery.stalledAfter)) :
    (s'.book.overdue cutoff).length ≤
      (s.book.overdue cutoff).length - cfg.recovery.batchSize.toNat := by
  refine swept.stalled.takes cutoff (fun x time => ?_)
    (OrderBook.overdue_once indexed' filed' cutoff) fun ⟨time, x⟩ member => ?_
  · rw [OrderBook.mem_overdue indexed filed]
    exact ⟨fun stalled => ⟨stalled.of_le (Int.le_trans stalled.within late), stalled.within⟩,
      fun both => both.1.of_le both.2⟩
  · have stalled := (OrderBook.mem_overdue indexed' filed').mp member
    obtain ⟨one, -, spared⟩ := (swept.settles_or_spares x).resolve_left stalled.not_settled
    exact ⟨(OrderBook.mem_overdue indexed filed).mpr (stalled.spared spared.symm), one⟩

/-- And so it is with the orders that were left in process. -/
theorem Swept.drains_adrift (swept : Swept cfg s first second r s') (indexed : s.book.IsIndexed)
    (filed : s.book.IsFiled) (indexed' : s'.book.IsIndexed) (filed' : s'.book.IsFiled)
    {cutoff : Instant} (late : cutoff ≤ s.around.now.shift (-cfg.recovery.unsettledAfter)) :
    (s'.book.adrift cutoff).length ≤
      (s.book.adrift cutoff).length - cfg.recovery.batchSize.toNat := by
  refine swept.unsettled.takes cutoff (fun x time => ?_)
    (OrderBook.adrift_once indexed' filed' cutoff) fun ⟨time, x⟩ member => ?_
  · refine (OrderBook.mem_adrift indexed filed).trans ?_
    exact ⟨fun (adrift : s.book.IsAdrift cutoff x time) =>
      ⟨adrift.of_le (Int.le_trans adrift.within late), adrift.within⟩,
      fun both => both.1.of_le both.2⟩
  · have adrift : s'.book.IsAdrift cutoff x time :=
      (OrderBook.mem_adrift indexed' filed').mp member
    obtain ⟨-, other, spared⟩ := (swept.settles_or_spares x).resolve_left adrift.not_settled
    exact ⟨(OrderBook.mem_adrift indexed filed).mpr (adrift.spared spared.symm), other⟩

end

/-- The shop after sweeps, each in its own weather. -/
def recovered (cfg : Config) (s : Shop) (ws : List Weather) : Shop :=
  ws.foldl (fun s w => ((recover cfg).run (w.over s)).2) s

theorem recovered_singleton (cfg : Config) (s : Shop) (w : Weather) :
    recovered cfg s [w] = ((recover cfg).run (w.over s)).2 :=
  rfl

/-- The weather changes nothing that was tended. -/
theorem IsTended.over (tended : IsTended a₀ b₀ s) {w : Weather} (quiet : w.mishaps = []) :
    IsTended a₀ b₀ (w.over s) := by
  obtain ⟨tended, -, idle⟩ := tended
  exact ⟨⟨quiet, ⟨tended.precedes.ids, tended.precedes.issued⟩, tended.indexed, tended.filed,
    tended.accounts, tended.length, tended.old, tended.known⟩, Traffic.isPlain_over w s, idle⟩

/-- Whatever a sweep meets, time goes on and nothing is begun in the background. -/
theorem recover_keeps (cfg : Config) (plain : s.gateway.IsPlain) (idle : s.tasks = []) :
    Yields (recover cfg) s fun _ s' => s'.tasks = [] ∧ s.around.Precedes s'.around := by
  have sweeping : IsSweeping .seekingStalled s := ⟨(fun _ under => nomatch under), plain, idle⟩
  have kept := sweepOn_keeps cfg sweeping (sweepFuel cfg s)
  rw [Yields, recover_run]
  exact ⟨kept.1.idle, kept.2⟩

theorem recovered_precedes (idle : s.tasks = []) (ws : List Weather) :
    s.around.Precedes (recovered cfg s ws).around := by
  induction ws generalizing s with
  | nil => exact .refl _
  | cons w ws ih =>
    have kept := recover_keeps cfg (s := w.over s) (Traffic.isPlain_over w s) idle
    exact Precedes.trans ⟨kept.2.ids, kept.2.issued⟩ (ih kept.1)

/-- **Sweep after sweep settles what waited at a cut-off**, as many orders each time as there is
room for, and spares what it does not settle. -/
theorem recovered_drains (drawable : cfg.payment.policy.retry.IsDrawable)
    (distinct : final.IsDistinct) (unknown : ∀ id, Fresh a₀ final id → b₀.isProcessed id = false)
    {now : Instant} {ws : List Weather}
    (tended : ∀ w : Weather, w.mishaps = [] → IsTended a₀ b₀ (w.over s))
    (fair : ∀ w ∈ ws, w.mishaps = [] ∧ now ≤ w.now ∧ cfg.recovery.Tells w.now)
    (before : (recovered cfg s ws).around.Precedes final) :
    let last := recovered cfg s ws
    (∀ w : Weather, w.mishaps = [] → IsTended a₀ b₀ (w.over last)) ∧
      (last.book.overdue (now.shift (-cfg.recovery.stalledAfter))).length ≤
        (s.book.overdue (now.shift (-cfg.recovery.stalledAfter))).length -
          ws.length * cfg.recovery.batchSize.toNat ∧
      (last.book.adrift (now.shift (-cfg.recovery.unsettledAfter))).length ≤
        (s.book.adrift (now.shift (-cfg.recovery.unsettledAfter))).length -
          ws.length * cfg.recovery.batchSize.toNat ∧
      ∀ x, last.book.IsSettled x ∨ s.book.Spares last.book x := by
  induction ws generalizing s with
  | nil =>
    rw [List.length_nil, Nat.zero_mul]
    exact ⟨tended, Nat.le_refl _, Nat.le_refl _, fun x => .inr (.refl _ x)⟩
  | cons w ws ih =>
    obtain ⟨quiet, late, tells⟩ := fair w (.head _)
    have ready := tended w quiet
    have kept := recover_keeps cfg ready.gateway ready.idle
    obtain ⟨tended', first, second, swept⟩ := recover_swept drawable distinct unknown ready tells
      ((recovered_precedes kept.1 ws).trans before)
    obtain ⟨tendedLast, overdue, adrift, rest⟩ :=
      ih (fun _ quiet => tended'.over quiet) (fun w member => fair w (.tail _ member)) before
    have later (nanos : Int) : now.shift nanos ≤ w.now.shift nanos :=
      Int.add_le_add_right late nanos
    have stalled := swept.drains_stalled ready.tended.indexed ready.tended.filed
      tended'.tended.indexed tended'.tended.filed (later _)
    have unsettled := swept.drains_adrift ready.tended.indexed ready.tended.filed
      tended'.tended.indexed tended'.tended.filed (later _)
    have together {n n' m : Nat} (one : n' ≤ n - cfg.recovery.batchSize.toNat)
        (rest : m ≤ n' - ws.length * cfg.recovery.batchSize.toNat) :
        m ≤ n - (ws.length * cfg.recovery.batchSize.toNat + cfg.recovery.batchSize.toNat) := by
      omega
    rw [List.length_cons, Nat.succ_mul]
    refine ⟨tendedLast, together stalled overdue, together unsettled adrift, fun x => ?_⟩
    rcases rest x, swept.settles_or_spares x with ⟨done | spared, settled | ⟨-, -, first⟩⟩
    · exact .inl done
    · exact .inl done
    · exact .inl (settled.spared spared)
    · exact .inr (OrderBook.Spares.trans first spared)

end Shop

namespace Traffic
open Payment Surroundings

/-- **Recovery makes exact progress.** After every run, and whatever the weather is but for mishaps
of the store, a sweep that can tell its cut-offs and draw its waits does exactly its work. If sweeps
are made with the same cut-offs or later ones, all that was stalled or left in process at these
cut-offs is settled as soon as the batches had room for it. The identifiers that are drawn meanwhile
are new. -/
theorem recovery_exact [EmailCheck] (cfg : Shop.Config) (around : Surroundings)
    (stock : Assoc Uuid Int) (sequences : Assoc CalendarDay Int) (events : List Event)
    (drawable : cfg.payment.policy.retry.IsDrawable) :
    let t := (opening around stock sequences).run cfg events
    (∀ w : Weather, w.mishaps = [] → cfg.recovery.Tells w.now →
      let later := (Shop.recover cfg).run (w.over t.shop)
      later.2.around.IsDistinct →
      (∀ id, Fresh t.shop.around later.2.around id → t.shop.book.isProcessed id = false) →
      ∃ first second, Shop.Swept cfg (w.over t.shop) first second later.1 later.2) ∧
    ∀ (now : Instant) (ws : List Weather), 0 < cfg.recovery.batchSize →
      (∀ w ∈ ws, w.mishaps = [] ∧ now ≤ w.now ∧ cfg.recovery.Tells w.now) →
      let last := Shop.recovered cfg t.shop ws
      last.around.IsDistinct →
      (∀ id, Fresh t.shop.around last.around id → t.shop.book.isProcessed id = false) →
      let overdue := t.shop.book.overdue (now.shift (-cfg.recovery.stalledAfter))
      let adrift := t.shop.book.adrift (now.shift (-cfg.recovery.unsettledAfter))
      let batch := cfg.recovery.batchSize.toNat
      (overdue.length ⌈/⌉ batch ≤ ws.length → ∀ entry ∈ overdue, last.book.IsSettled entry.2) ∧
        (adrift.length ⌈/⌉ batch ≤ ws.length → ∀ entry ∈ adrift, last.book.IsSettled entry.2) := by
  intro t
  have sound : t.IsSound := (opening_isSound around stock sequences).run events
  have indexed : t.shop.book.IsIndexed := (run_isEntered cfg around stock sequences events).indexed
  have filed : t.shop.book.IsFiled := run_isFiled cfg around stock sequences events
  have accounts := run_accounts cfg around stock sequences events
  have tended (w : Weather) (quiet : w.mishaps = []) :
      Shop.IsTended t.shop.around t.shop.book (w.over t.shop) :=
    ⟨⟨quiet, ⟨rfl, Nat.le_refl _⟩, indexed, filed, fun x => ⟨_, accounts x⟩, rfl,
      fun _ _ _ _ => id, fun _ => .inl⟩, isPlain_over w _, sound.tasks⟩
  constructor
  · intro w quiet tells later distinct new
    exact (Shop.recover_swept drawable distinct new (tended w quiet) tells (.refl _)).2
  · intro now ws room fair last distinct new overdue adrift batch
    have positive : 0 < batch := by
      show 0 < cfg.recovery.batchSize.toNat
      omega
    obtain ⟨tendedLast, fewer, fewer', rest⟩ :=
      Shop.recovered_drains drawable distinct new tended fair (.refl _)
    have indexedLast : last.book.IsIndexed := (tendedLast { now } rfl).tended.indexed
    have filedLast : last.book.IsFiled := (tendedLast { now } rfl).tended.filed
    have emptied {n left : Nat} (enough : n ⌈/⌉ batch ≤ ws.length)
        (few : left ≤ n - ws.length * batch) : left = 0 := by
      have all := (ceilDiv_le_iff_le_mul positive).mp enough
      rw [Nat.mul_comm] at all
      omega
    refine ⟨fun enough entry member => ?_, fun enough entry member => ?_⟩
    · refine (rest entry.2).resolve_right fun spared => ?_
      have stalled := (OrderBook.mem_overdue indexed filed).mp member
      have waits := (OrderBook.mem_overdue indexedLast filedLast).mpr (stalled.spared spared)
      rw [List.eq_nil_of_length_eq_zero (emptied enough fewer)] at waits
      cases waits
    · refine (rest entry.2).resolve_right fun spared => ?_
      have stalled : t.shop.book.IsAdrift _ _ _ := (OrderBook.mem_adrift indexed filed).mp member
      have waits := (OrderBook.mem_adrift indexedLast filedLast).mpr (stalled.spared spared)
      rw [List.eq_nil_of_length_eq_zero (emptied enough fewer')] at waits
      cases waits

/-- An order that was entered and not attempted yet. -/
def untried : Traffic :=
  (opening { now := ⟨0⟩ } [] []).run minutely
    (.call (.deliver placedMessage) :: .advance 0 :: [.advance 0, .advance 0])

theorem untried_eq :
    untried =
      (arrived { now := ⟨0⟩ } placedMessage placed).run minutely [.advance 0, .advance 0] := by
  rw [untried, run_arrived _ _ _ received_placed]

/-- A sweep on the next day: what it answers, and the shop after it. -/
def tried : Except OrderError Nat × Shop :=
  (Shop.recover minutely).run (nextDay.over untried.shop)

/-- The sweep attempts the order, which was the only one overdue, and settles its payment. -/
theorem untried_and_settled :
    (∃ first second,
      Shop.Swept minutely (nextDay.over untried.shop) first second tried.1 tried.2) ∧
      tried.1.toOption = some 1 ∧
      (untried.shop.book.overdue ⟨0⟩).map (·.2) = [placed.orderId] ∧
      ∀ entry ∈ untried.shop.book.overdue ⟨0⟩, tried.2.book.IsSettled entry.2 := by
  have tried_eq : tried = (Shop.recover minutely).run (nextDay.over
      ((arrived { now := ⟨0⟩ } placedMessage placed).run minutely
        [.advance 0, .advance 0]).shop) := by
    rw [tried, untried_eq]
  have distinct : tried.2.around.IsDistinct := by
    rw [IsDistinct, tried_eq]
    decide +kernel
  have unknown : ∀ n < tried.2.around.issued,
      untried.shop.book.isProcessed (untried.shop.around.ids.ordered n) = false := by
    rw [tried_eq, untried_eq]
    decide +kernel
  have new (id : Uuid) (fresh : Fresh untried.shop.around tried.2.around id) :
      untried.shop.book.isProcessed id = false := by
    obtain ⟨n, -, below, same⟩ := fresh
    rw [same]
    exact unknown n below
  have counted : tried.1.toOption = some 1 := by
    rw [tried_eq]
    decide +kernel
  have overdue : (untried.shop.book.overdue ⟨0⟩).map (·.2) = [placed.orderId] := by
    rw [untried_eq]
    decide +kernel
  have few : (untried.shop.book.overdue ⟨0⟩).length ⌈/⌉ minutely.recovery.batchSize.toNat ≤
      [nextDay].length := by
    rw [untried_eq]
    decide +kernel
  have tells : minutely.recovery.Tells nextDay.now := ⟨by decide, by decide⟩
  have fair : ∀ w ∈ [nextDay], w.mishaps = [] ∧ ⟨60000000000⟩ ≤ w.now ∧
      minutely.recovery.Tells w.now := by
    intro w member
    cases List.mem_singleton.mp member
    exact ⟨rfl, by decide, tells⟩
  have progress := recovery_exact minutely { now := ⟨0⟩ } [] []
    (.call (.deliver placedMessage) :: .advance 0 :: [.advance 0, .advance 0])
    minutely_isDrawable
  rw [← untried] at progress
  have one := progress.1 nextDay rfl tells
  rw [← tried] at one
  have all := progress.2 ⟨60000000000⟩ [nextDay] (by decide) fair
  rw [Shop.recovered_singleton, ← tried] at all
  have all := (all distinct new).1
  rw [show (⟨60000000000⟩ : Instant).shift (-minutely.recovery.stalledAfter) = ⟨0⟩ by decide] at all
  exact ⟨one distinct new, counted, overdue, all few⟩

/-! ## Where sweeps break off -/

/-- A sweep in the weather `w` ends with an error and has not done its work, although no call of the
store meets a mishap. -/
def BreaksOff (cfg : Shop.Config) (s : Shop) (w : Weather) : Prop :=
  let later := (Shop.recover cfg).run (w.over s)
  w.mishaps = [] ∧ later.1 = .error (.shared .overflow) ∧
    ¬ ∃ first second, Shop.Swept cfg (w.over s) first second later.1 later.2

theorem BreaksOff.of_overflow {s : Shop} {w : Weather} (quiet : w.mishaps = [])
    (overflow : ((Shop.recover cfg).run (w.over s)).1 = .error (.shared .overflow)) :
    BreaksOff cfg s w := by
  refine ⟨quiet, overflow, ?_⟩
  rintro ⟨first, second, swept⟩
  cases overflow.symm.trans swept.counts

/-- A shop whose payments count as stuck only after longer than the calendar goes back. -/
def patient : Shop.Config :=
  { minutely with
    recovery := ⟨.ofSeconds 30, 10000000000000000000000, 10000000000000000000000, 10⟩ }

/-- A shop whose settings spread the waits between charges by something that is no number. -/
def scattered : Shop.Config :=
  { minutely with payment := ⟨.ofSettings { jitterFactor := .nan }, default⟩ }

/-- The next day, on which the gateway is out of order. -/
def outage : Weather :=
  { nextDay with calls := [(.ofMillis 100, .fails (.transient "connection reset"))] }

/-- **What hinders a sweep at its work** besides the store: in a patient shop no cut-off can be
told, so even where there is nothing to do the sweep ends with an error, and in a scattered one it
breaks off with the first charge that it would have to try again. -/
theorem sweeps_broken_off :
    (BreaksOff patient (opening { now := ⟨0⟩ } [] []).shop nextDay ∧
        patient.payment.policy.retry.IsDrawable ∧ ¬ patient.recovery.Tells nextDay.now) ∧
      BreaksOff scattered ((opening { now := ⟨0⟩ } [] []).run scattered
        (.call (.deliver placedMessage) :: .advance 0 :: [.advance 0, .advance 0])).shop outage ∧
        ¬ scattered.payment.policy.retry.IsDrawable ∧ scattered.recovery.Tells outage.now := by
  refine ⟨⟨.of_overflow rfl rfl, minutely_isDrawable, fun tells => ?_⟩, .of_overflow rfl ?_,
    fun drawable => ?_, by decide, by decide⟩
  · exact absurd tells.stalled (by decide)
  · rw [run_arrived _ _ _ received_placed]
    have ended : ((Shop.recover scattered).run (outage.over ((arrived { now := ⟨0⟩ } placedMessage
        placed).run scattered [.advance 0, .advance 0]).shop)).1 = .error (.shared .overflow) := by
      decide +kernel
    exact ended
  · exact absurd (drawable 0 (by decide) .half) (by decide +kernel)

end Traffic
end OrderFlow
