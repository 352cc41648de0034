import OrderFlow.Proofs.Payment.Pursuing
import OrderFlow.Proofs.Shop.Following
import OrderFlow.Proofs.Traffic.Recovery

/-!
A sweep goes through the orders that it has found one after the other. Where nothing hinders it and
nobody else is about, each order that is open gets one attempt of its own (`serves_one`), and these
attempts are all that the sweep does until the list is at its end (`serves_all`). This holds of both
halves of a sweep alike (`Sweep.charge_serves`, `Sweep.expire_serves`).
-/
namespace OrderFlow

namespace Shop
open Surroundings Payment
variable {cfg : Config} {s : Shop} {x : Uuid} {a₀ final : Surroundings} {b₀ b : OrderBook}

/-! ## One attempt -/

/-- An attempt to pay in a shop in which nothing else goes on. -/
structure IsAttempting (p : Phase) (s : Shop) : Prop where
  sound : p.IsSound
  gateway : s.gateway.IsPlain
  idle : s.tasks = []

/-- A phase of an attempt. -/
theorem IsAttempting.step {p : Phase} (attempting : IsAttempting p s)
    {P : Phase → OrderDesk → Prop} (does : Yields (p.step cfg.payment) s.orderDesk P) :
    Yields (atOrders (p.step cfg.payment)) s fun p' s' =>
      IsAttempting p' s' ∧ Payment.Move cfg.payment s.orderDesk s'.orderDesk p p' ∧
        P p' s'.orderDesk := by
  have moves := (Phase.step_moves cfg.payment attempting.sound s.orderDesk).and does
  refine (atOrders_yields moves).mono ?_
  rintro p' _ ⟨d, rfl, move, does⟩
  obtain ⟨sound, plain, dispatched⟩ := move.sound attempting.gateway
  have none : d.dispatched = [] := dispatched
  rw [orderDesk_withOrderDesk none]
  refine ⟨⟨sound, plain, ?_⟩, move, does⟩
  simp only [withOrderDesk, none, List.map_nil, List.append_nil]
  exact attempting.idle

/-- Goes on with an attempt. -/
abbrev attemptOn (cfg : Config) (fuel : Nat) (p : Phase) : StateM Shop Phase :=
  follow cfg Phase.until? Phase.isDone (·.step cfg.payment) fuel p

theorem attemptOn_keeps {p : Phase} (attempting : IsAttempting p s) (fuel : Nat) :
    Yields (attemptOn cfg fuel p) s fun q t => IsAttempting q t ∧ s.around.Precedes t.around ∧
      (p.Expires → q.Expires ∧ t.gateway = s.gateway) := by
  refine follow_keeps (P := fun q t => IsAttempting q t ∧ s.around.Precedes t.around ∧
      (p.Expires → q.Expires ∧ t.gateway = s.gateway)) (fun q t holds => holds.1.idle)
    (fun q t wake now ⟨attempting, before, expires⟩ _ => ?_)
    (fun q t ⟨attempting, before, expires⟩ _ => ?_) fuel
    ⟨attempting, .refl _, fun own => ⟨own, rfl⟩⟩
  · exact ⟨⟨attempting.sound, attempting.gateway, attempting.idle⟩, ⟨before.ids, before.issued⟩,
      expires⟩
  · refine (attempting.step (P := fun _ _ => True) trivial).mono ?_
    rintro q' t' ⟨attempting', move, -⟩
    refine ⟨attempting', before.trans move.follows.precedes, fun own => ?_⟩
    obtain ⟨expires, untouched⟩ := expires own
    obtain ⟨expires', same⟩ := expires.step move
    exact ⟨expires', same.trans untouched⟩

/-- An attempt that is open comes to an outcome. -/
theorem attemptOn_ends {p : Phase} {fuel : Nat} (enough : p.left cfg.payment.policy < fuel)
    (attempting : IsAttempting p s)
    (pursuing : p.IsPursuing cfg.payment a₀ b₀ b x s.orderDesk)
    (drawable : cfg.payment.policy.retry.IsDrawable) (distinct : final.IsDistinct)
    (unknown : ∀ id, Fresh a₀ final id → b₀.isProcessed id = false) :
    Yields (attemptOn cfg fuel p) s fun q t => t.around.Precedes final →
      q.IsPursuing cfg.payment a₀ b₀ b x t.orderDesk ∧ q.isDone = true := by
  refine follow_ends (J := IsAttempting)
    (I := fun q t => q.IsPursuing cfg.payment a₀ b₀ b x t.orderDesk)
    (fun _ _ attempting => attempting.idle) (fun q t wake now _ attempting => ?_)
    (fun q t attempting running => ?_) enough attempting pursuing
  · exact ⟨⟨attempting.sound, attempting.gateway, attempting.idle⟩, fun pursuing =>
      pursuing.waits now⟩
  · have does : Yields (q.step cfg.payment) t.orderDesk fun q' d' =>
        q.IsPursuing cfg.payment a₀ b₀ b x t.orderDesk → d'.around.Precedes final →
          q'.IsPursuing cfg.payment a₀ b₀ b x d' ∧
            q'.left cfg.payment.policy < q.left cfg.payment.policy :=
      fun pursuing => pursuing.step running attempting.sound drawable distinct unknown
    exact (attempting.step does).mono fun q' t' ⟨attempting', move, goesOn⟩ =>
      ⟨attempting', move.follows.precedes, goesOn⟩

theorem attempt_run {p : Phase} {r : Result} {t : Shop}
    (ends : (attemptOn cfg (p.left cfg.payment.policy + 1) p).run s = (.done r, t)) :
    (attempt cfg p).run s = (r, t) := by
  unfold attempt
  rw [StateT.run_bind, ends]
  rfl

end Shop

/-! ## One order after the other -/

/-- A sweep goes through the orders of a list, one attempt for each: it stands at `next` before an
attempt and at `during` while one is made. -/
structure Payment.Sweep.Serves (cfg : Payment.Config) (r : Payment.Recovery)
    (purpose : Payment.Purpose) (next : Nat → List Uuid → Payment.Sweep)
    (during : Payment.Phase → List Uuid → Nat → Payment.Sweep) : Prop where
  begins : ∀ settled id more,
    next settled (id :: more) = during (.reading purpose id) more settled
  attempts : ∀ p more settled, (during p more settled).attempt? = some p
  waits : ∀ p more settled, (during p more settled).until? = p.until?
  running : ∀ p more settled, (during p more settled).isDone = false
  steps : ∀ p more settled, p.isDone = false →
    (during p more settled).step cfg r = do return during (← p.step cfg) more settled
  turns : ∀ result more settled, Payment.Sweep.isOverflow result = false →
    (during (.done result) more settled).step cfg r =
      return next (Payment.Sweep.count settled result) more

namespace Payment.Sweep
variable {cfg : Config} {r : Recovery}

theorem charge_serves (start : Instant) : Serves cfg r .charge (charge start)
    fun p more settled => .charging p more start settled where
  begins _ _ _ := rfl
  attempts _ _ _ := rfl
  waits _ _ _ := rfl
  running _ _ _ := rfl
  steps p more settled running := step_charging cfg r running more start settled
  turns result more settled inRange := by
    show (pure _ : StateM OrderDesk Sweep) = _
    rw [inRange]
    rfl

theorem expire_serves : Serves cfg r .expire expire expiring where
  begins _ _ _ := rfl
  attempts _ _ _ := rfl
  waits _ _ _ := rfl
  running _ _ _ := rfl
  steps p more settled running := step_expiring cfg r running more settled
  turns result more settled inRange := by
    show (pure _ : StateM OrderDesk Sweep) = _
    rw [inRange]
    rfl

end Payment.Sweep

namespace Shop
open Surroundings Payment
variable {cfg : Config} {s : Shop} {x : Uuid} {a₀ final : Surroundings} {b₀ b : OrderBook}

/-- A shop in which nothing hinders and nobody else is about. -/
structure IsTended (a₀ : Surroundings) (b₀ : OrderBook) (s : Shop) : Prop where
  tended : Tended a₀ b₀ s.orderDesk none
  gateway : s.gateway.IsPlain
  idle : s.tasks = []

/-- Goes on with a sweep. -/
abbrev sweepOn (cfg : Config) (fuel : Nat) (w : Sweep) : StateM Shop Sweep :=
  follow cfg Sweep.until? Sweep.isDone (·.step cfg.payment cfg.recovery) fuel w

theorem sweepOn_keeps (cfg : Config) {w : Sweep} (sweeping : IsSweeping w s) (fuel : Nat) :
    Yields (sweepOn cfg fuel w) s fun w' t => IsSweeping w' t ∧ s.around.Precedes t.around := by
  refine follow_keeps (P := fun w t => IsSweeping w t ∧ s.around.Precedes t.around)
    (fun w t holds => holds.1.idle) (fun w t wake now ⟨sweeping, before⟩ _ => ?_)
    (fun w t ⟨sweeping, before⟩ _ => ?_) fuel ⟨sweeping, .refl _⟩
  · exact ⟨⟨sweeping.sound, sweeping.gateway, sweeping.idle⟩, before.ids, before.issued⟩
  · exact (sweeping.step (P := fun _ _ => True) trivial).mono fun w' t' ⟨sweeping', move, _⟩ =>
      ⟨sweeping', before.trans move.follows.precedes⟩

/-- A turn in which nothing is changed. -/
theorem turn_rests {φ : Type} {until? : φ → Option Instant} {step : φ → StateM OrderDesk φ}
    {p p' : φ} (waits : until? p = none) (rests : (step p).run s.orderDesk = (p', s.orderDesk)) :
    (turn cfg until? step p).run s = (p', s) := by
  have same : s.withOrderDesk s.orderDesk = s := by
    cases s
    simp [withOrderDesk, orderDesk]
  have turned : (turn cfg until? step p).run s =
      (((step p).run s.orderDesk).1, s.withOrderDesk ((step p).run s.orderDesk).2) := by
    unfold turn
    rw [waits]
    rfl
  rw [turned, rests, same]

variable {purpose : Purpose} {next : Nat → List Uuid → Sweep}
  {during : Phase → List Uuid → Nat → Sweep}

/-- What an attempt has come to that was made for the order `x`: the outcome `o`, and nothing for
any other order. -/
structure Ended (purpose : Purpose) (x : Uuid) (o : PaymentOutcome) (s t : Shop) : Prop where
  own : o.orderId = x
  shows : t.book.Shows o
  gives : purpose = .expire → IsExpiry o ∧ t.gateway = s.gateway
  spares : ∀ y, y ≠ x → s.book.Spares t.book y

/-- Attempts to pay for orders one after the other. -/
def attemptAll (cfg : Config) (purpose : Purpose) (ids : List Uuid) : StateM Shop (List Result) :=
  ids.mapM fun id => attempt cfg (.reading purpose id)

/-- What the attempts have come to that were made for the orders `ids` one after the other: an
outcome for each of them, and nothing for any other. -/
structure Served (purpose : Purpose) (ids : List Uuid) (s : Shop) (rs : List Result) (t : Shop) :
    Prop where
  outcomes : List.Forall₂ (fun x r => ∃ o, r = .ok (some o) ∧ o.orderId = x ∧ t.book.Shows o ∧
    (purpose = .expire → IsExpiry o)) ids rs
  spares : ∀ y, y ∉ ids → s.book.Spares t.book y
  gateway : purpose = .expire → t.gateway = s.gateway

theorem Served.cons {ids : List Uuid} {rs : List Result} {t t' : Shop} {o : PaymentOutcome}
    (ended : Ended purpose x o s t) (new : x ∉ ids) (served : Served purpose ids t rs t') :
    Served purpose (x :: ids) s (.ok (some o) :: rs) t' where
  outcomes := by
    have kept : t'.book.Shows o := ended.shows.spared (ended.own ▸ served.spares x new)
    exact .cons ⟨o, rfl, ended.own, kept, fun gives => (ended.gives gives).1⟩ served.outcomes
  spares y others := by
    have first := ended.spares y (List.ne_of_not_mem_cons others)
    exact first.trans (served.spares y (List.not_mem_of_not_mem_cons others))
  gateway gives := (served.gateway gives).trans (ended.gives gives).2

section
variable (drawable : cfg.payment.policy.retry.IsDrawable)
  (distinct : final.IsDistinct) (unknown : ∀ id, Fresh a₀ final id → b₀.isProcessed id = false)
include drawable distinct unknown

/-- An attempt that is open settles its payment. -/
theorem attemptOn_settles (stands : s.book.IsOpen purpose x) (tended : IsTended a₀ b₀ s) :
    Yields (attemptOn cfg (Sweep.perPayment cfg.payment.policy) (.reading purpose x)) s fun q t =>
      IsAttempting q t ∧ s.around.Precedes t.around ∧ (t.around.Precedes final →
        ∃ o, q = .done (.ok (some o)) ∧ Ended purpose x o s t ∧ IsTended a₀ b₀ t) := by
  have attempting : IsAttempting (.reading purpose x) s := ⟨trivial, tended.gateway, tended.idle⟩
  refine ((attemptOn_keeps attempting _).and (attemptOn_ends (Nat.lt_succ_self _) attempting
    (.begins tended.tended stands) drawable distinct unknown)).mono ?_
  rintro q t ⟨⟨attempted, later, expires⟩, ended⟩
  refine ⟨attempted, later, fun before => ?_⟩
  obtain ⟨pursuing, done⟩ := ended before
  obtain ⟨_, rfl⟩ := q.isDone_iff.mp done
  obtain ⟨o, rfl, own, shows⟩ := pursuing.pursues
  refine ⟨o, rfl, ⟨own, shows, fun gives => ?_, pursuing.spares⟩, pursuing.tended,
    attempted.gateway, attempted.idle⟩
  obtain ⟨expired, untouched⟩ := expires gives
  exact ⟨expired o rfl, untouched⟩

/-- **The attempt for one order**, and the sweep goes on to the next one. -/
theorem serves_one (serves : Sweep.Serves cfg.payment cfg.recovery purpose next during)
    (stands : s.book.IsOpen purpose x) (tended : IsTended a₀ b₀ s) (settled more : Nat)
    (ids : List Uuid)
    (before : ((sweepOn cfg (Sweep.perPayment cfg.payment.policy + (more + 1))
      (next settled (x :: ids))).run s).2.around.Precedes final) :
    ∃ o t, (attempt cfg (.reading purpose x)).run s = (.ok (some o), t) ∧ Ended purpose x o s t ∧
      IsTended a₀ b₀ t ∧ s.around.Precedes t.around ∧ ∃ left, more ≤ left ∧
        (sweepOn cfg (Sweep.perPayment cfg.payment.policy + (more + 1))
          (next settled (x :: ids))).run s =
            (sweepOn cfg left (next (settled + 1) ids)).run t := by
  have within : Within Phase.until? Phase.isDone (·.step cfg.payment) Sweep.until? Sweep.isDone
      (·.step cfg.payment cfg.recovery) (during · ids settled) :=
    ⟨fun p _ => serves.waits p ids settled, fun p _ => serves.running p ids settled,
      fun p running => serves.steps p ids settled running⟩
  obtain ⟨left, enough, same⟩ := follow_within cfg within
    (Sweep.perPayment cfg.payment.policy) (more + 1) (.reading purpose x) s
  have settles := attemptOn_settles drawable distinct unknown stands tended
  obtain ⟨⟨q, t⟩, reached⟩ : ∃ qt, (attemptOn cfg (Sweep.perPayment cfg.payment.policy)
      (.reading purpose x)).run s = qt := ⟨_, rfl⟩
  rw [Yields, reached] at settles
  rw [reached] at same
  rw [serves.begins, same] at before ⊢
  obtain ⟨attempted, later, ends⟩ := settles
  -- What comes after the attempt comes before the end.
  have sweeping : IsSweeping (during q ids settled) t := by
    refine ⟨fun p under => ?_, attempted.gateway, attempted.idle⟩
    cases (serves.attempts q ids settled).symm.trans under
    exact attempted.sound
  obtain ⟨o, rfl, ended, tended'⟩ := ends ((sweepOn_keeps cfg sweeping left).2.trans before)
  obtain ⟨left, rfl⟩ : ∃ n, left = n + 1 := ⟨left - 1, by omega⟩
  have turns : (Sweep.step cfg.payment cfg.recovery
      (during (.done (.ok (some o))) ids settled)).run t.orderDesk =
        (next (settled + 1) ids, t.orderDesk) := by
    rw [serves.turns _ _ _ rfl]
    rfl
  refine ⟨o, t, attempt_run reached, ended, tended', later, left, by omega, ?_⟩
  rw [follow_turn (serves.running _ ids settled),
    turn_rests (serves.waits (.done (.ok (some o))) ids settled) turns]

/-- **Each order of the list gets one attempt**, which comes to an outcome, and the sweep has
counted them in the end. -/
theorem serves_all (serves : Sweep.Serves cfg.payment cfg.recovery purpose next during)
    {ids : List Uuid} (once : ids.Nodup) (stand : ∀ x ∈ ids, s.book.IsOpen purpose x)
    (tended : IsTended a₀ b₀ s) (settled more : Nat)
    (before : ((sweepOn cfg (ids.length * (Sweep.perPayment cfg.payment.policy + 1) + more)
      (next settled ids)).run s).2.around.Precedes final) :
    ∃ rs t, (attemptAll cfg purpose ids).run s = (rs, t) ∧ Served purpose ids s rs t ∧
      IsTended a₀ b₀ t ∧ s.around.Precedes t.around ∧ ∃ left, more ≤ left ∧
        (sweepOn cfg (ids.length * (Sweep.perPayment cfg.payment.policy + 1) + more)
          (next settled ids)).run s =
            (sweepOn cfg left (next (settled + ids.length) [])).run t := by
  induction ids generalizing s settled more with
  | nil =>
    refine ⟨[], s, rfl, ⟨.nil, fun y _ => .refl _ y, fun _ => rfl⟩, tended, .refl _, more,
      Nat.le_refl _, ?_⟩
    rw [List.length_nil, Nat.zero_mul, Nat.zero_add, Nat.add_zero]
  | cons x ids ih =>
    obtain ⟨new, once⟩ := List.nodup_cons.mp once
    have fuel : (x :: ids).length * (Sweep.perPayment cfg.payment.policy + 1) + more =
        Sweep.perPayment cfg.payment.policy +
          (ids.length * (Sweep.perPayment cfg.payment.policy + 1) + more + 1) := by
      rw [List.length_cons, Nat.succ_mul]
      omega
    rw [fuel] at before ⊢
    obtain ⟨o, t, attempted, ended, tended', later, left, enough, same⟩ :=
      serves_one drawable distinct unknown serves (stand x (.head _)) tended settled _ ids before
    rw [same] at before ⊢
    obtain ⟨more', rfl⟩ := Nat.exists_eq_add_of_le (Nat.le_of_add_right_le enough)
    have stand' : ∀ y ∈ ids, t.book.IsOpen purpose y := fun y member =>
      (stand y (.tail _ member)).spared (ended.spares y fun same => new (same ▸ member))
    obtain ⟨rs, t', all, served, tended'', later', left', enough', same'⟩ :=
      ih once stand' tended' (settled + 1) more' before
    refine ⟨.ok (some o) :: rs, t', ?_, served.cons ended new, tended'', later.trans later', left',
      by omega, ?_⟩
    · have rest : ((do return .ok (some o) :: (← attemptAll cfg purpose ids)) :
          StateM Shop (List Result)).run t = (.ok (some o) :: rs, t') := by
        rw [StateT.run_bind, all]
        rfl
      rw [attemptAll, List.mapM_cons, StateT.run_bind, attempted]
      exact rest
    · rw [same', List.length_cons, Nat.add_right_comm, Nat.add_assoc]

end

end Shop
end OrderFlow
