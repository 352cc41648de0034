import OrderFlow.Proofs.Payment.Tending

/-!
A sweep where nothing hinders it and nobody else is about. It attempts the payments that were never
attempted and leaves none of them behind; then there is room for all that were in process before,
and it gives them up one by one. `Mends` says for one of these where the sweep stands; every phase
keeps it and comes nearer to the end (`Mends.step`).
-/
namespace OrderFlow.Payment
open OrderDesk Surroundings
variable {cfg : Config} {r : Recovery} {d d' : OrderDesk} {x : Uuid} {order : Order}
  {tx : PaymentTransaction}

namespace Sweep

/-! ## How far a sweep has to go -/

theorem left_charge (p : PaymentPolicy) (limit : Nat) (start : Instant) (settled : Nat)
    (ids : List Uuid) :
    (charge start settled ids).left p limit ≤
      ids.length * perPayment p + 1 + limit * perPayment p := by
  cases ids with
  | nil => simp [charge, left]
  | cons id more =>
    have first : (Phase.reading .charge id).left p + 1 = perPayment p := rfl
    simp only [charge, left, first, List.length_cons, Nat.add_mul, Nat.one_mul]
    omega

theorem left_expire (p : PaymentPolicy) (limit : Nat) (settled : Nat) (ids : List Uuid) :
    (expire settled ids).left p limit ≤ ids.length * perPayment p := by
  cases ids with
  | nil => simp [expire, left]
  | cons id more =>
    have first : (Phase.reading .expire id).left p + 1 = perPayment p := rfl
    simp only [expire, left, first, List.length_cons, Nat.add_mul, Nat.one_mul]
    omega

variable {p : PaymentPolicy} {limit : Nat} {ids : List Uuid} {start : Instant}
  {settled settled' : Nat} {result : Result}

theorem left_charge_lt (room : ids.length ≤ limit) :
    (charge start settled ids).left p limit < seekingStalled.left p limit := by
  refine Nat.lt_of_le_of_lt (left_charge ..) ?_
  have fewer := Nat.mul_le_mul_right (perPayment p) room
  simp only [left]
  omega

theorem left_charge_next : (charge start settled' ids).left p limit <
    (charging (.done result) ids start settled).left p limit := by
  refine Nat.lt_of_le_of_lt (left_charge ..) ?_
  simp only [left, Phase.left]
  omega

theorem left_expire_lt (room : ids.length ≤ limit) :
    (expire settled' ids).left p limit < (seekingUnsettled start settled).left p limit := by
  refine Nat.lt_of_le_of_lt (left_expire ..) ?_
  have fewer := Nat.mul_le_mul_right (perPayment p) room
  simp only [left]
  omega

theorem left_expire_next : (expire settled' ids).left p limit <
    (expiring (.done result) ids settled).left p limit := by
  refine Nat.lt_of_le_of_lt (left_expire ..) ?_
  simp only [left, Phase.left]
  omega

/-- The search of a sweep, where no call of the store meets a mishap. -/
theorem search_quiet {call : StoreCall} {cutoff : Instant} {f : Instant → OrderBook → List Uuid}
    {next : List Uuid → Sweep} (told : cutoff.inCalendar = true) (quiet : d.around.IsQuiet) :
    Yields (search cutoff (fun c => look call none (f c)) next) d fun s' d' =>
      s' = next (f cutoff d.book) ∧ d' = d := by
  unfold search
  rw [if_neg (by simp [told])]
  refine (look_quiet call none (f cutoff) quiet).bind ?_
  rintro _ d' ⟨rfl, same⟩
  exact .returned ⟨rfl, same⟩

end Sweep

/-- An identifier that is handed out now has not been dealt with. -/
theorem Tended.new {a₀ final : Surroundings} {b₀ : OrderBook} {held? : Option Uuid}
    (tended : Tended a₀ b₀ d held?) (distinct : final.IsDistinct)
    (unknown : ∀ id, Fresh a₀ final id → b₀.isProcessed id = false)
    (first : d.around.Precedes d'.around) (second : d'.around.Precedes final) {id : Uuid}
    (fresh : Fresh d.around d'.around id) : d.book.isProcessed id = false := by
  cases known : d.book.isProcessed id with
  | false => rfl
  | true =>
    rcases tended.known id known with before | earlier
    · have late := unknown id (tended.precedes.fresh fresh second)
      exact before.symm.trans late
    · have late : Fresh d.around final id := (Precedes.refl _).fresh fresh second
      exact absurd rfl (tended.precedes.ne_of_fresh (first.trans second) distinct earlier late)

/-- One phase of an attempt, with nobody else about. -/
theorem Phase.tended_yields {a₀ final : Surroundings} {b₀ : OrderBook} {p : Phase}
    (tended : Tended a₀ b₀ d p.holds?) (tends : p.Tends a₀ d)
    (running : p.isDone = false) (sound : p.IsSound)
    (drawable : cfg.policy.retry.IsDrawable) (distinct : final.IsDistinct)
    (unknown : ∀ id, Fresh a₀ final id → b₀.isProcessed id = false) :
    Yields (p.step cfg) d fun p' d' => Move cfg d d' p p' ∧ Unhindered d.book d.around.now p p' ∧
      (d'.around.Precedes final → Tended a₀ b₀ d' p'.holds? ∧ p'.Tends a₀ d' ∧
        p'.left cfg.policy < p.left cfg.policy) := by
  refine ((Phase.step_moves cfg sound d).and (Phase.step_quiet cfg sound tended.quiet)).mono ?_
  rintro p' d' ⟨move, quiet, free⟩
  refine ⟨move, free, fun before => ?_⟩
  obtain ⟨tended', tends'⟩ := tended.step tends move free quiet drawable fun id fresh =>
    tended.new distinct unknown move.follows.precedes before fresh
  refine ⟨tended', tends', (move.left_lt running).resolve_right ?_⟩
  rintro ⟨o, retries, wake, rfl⟩
  exact tends'

/-- A sweep that begins at `now` with the book `b` comes late enough for an order that is not
settled: the order was left in process long ago, and there is room for all that were. -/
structure Recovery.Reaches (r : Recovery) (now : Instant) (b : OrderBook) (order : Order) :
    Prop where
  /-- The points in time from which on payments count as stuck can be told. -/
  told : (now.shift (-r.stalledAfter)).inCalendar = true ∧
    (now.shift (-r.unsettledAfter)).inCalendar = true
  late : order.updatedAt ≤ now.shift (-r.unsettledAfter)
  room : (b.adrift (now.shift (-r.unsettledAfter))).length ≤ r.batchSize.toNat

namespace Sweep

/-- What a sweep that has begun at `start` has still to do for the order `x`. -/
def Heads (start : Instant) (x : Uuid) (order : Order) (tx : PaymentTransaction) (d : OrderDesk) :
    Sweep → Prop
  | .seekingStalled => d.around.now = start ∧ d.book.IsUnsettled x order tx
  | .charging p _ from_ _ =>
    from_ = start ∧ d.book.IsUnsettled x order tx ∧ p.Leaves x order
  | .seekingUnsettled from_ _ => from_ = start ∧ d.book.IsUnsettled x order tx
  | .expiring p more _ =>
    d.book.IsSettled x ∨ d.book.IsUnsettled x order tx ∧
      (p.Heads x order ∨ p.order? ≠ some x ∧ x ∈ more)
  | .done result => (∃ n, result = .ok n) ∧ d.book.IsSettled x

/-- A sweep in the midst of its work, with nobody else about. -/
structure Mends (cfg : Config) (a₀ : Surroundings) (b₀ : OrderBook) (x : Uuid) (order : Order)
    (tx : PaymentTransaction) (s : Sweep) (d : OrderDesk) : Prop where
  tended : Tended a₀ b₀ d (s.attempt?.bind (·.holds?))
  tends : ∀ p, s.attempt? = some p → p.Tends a₀ d
  heads : s.Heads a₀.now x order tx d

section
variable {a₀ : Surroundings} {b₀ : OrderBook}

theorem Mends.charge (tended : Tended a₀ b₀ d none) (unsettled : d.book.IsUnsettled x order tx)
    (settled : Nat) (ids : List Uuid) :
    (charge a₀.now settled ids).Mends cfg a₀ b₀ x order tx d := by
  cases ids with
  | nil => exact ⟨tended, (fun _ under => nomatch under), rfl, unsettled⟩
  | cons id more =>
    refine ⟨tended, fun p under => ?_, rfl, unsettled, fun _ tx => ?_⟩
    · cases under
      trivial
    · simp [isOpen, unsettled.processing]

theorem Mends.expire (tended : Tended a₀ b₀ d none) (settled : Nat) {ids : List Uuid}
    (ahead : d.book.IsSettled x ∨ d.book.IsUnsettled x order tx ∧ x ∈ ids) :
    (expire settled ids).Mends cfg a₀ b₀ x order tx d := by
  cases ids with
  | nil =>
    have done : d.book.IsSettled x := ahead.resolve_right fun both => nomatch both.2
    exact ⟨tended, (fun _ under => nomatch under), ⟨_, rfl⟩, done⟩
  | cons id more =>
    refine ⟨tended, fun p under => ?_, ahead.imp_right fun ⟨unsettled, member⟩ => ⟨unsettled, ?_⟩⟩
    · cases under
      trivial
    · by_cases same : id = x
      · exact .inl ⟨rfl, same⟩
      · exact .inr ⟨fun own => same (Option.some.inj own),
          (List.mem_cons.mp member).resolve_left fun h => same h.symm⟩

/-- A search that comes late enough finds the order, whatever the sweep has done before. -/
theorem Mends.found (tended : Tended a₀ b₀ d none) (unsettled : d.book.IsUnsettled x order tx)
    (reaches : r.Reaches a₀.now b₀ order) (indexed : b₀.IsIndexed) (filed : b₀.IsFiled)
    (settled : Nat) :
    Mends cfg a₀ b₀ x order tx (Sweep.expire settled
      (d.book.unsettled (a₀.now.shift (-r.unsettledAfter)) r.batchSize)) d := by
  -- Nothing was left in process since the sweep began, so there is still room for all that is.
  have room : (d.book.adrift (a₀.now.shift (-r.unsettledAfter))).length ≤ r.batchSize.toNat :=
    (OrderBook.length_adrift_le indexed filed tended.indexed tended.filed _
      fun x order tx => tended.old x order tx (Option.some_ne_none x).symm).trans reaches.room
  have member := OrderBook.mem_unsettled tended.indexed tended.filed room unsettled reaches.late
  exact .expire tended settled (.inr ⟨unsettled, member⟩)

/-- Time passes while a sweep waits, and nothing else. -/
theorem Mends.waits {s : Sweep} {wake : Instant} (mends : s.Mends cfg a₀ b₀ x order tx d)
    (waits : s.until? = some wake) (now : Instant) :
    s.Mends cfg a₀ b₀ x order tx { d with around := { d.around with now } } := by
  obtain ⟨tended, tends, heads⟩ := mends
  refine ⟨tended.atTime now, fun p under => ?_, ?_⟩
  · have tends := tends p under
    cases p <;> exact tends
  · cases s <;> first | exact heads | cases waits

variable {final : Surroundings}

/-- Whoever is given up next, a sweep that is ahead of the order comes to it. -/
theorem heads_step {p p' : Phase} {more : List Uuid} (tended : Tended a₀ b₀ d p.holds?)
    (tends : p.Tends a₀ d)
    (heads : d.book.IsSettled x ∨ d.book.IsUnsettled x order tx ∧
      (p.Heads x order ∨ p.order? ≠ some x ∧ x ∈ more))
    (going : p.isDone = false) (move : Payment.Move cfg d d' p p')
    (free : Unhindered d.book d.around.now p p') :
    d'.book.IsSettled x ∨ d'.book.IsUnsettled x order tx ∧
      (p'.Heads x order ∨ p'.order? ≠ some x ∧ x ∈ more) := by
  rcases heads with done | ⟨unsettled, heads | ⟨other, ahead⟩⟩
  · exact .inl (done.change tended.indexed move.changes)
  · exact (heads.step tended tends unsettled move free).imp_right fun both =>
      ⟨both.1, .inl both.2⟩
  · -- The attempt is made for another order, and stays with it to the end.
    refine .inr ⟨unsettled.spared (move.spares other), .inr ⟨fun next => ?_, ahead⟩⟩
    cases own : p.order? with
    | none => cases p <;> first | cases going; done | cases own
    | some y =>
      cases move.order tended.indexed own next
      exact other own

/-- **One phase of a sweep goes on with its work and comes nearer to its end.** -/
theorem Mends.step {s : Sweep} (mends : s.Mends cfg a₀ b₀ x order tx d) (running : s.isDone = false)
    (sound : ∀ p, s.attempt? = some p → p.IsSound) (reaches : r.Reaches a₀.now b₀ order)
    (indexed : b₀.IsIndexed) (filed : b₀.IsFiled)
    (drawable : cfg.policy.retry.IsDrawable) (distinct : final.IsDistinct)
    (unknown : ∀ id, Fresh a₀ final id → b₀.isProcessed id = false) :
    Yields (s.step cfg r) d fun s' d' => d'.around.Precedes final →
      s'.Mends cfg a₀ b₀ x order tx d' ∧
        s'.left cfg.policy b₀.orders.length < s.left cfg.policy b₀.orders.length := by
  obtain ⟨tended, tends, heads⟩ := mends
  cases s with
  | seekingStalled =>
    obtain ⟨sameNow, unsettled⟩ := heads
    refine Yields.bind (P := fun now d' => now = d.around.now ∧ d' = d) ⟨rfl, rfl⟩ ?_
    rintro now d' ⟨rfl, same⟩
    subst same
    rw [sameNow]
    refine (search_quiet (f := fun c b => b.stalled c r.batchSize) reaches.told.1
      tended.quiet).mono ?_
    rintro s' d'' ⟨rfl, rfl⟩ -
    refine ⟨.charge tended unsettled 0 _, left_charge_lt ?_⟩
    rw [← tended.length]
    exact OrderBook.length_stalled tended.filed _ _
  | charging attempt more start settled =>
    obtain ⟨rfl, unsettled, leaves⟩ := heads
    by_cases going : attempt.isDone = false
    · rw [step_charging cfg r going]
      refine (Phase.tended_yields tended (tends _ rfl) going (sound _ rfl) drawable distinct
        unknown).bind ?_
      rintro p' d' ⟨move, free, goesOn⟩
      refine .returned fun before => ?_
      obtain ⟨tended', tends', shorter⟩ := goesOn before
      obtain ⟨spared, leaves'⟩ := leaves.step tended.indexed unsettled.ofOrder move
      refine ⟨⟨tended', fun p under => ?_, rfl, unsettled.spared spared, leaves'⟩, ?_⟩
      · cases under
        exact tends'
      · simp only [left]
        omega
    · obtain ⟨result, rfl⟩ := attempt.isDone_iff.mp (by simpa using going)
      refine .returned fun _ => ?_
      simp only [(tends _ rfl).inRange, Bool.false_eq_true, if_false]
      exact ⟨.charge tended unsettled _ _, left_charge_next⟩
  | seekingUnsettled start settled =>
    obtain ⟨rfl, unsettled⟩ := heads
    refine (search_quiet (f := fun c b => b.unsettled c r.batchSize) reaches.told.2
      tended.quiet).mono ?_
    rintro s' d' ⟨rfl, same⟩ -
    subst same
    refine ⟨.found tended unsettled reaches indexed filed _, left_expire_lt ?_⟩
    rw [← tended.length]
    exact OrderBook.length_unsettled _ _ _
  | expiring attempt more settled =>
    by_cases going : attempt.isDone = false
    · rw [step_expiring cfg r going]
      refine (Phase.tended_yields tended (tends _ rfl) going (sound _ rfl) drawable distinct
        unknown).bind ?_
      rintro p' d' ⟨move, free, goesOn⟩
      refine .returned fun before => ?_
      obtain ⟨tended', tends', shorter⟩ := goesOn before
      refine ⟨⟨tended', fun p under => ?_, ?_⟩, ?_⟩
      · cases under
        exact tends'
      · exact heads_step tended (tends _ rfl) heads going move free
      · simp only [left]
        omega
    · obtain ⟨result, rfl⟩ := attempt.isDone_iff.mp (by simpa using going)
      refine .returned fun _ => ?_
      simp only [(tends _ rfl).inRange, Bool.false_eq_true, if_false]
      refine ⟨.expire tended _ (heads.imp_right fun ⟨unsettled, ahead⟩ => ⟨unsettled, ?_⟩),
        left_expire_next⟩
      exact (ahead.resolve_left id).2
  | done r => cases running

end

/-! ## What a sweep leaves alone -/

/-- A sweep leaves an order alone that is open to no attempt, whatever it meets. -/
theorem leaves_step {s s' : Sweep} (leaves : ∀ p, s.attempt? = some p → p.Leaves x order)
    (indexed : d.book.IsIndexed) (found : d.book.findOrder x = some order)
    (closed : ∀ purpose tx, isOpen purpose order tx = false) (move : Sweep.Move cfg d d' s s') :
    d.book.Spares d'.book x ∧ ∀ p, s'.attempt? = some p → p.Leaves x order := by
  cases move with
  | @attempts p p' under running move =>
    obtain ⟨spared, left⟩ := (leaves p under).step indexed found move
    refine ⟨spared, fun q now => ?_⟩
    have same : q = p' := Option.some.inj (now.symm.trans (attempt?_with under p'))
    rw [same]
    exact left
  | turns ended idle aside =>
    refine ⟨aside.spares x, fun p under => ?_⟩
    have fresh := idle p under
    cases p <;> first | exact fun _ => closed _ | cases fresh

end Sweep

end OrderFlow.Payment
