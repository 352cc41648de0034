import OrderFlow.Proofs.Payment.Bills
import OrderFlow.Proofs.Traffic.Stories

/-!
Bills in traffic. Whoever calls the gateway, and whenever, asks for what an order in the book costs
(`run_isBilled`).
-/
namespace OrderFlow.Traffic
variable {_ : EmailCheck} {cfg : Shop.Config} {t t' : Traffic} {e : Event}

/-- Whatever the gateway was asked for, or may be asked for next, is the bill of an order. -/
structure IsBilled (t : Traffic) : Prop where
  priced : t.shop.book.IsPriced
  attempts : ∀ d ∈ t.doings, ∀ p r, d.attempt? = some p → p.request? = some r →
    t.shop.book.Bills r
  calls : ∀ call ∈ t.shop.gateway.calls, t.shop.book.Bills call.request

theorem IsBilled.acts (billed : t.IsBilled) (sound : t.IsSound) {doer : Nat} {d d' : Doing}
    {later : Shop} (under : t.doings[doer]? = some d) (move : d.Move cfg t.shop d' later) :
    (t.acted doer d d' later).IsBilled := by
  have change := move.changes
  have attempts := billed.attempts d (List.mem_of_getElem? under)
  -- What the doer may ask for next, and what it has asked for, measured by the book before.
  have own : (∀ p r, d'.attempt? = some p → p.request? = some r → t.shop.book.Bills r) ∧
      ∀ call ∈ later.gateway.calls, t.shop.book.Bills call.request := by
    rcases move.moves_or_idle sound.gateway doer (t.runOf doer d) with ⟨p, p', moves⟩ | idle
    · obtain ⟨desk, gone, moved⟩ := moves.move
      have gone : later = t.shop.withOrderDesk desk := gone
      subst gone
      have asked (r : ChargeRequest) (asks : p.request? = some r) : t.shop.book.Bills r :=
        attempts p r moves.before asks
      refine ⟨fun q r after asks => ?_, fun call logged => ?_⟩
      · cases Option.some.inj (after.symm.trans moves.after)
        exact moved.bills billed.priced asked r asks
      · rcases moved.requests sound.gateway logged with old | asks
        · exact billed.calls call old
        · exact asked _ asks
    · refine ⟨fun q r after asks => ?_, fun call logged => ?_⟩
      · rw [Payment.Phase.request?_of_isFresh (idle.new q after)] at asks
        cases asks
      · rw [show later.gateway = t.shop.gateway from idle.gateway] at logged
        exact billed.calls call logged
  refine ⟨change.priced billed.priced, fun f member p r attempt asks => ?_, fun call logged => ?_⟩
  · rcases mem_doings_acted member with old | rfl | ⟨q, task, rfl⟩
    · exact change.bills (billed.attempts f old p r attempt asks)
    · exact change.bills (own.1 p r attempt asks)
    · obtain ⟨id, rfl⟩ := sound.dispatched move task
      cases attempt
      cases asks
  · exact change.bills (own.2 call logged)

theorem IsBilled.step (billed : t.IsBilled) (sound : t.IsSound) (step : Step cfg t e t') :
    t'.IsBilled := by
  cases step with
  | rests => exact billed
  | begins c =>
    refine ⟨billed.priced, forall_begun billed.attempts fun p r attempt asks => ?_, billed.calls⟩
    cases c <;> cases attempt
    cases asks
  | ends doer =>
    refine ⟨billed.priced, forall_ended billed.attempts (fun p r attempt => ?_) doer, billed.calls⟩
    cases attempt
  | weather w => exact ⟨billed.priced, billed.attempts, billed.calls⟩
  | acts under ready move => exact billed.acts sound under move

theorem run_isBilled [EmailCheck] (cfg : Shop.Config) (around : Surroundings)
    (stock : Assoc Uuid Int) (sequences : Assoc CalendarDay Int) (events : List Event) :
    ((opening around stock sequences).run cfg events).IsBilled :=
  run_keeps_all (opening_isSound around stock sequences)
    ⟨⟨(fun _ _ found => nomatch found), fun _ _ _ found => nomatch found⟩,
      (fun _ member => nomatch member), fun _ member => nomatch member⟩
    fun _ _ _ sound billed step => billed.step sound step

end OrderFlow.Traffic
