import OrderFlow.Checkout.Service
import OrderFlow.Proofs.Effects

/-!
What a checkout can do in one phase. A draft that becomes an order is entered in the ledger as
`Committed` says, and nothing else changes the ledger (`commit_cases`); a record is only ever read.
-/
namespace OrderFlow

variable {_ : EmailCheck}

/-- The outcome of a draft that was committed. -/
def CommitAnswer.outcome? : CommitAnswer → Option CheckoutOutcome
  | .committed outcome => some outcome
  | _ => none

/-- The draft `d` becomes an order in the ledger `l`, which leaves `l'` behind. -/
structure Ledger.Committed [EmailCheck] (l l' : Ledger) (d : CheckoutDraft) (eventId : Uuid)
    (now : Instant) (final : FinalCheckout) (wanted : List (Uuid × Int)) : Prop where
  free : l.find? d.key now = none
  left : l.nextSequence now.day ≤ lastOfDay
  reserved : d.reservations? = some wanted
  stocked : l.shortage? wanted = none
  finalized : d.finalize (orderNumber now.day (l.nextSequence now.day)) eventId now now = .ok final
  entered : l' = l.enter now.day (l.nextSequence now.day) wanted final now

/-- **A draft becomes an order, or the ledger stays as it is.** -/
theorem Ledger.commit_cases {l l' : Ledger} {d : CheckoutDraft} {eventId : Uuid} {now : Instant}
    {answer : CommitAnswer} (commits : l.commit d eventId now = (answer, l')) :
    (∃ final wanted, answer = .committed final.outcome ∧
        Committed l l' d eventId now final wanted) ∨
      (answer.outcome? = none ∧ l' = l) := by
  unfold commit at commits
  split at commits
  · cases commits
    exact .inr ⟨rfl, rfl⟩
  · next free =>
    simp only at commits
    split at commits
    · cases commits
      exact .inr ⟨rfl, rfl⟩
    · split at commits
      · cases commits
        exact .inr ⟨rfl, rfl⟩
      · next checked =>
        have left : l.nextSequence now.day ≤ lastOfDay := by
          unfold checkSequence at checked
          split at checked
          · cases checked
          · omega
        split at commits
        · cases commits
          exact .inr ⟨rfl, rfl⟩
        · next wanted reserved =>
          split at commits
          · cases commits
            exact .inr ⟨rfl, rfl⟩
          · next stocked =>
            split at commits
            · cases commits
              exact .inr ⟨rfl, rfl⟩
            · next final finalized =>
              cases commits
              exact .inl ⟨final, wanted, rfl, by simpa using free, left, reserved, stocked,
                finalized, rfl⟩

/-- The desk `d'` may come about from `d` by a call that leaves behind the ledger `ledger`. -/
structure CheckoutDesk.Writes (d d' : CheckoutDesk) (ledger : Ledger) : Prop where
  around : d.around.Follows d'.around
  ledger : d'.ledger = ledger
  carts : d'.carts = d.carts

namespace Checkout
open CheckoutDesk Surroundings

/-- The desk `d'` may come about from `d` by a call that changes no ledger. -/
abbrev Aside (d d' : CheckoutDesk) : Prop := Writes d d' d.ledger

variable {keep : Int} {d d' d'' : CheckoutDesk}

theorem Aside.refl (d : CheckoutDesk) : Aside d d := ⟨.refl _, rfl, rfl⟩

theorem Aside.then_writes {ledger : Ledger} (first : Aside d d') (second : Writes d' d'' ledger) :
    Writes d d'' ledger :=
  ⟨first.around.trans second.around, second.ledger, second.carts.trans first.carts⟩

theorem Aside.then_aside (first : Aside d d') (second : Aside d' d'') : Aside d d'' :=
  first.then_writes (first.ledger ▸ second)

theorem lift_yields {α : Type} {act : StateM Surroundings α} {P : α → Surroundings → Prop}
    (yields : Yields act d.around fun a s => P a s ∧ d.around.Follows s) :
    Yields (liftM act) d fun a d' => P a d'.around ∧ Aside d d' :=
  .lifted (yields.mono fun _ _ ⟨holds, follows⟩ => ⟨holds, follows, rfl, rfl⟩)

theorem lift_aside {α : Type} {act : StateM Surroundings α}
    (yields : Yields act d.around fun _ s => d.around.Follows s) :
    Yields (liftM act) d fun _ d' => Aside d d' :=
  (lift_yields (yields.mono fun _ _ follows => ⟨trivial, follows⟩)).mono fun _ _ both => both.2

/-- A record that is shown is in the ledger and still counts; one that is in the ledger and still
counts is hidden by a mishap only. -/
theorem findRecord_yields (key : String) (d : CheckoutDesk) :
    Yields (findRecord key) d fun r d' =>
      Aside d d' ∧
        (∀ record, r = .ok (some record) → d.ledger.find? key d.around.now = some record) ∧
        (d.around.IsCalm .findRecord → r = .ok (d.ledger.find? key d.around.now)) := by
  refine (lift_yields (mishap_calm_yields .findRecord d.around)).bind
    fun m d₁ ⟨calm, aside₁⟩ => ?_
  cases m with
  | fails e =>
    exact .returned ⟨aside₁, (fun _ h => nomatch h), fun quiet => nomatch calm quiet⟩
  | hides =>
    exact .returned ⟨aside₁, (fun _ h => nomatch h), fun quiet => nomatch calm quiet⟩
  | none | taken | loses | failsAfterwards =>
    refine .seen ((lift_yields (clock_yields d₁.around)).bind fun now d₂ ⟨same, aside₂⟩ => ?_)
    have shown : d₁.ledger.find? key now = d.ledger.find? key d.around.now := by
      rw [aside₁.ledger, same, aside₁.around.now]
    refine .returned ⟨aside₁.then_aside aside₂, fun record found => ?_, fun _ => ?_⟩
    · rw [← shown]
      exact Except.ok.inj found
    · rw [shown]

theorem cartLines_yields (cart : Uuid) (d : CheckoutDesk) :
    Yields (cartLines cart) d fun r d' =>
      Aside d d' ∧ ∀ lines, r = .ok lines → lines = (d.carts.find? cart).getD [] := by
  refine (lift_aside (failure_yields .buildDraft d.around)).bind fun failure d₁ aside₁ => ?_
  cases failure with
  | some e => exact .returned ⟨aside₁, fun _ h => nomatch h⟩
  | none =>
    refine .seen (.returned ⟨aside₁, fun lines shown => ?_⟩)
    cases shown
    rw [aside₁.carts]

/-- What committing a draft does. -/
theorem commit_yields (draft : CheckoutDraft) (d : CheckoutDesk) :
    Yields (commit draft) d fun answer d' =>
      (∃ final wanted eventId, answer = .committed final.outcome ∧
          Fresh d.around d'.around eventId ∧ Writes d d' d'.ledger ∧
          d.ledger.Committed d'.ledger draft eventId d.around.now final wanted) ∨
        (answer.outcome? = none ∧ Aside d d') := by
  refine (lift_aside (mishap_yields .commitCheckout d.around)).bind fun m d₁ aside₁ => ?_
  cases m with
  | fails | taken => exact .returned (.inr ⟨rfl, aside₁⟩)
  | none | hides | loses | failsAfterwards =>
    refine (lift_yields (orderedId_yields d₁.around)).bind fun eventId d₂ ⟨fresh, aside₂⟩ => ?_
    have before := aside₁.then_aside aside₂
    have fresh := fresh.preceded aside₁.around
    refine .seen ((lift_yields (clock_yields d₂.around)).bind fun now d₃ ⟨same, aside₃⟩ => ?_)
    have after := before.then_aside aside₃
    have same : now = d.around.now := same.trans before.around.now
    rw [before.ledger, same]
    cases commits : d.ledger.commit draft eventId d.around.now with
    | mk answer ledger =>
      refine .changed (.returned ?_)
      rcases Ledger.commit_cases commits with ⟨final, wanted, answered, committed⟩ | ⟨not, stays⟩
      · exact .inl ⟨final, wanted, eventId, answered, fresh.followed aside₃.around,
          ⟨after.around, rfl, after.carts⟩, committed⟩
      · exact .inr ⟨not, after.around, stays, after.carts⟩

namespace Phase

/-- The request that looks for a record next. -/
def seeks? : Phase → Option Order
  | .seeking o | .seekingAgain o => some o
  | _ => none

/-- The request of a call that has passed its checks and is not at its end. -/
def order? : Phase → Option Order
  | .seeking o | .drafting o | .committing o _ | .seekingAgain o => some o
  | .done _ => none

end Phase

/-- What a checkout may do in one phase. -/
inductive Move [EmailCheck] (keep : Int) (d d' : CheckoutDesk) : Phase → Phase → Prop where
  /-- The answer from a record. -/
  | answers {p : Phase} {o : Order} {record : KeyRecord} (seeks : p.seeks? = some o)
      (found : d.ledger.find? o.key d.around.now = some record) (aside : Aside d d') :
      Move keep d d' p (.done (replay o.key o.fingerprint record))
  | fails {p : Phase} {o : Order} {e : CheckoutError} (under : p.order? = some o)
      (blind : p.seeks? = some o → d.around.IsCalm .findRecord →
        d.ledger.find? o.key d.around.now = none)
      (aside : Aside d d') : Move keep d d' p (.done (.error e))
  | goesOn {o : Order}
      (blind : d.around.IsCalm .findRecord → d.ledger.find? o.key d.around.now = none)
      (aside : Aside d d') : Move keep d d' (.seeking o) (.drafting o)
  | drafts {o : Order} {draft : CheckoutDraft}
      (shape : draft.key = o.key ∧ draft.fingerprint = o.fingerprint ∧
        draft.cartId = o.request.cartId ∧ draft.customer = o.request.customer ∧ draft.keep = keep)
      (lines : d.carts.find? o.request.cartId = some draft.lines)
      (fresh : Fresh d.around d'.around draft.orderId) (aside : Aside d d') :
      Move keep d d' (.drafting o) (.committing o draft)
  | commits {o : Order} {draft : CheckoutDraft} {final : FinalCheckout} {eventId : Uuid}
      {wanted : List (Uuid × Int)} (fresh : Fresh d.around d'.around eventId)
      (writes : Writes d d' d'.ledger)
      (committed : d.ledger.Committed d'.ledger draft eventId d.around.now final wanted) :
      Move keep d d' (.committing o draft) (.done (.ok final.outcome))
  | yields {o : Order} {draft : CheckoutDraft} (aside : Aside d d') :
      Move keep d d' (.committing o draft) (.seekingAgain o)
  | rests {r : Except CheckoutError CheckoutOutcome} (aside : Aside d d') :
      Move keep d d' (.done r) (.done r)

theorem draft_yields (keep : Int) (o : Order) (lines : List CartLine) (s : Surroundings) :
    Yields (draft keep o lines) s fun draft s' =>
      (draft.key = o.key ∧ draft.fingerprint = o.fingerprint ∧ draft.cartId = o.request.cartId ∧
        draft.customer = o.request.customer ∧ draft.keep = keep ∧ draft.lines = lines ∧
        Fresh s s' draft.orderId) ∧ s.Follows s' := by
  refine (orderedId_yields s).bind fun orderId s₁ ⟨fresh, follows₁⟩ => ?_
  refine (randomId_yields s₁).bind fun id s₂ follows₂ => ?_
  exact .returned ⟨⟨rfl, rfl, rfl, rfl, rfl, rfl, fresh.followed follows₂⟩,
    follows₁.trans follows₂⟩

theorem Phase.step_moves (keep : Int) (p : Phase) (d : CheckoutDesk) :
    Yields (p.step keep) d fun p' d' => Move keep d d' p p' := by
  cases p with
  | seeking o =>
    refine (findRecord_yields o.key d).bind fun r d₁ ⟨aside, found, calm⟩ => ?_
    match r with
    | .error e => exact .returned (.fails rfl (fun _ quiet => nomatch calm quiet) aside)
    | .ok (some record) => exact .returned (.answers rfl (found _ rfl) aside)
    | .ok none => exact .returned (.goesOn (fun quiet => (Except.ok.inj (calm quiet)).symm) aside)
  | drafting o =>
    refine (cartLines_yields o.request.cartId d).bind fun r d₁ ⟨aside₁, found⟩ => ?_
    match r with
    | .error e => exact .returned (.fails rfl (fun seeks => by cases seeks) aside₁)
    | .ok [] => exact .returned (.fails rfl (fun seeks => by cases seeks) aside₁)
    | .ok (line :: lines) =>
      have lines_eq : d.carts.find? o.request.cartId = some (line :: lines) := by
        have shown := found _ rfl
        cases known : d.carts.find? o.request.cartId with
        | none => simp [known] at shown
        | some lines' => simp [known] at shown; simp [shown]
      refine (lift_yields (draft_yields keep o (line :: lines) d₁.around)).bind ?_
      rintro draft d₂ ⟨⟨key, print, cart, customer, kept, drafted, fresh⟩, aside₂⟩
      exact .returned (.drafts ⟨key, print, cart, customer, kept⟩ (drafted ▸ lines_eq)
        (fresh.preceded aside₁.around) (aside₁.then_aside aside₂))
  | committing o draft =>
    refine (commit_yields draft d).bind fun answer d₁ does => ?_
    rcases does with ⟨final, wanted, eventId, rfl, fresh, writes, committed⟩ | ⟨not, aside⟩
    · exact .changed (.returned (.commits fresh ⟨writes.around, rfl, writes.carts⟩ committed))
    · cases answer with
      | refused e => exact .returned (.fails rfl (fun seeks => by cases seeks) aside)
      | keyTaken => exact .returned (.yields aside)
      | committed outcome => cases not
  | seekingAgain o =>
    refine (findRecord_yields o.key d).bind fun r d₁ ⟨aside, found, calm⟩ => ?_
    match r with
    | .error e => exact .returned (.fails rfl (fun _ quiet => nomatch calm quiet) aside)
    | .ok (some record) => exact .returned (.answers rfl (found _ rfl) aside)
    | .ok none =>
      exact .returned (.fails rfl (fun _ quiet => (Except.ok.inj (calm quiet)).symm) aside)
  | done r => exact .returned (.rests (.refl d))

theorem Move.follows {p p' : Phase} (move : Move keep d d' p p') :
    d.around.Follows d'.around := by
  cases move with
  | answers _ _ aside | fails _ _ aside | goesOn _ aside | drafts _ _ _ aside | yields aside
  | rests aside => exact aside.around
  | commits _ writes => exact writes.around

/-- A sweep drops the records that no longer count, or does nothing. -/
theorem sweep_yields (d : CheckoutDesk) :
    Yields sweep d fun _ d' =>
      Aside d d' ∨ Writes d d' (d.ledger.sweep d.around.now).2 := by
  refine (lift_aside (failure_yields .sweepRecords d.around)).bind fun failure d₁ aside₁ => ?_
  cases failure with
  | some e => exact .returned (.inl aside₁)
  | none =>
    refine .seen ((lift_yields (clock_yields d₁.around)).bind fun now d₂ ⟨same, aside₂⟩ => ?_)
    have before := aside₁.then_aside aside₂
    have same : now = d.around.now := same.trans aside₁.around.now
    rw [aside₁.ledger, same]
    exact .changed (.returned (.inr ⟨before.around, rfl, before.carts⟩))

end Checkout

end OrderFlow
