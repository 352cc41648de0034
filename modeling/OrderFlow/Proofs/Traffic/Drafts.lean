import OrderFlow.Proofs.Traffic.Sales

/-!
Drafts in traffic. Whoever makes a sale has made the draft of it, and has taken its lines from the
cart that was asked for (`run_isFilled`). The order gets its identifier with it; since a draft is
committed once at most, no two sales have the same identifier, provided that none is handed out
twice (`run_sells_apart`).
-/
namespace OrderFlow

variable {_ : EmailCheck}

/-- The draft that something is about to commit. -/
def Doing.draft? : Doing → Option CheckoutDraft
  | .checkout _ _ (.committing _ draft) => some draft
  | _ => none

/-- Nobody begins with a draft. -/
theorem Call.undrafted (c : Call) : c.doing.draft? = none := by
  cases c with
  | checkOut key request =>
    simp only [Call.doing, Checkout.begin]
    split
    · rfl
    · split <;> rfl
  | _ => rfl

/-- What was done was to make this draft, with the lines that its cart had then. -/
structure Happening.Drafts (h : Happening) (draft : CheckoutDraft) : Prop where
  before : h.before.draft? = none
  after : h.after.draft? = some draft
  lines : h.earlier.carts.find? draft.cartId = some draft.lines

/-- Who is about to commit a draft has just made it, and given it its identifier. -/
theorem Doing.Move.drafts {cfg : Shop.Config} {s s' : Shop} {d d' : Doing}
    (move : d.Move cfg s d' s') {draft : CheckoutDraft} (drafted : d'.draft? = some draft) :
    s.around.Fresh s'.around draft.orderId ∧
      ∀ doer run, Happening.Drafts ⟨doer, run, d, d', s, s'⟩ draft := by
  cases move with
  | checkout move =>
    cases move with
    | drafts shape lines fresh =>
      cases drafted
      obtain ⟨-, -, cart, -⟩ := shape
      exact ⟨fresh, fun _ _ => ⟨rfl, rfl, cart ▸ lines⟩⟩
    | answers | fails | goesOn | commits | yields | rests => cases drafted
  | _ => cases drafted

/-- What is sold was a draft. -/
theorem Happening.draft_of_sale {h : Happening} {s : Sale} (sells : h.sale? = some s) :
    h.before.draft? = some s.draft := by
  unfold Happening.sale? at sells
  split at sells
  · next before _ =>
    cases sells
    rw [before]
    rfl
  · cases sells

namespace Traffic
variable {cfg : Shop.Config} {t t' : Traffic} {e : Event}

/-- Who is about to commit a draft when something new begins was so before. -/
theorem getElem?_of_begun {c : Call} {n : Nat} {d : Doing} {draft : CheckoutDraft}
    (under : (t.doings ++ [c.doing])[n]? = some d) (drafted : d.draft? = some draft) :
    t.doings[n]? = some d := by
  rw [List.getElem?_append] at under
  split at under
  · exact under
  · rw [List.mem_singleton.mp (List.mem_of_getElem? under), Call.undrafted] at drafted
    cases drafted

/-- Who is about to commit a draft when somebody breaks off was so before. -/
theorem getElem?_of_ended {doer n : Nat} {d : Doing} {draft : CheckoutDraft}
    (under : (t.doings.set doer .gone)[n]? = some d) (drafted : d.draft? = some draft) :
    t.doings[n]? = some d := by
  rw [List.getElem?_set] at under
  split at under
  · split at under
    · cases under
      cases drafted
    · cases under
  · exact under

/-! ## Lines -/

/-- The doer `n` has made this draft. -/
def Filled (t : Traffic) (n : Nat) (draft : CheckoutDraft) : Prop :=
  ∃ h ∈ t.past, h.doer = n ∧ h.Drafts draft

/-- Whatever somebody sells, or is about to sell, they have taken from its cart themselves. -/
structure IsFilled (t : Traffic) : Prop where
  drafted : ∀ n d draft, t.doings[n]? = some d → d.draft? = some draft → t.Filled n draft
  sold : ∀ h ∈ t.past, ∀ s, h.sale? = some s → t.Filled h.doer s.draft

theorem IsFilled.acts (filled : t.IsFilled) {doer : Nat} {d d' : Doing} {later : Shop}
    (under : t.doings[doer]? = some d) (move : d.Move cfg t.shop d' later) :
    (t.acted doer d d' later).IsFilled := by
  have kept {n : Nat} {draft : CheckoutDraft} (before : t.Filled n draft) :
      (t.acted doer d d' later).Filled n draft := by
    obtain ⟨h, member, rest⟩ := before
    exact ⟨h, List.mem_append_left _ member, rest⟩
  refine ⟨fun n f draft under' drafted => ?_, fun h member s sells => ?_⟩
  · rcases doings_acted under' with ⟨rfl, rfl⟩ | ⟨-, before⟩ | ⟨p, _, rfl⟩
    · exact ⟨_, List.mem_append_right _ List.mem_cons_self, rfl, (move.drafts drafted).2 _ _⟩
    · exact kept (filled.drafted n f draft before drafted)
    · cases drafted
  · rcases List.mem_append.mp member with old | new
    · exact kept (filled.sold h old s sells)
    · cases List.mem_singleton.mp new
      exact kept (filled.drafted doer d s.draft under (Happening.draft_of_sale sells))

theorem IsFilled.step (filled : t.IsFilled) (step : Step cfg t e t') : t'.IsFilled := by
  cases step with
  | rests => exact filled
  | begins c =>
    exact ⟨fun n d draft under drafted =>
      filled.drafted n d draft (getElem?_of_begun under drafted) drafted, filled.sold⟩
  | ends doer =>
    exact ⟨fun n d draft under drafted =>
      filled.drafted n d draft (getElem?_of_ended under drafted) drafted, filled.sold⟩
  | weather w => exact ⟨filled.drafted, filled.sold⟩
  | acts under ready move => exact filled.acts under move

theorem run_isFilled [EmailCheck] (cfg : Shop.Config) (around : Surroundings)
    (stock : Assoc Uuid Int) (sequences : Assoc CalendarDay Int) (events : List Event) :
    ((opening around stock sequences).run cfg events).IsFilled :=
  run_keeps_all (opening_isSound around stock sequences)
    ⟨(fun _ _ _ under => nomatch under), fun _ member => nomatch member⟩
    fun _ _ _ _ filled step => filled.step step

/-! ## Identifiers -/

/-- The doer `n` is about to commit a draft with the identifier `id`. -/
def Drafts (t : Traffic) (n : Nat) (id : Uuid) : Prop :=
  ∃ d draft, t.doings[n]? = some d ∧ d.draft? = some draft ∧ draft.orderId = id

/-- Sales and drafts have identifiers of their own. -/
structure SellsApart (t : Traffic) : Prop where
  sold : ∀ s ∈ t.sales, t.shop.around.HasIssued s.draft.orderId
  drafted : ∀ n id, t.Drafts n id → t.shop.around.HasIssued id
  unsold : ∀ n id, t.Drafts n id → ∀ s ∈ t.sales, s.draft.orderId ≠ id
  once : ∀ m n id, t.Drafts m id → t.Drafts n id → m = n
  apart : t.sales.Pairwise fun s s' => s.draft.orderId ≠ s'.draft.orderId

section
variable {doer n : Nat} {d d' : Doing} {later : Shop} {id : Uuid}

/-- After a step, a draft is the fresh one of the doer, or an earlier one of somebody else. -/
theorem drafts_acted (move : d.Move cfg t.shop d' later)
    (drafts : (t.acted doer d d' later).Drafts n id) :
    (n = doer ∧ t.shop.around.Fresh later.around id) ∨ (n ≠ doer ∧ t.Drafts n id) := by
  obtain ⟨f, draft, under, drafted, rfl⟩ := drafts
  rcases doings_acted under with ⟨same, rfl⟩ | ⟨other, before⟩ | ⟨p, _, rfl⟩
  · exact .inl ⟨same, (move.drafts drafted).1⟩
  · exact .inr ⟨other, f, draft, before, drafted, rfl⟩
  · cases drafted

/-- A sale is an earlier one, or that of the doer's draft. -/
theorem sales_acted_cases (under : t.doings[doer]? = some d) {s : Sale}
    (sold : s ∈ (t.acted doer d d' later).sales) :
    s ∈ t.sales ∨ t.Drafts doer s.draft.orderId := by
  rw [sales_acted] at sold
  rcases List.mem_append.mp sold with old | new
  · exact .inl old
  · exact .inr ⟨d, s.draft, under, Happening.draft_of_sale (Option.mem_toList.mp new), rfl⟩

theorem SellsApart.acts (sells : t.SellsApart) (distinct : later.around.IsDistinct)
    (under : t.doings[doer]? = some d) (move : d.Move cfg t.shop d' later) :
    (t.acted doer d d' later).SellsApart := by
  have follows := move.follows
  have sold (s : Sale) (member : s ∈ (t.acted doer d d' later).sales) :
      t.shop.around.HasIssued s.draft.orderId := by
    rcases sales_acted_cases under member with old | own
    · exact sells.sold s old
    · exact sells.drafted doer _ own
  refine ⟨fun s member => ?_, fun n id drafts => ?_, fun n id drafts s member => ?_, ?_, ?_⟩
  · exact follows.hasIssued (sold s member)
  · rcases drafts_acted move drafts with ⟨-, fresh⟩ | ⟨-, before⟩
    · exact fresh.hasIssued follows
    · exact follows.hasIssued (sells.drafted n id before)
  · rcases drafts_acted move drafts with ⟨-, fresh⟩ | ⟨other, before⟩
    · exact follows.ne_of_fresh distinct fresh (sold s member)
    · rcases sales_acted_cases under member with old | own
      · exact sells.unsold n id before s old
      · rintro rfl
        exact other (sells.once n doer _ before own)
  · intro m n id drafts drafts'
    rcases drafts_acted move drafts with ⟨same, fresh⟩ | ⟨other, before⟩ <;>
      rcases drafts_acted move drafts' with ⟨same', fresh'⟩ | ⟨other', before'⟩
    · exact same.trans same'.symm
    · exact absurd rfl (follows.ne_of_fresh distinct fresh (sells.drafted n id before'))
    · exact absurd rfl (follows.ne_of_fresh distinct fresh' (sells.drafted m id before))
    · exact sells.once m n id before before'
  · rw [sales_acted]
    refine List.pairwise_append.mpr ⟨sells.apart, ?_, fun s old s' new => ?_⟩
    · cases Happening.sale? ⟨doer, t.runOf doer d, d, d', t.shop, later⟩ <;> simp
    · have draft := Happening.draft_of_sale (Option.mem_toList.mp new)
      exact sells.unsold doer _ ⟨d, s'.draft, under, draft, rfl⟩ s old

end

/-- The traffic goes on without anything being done. -/
theorem SellsApart.of_same (sells : t.SellsApart) (past : t'.past = t.past)
    (drafts : ∀ n id, t'.Drafts n id → t.Drafts n id)
    (issued : ∀ id, t.shop.around.HasIssued id → t'.shop.around.HasIssued id) :
    t'.SellsApart := by
  have sales : t'.sales = t.sales := congrArg (List.filterMap Happening.sale?) past
  refine ⟨?_, fun n id drafted => ?_, ?_, fun m n id drafted drafted' => ?_, ?_⟩
  · rw [sales]
    exact fun s member => issued _ (sells.sold s member)
  · exact issued id (sells.drafted n id (drafts n id drafted))
  · rw [sales]
    exact fun n id drafted => sells.unsold n id (drafts n id drafted)
  · exact sells.once m n id (drafts m id drafted) (drafts n id drafted')
  · rw [sales]
    exact sells.apart

theorem SellsApart.step (sells : t.SellsApart) (distinct : t'.shop.around.IsDistinct)
    (step : Step cfg t e t') : t'.SellsApart := by
  cases step with
  | rests => exact sells
  | begins c =>
    refine sells.of_same rfl (fun n id drafts => ?_) fun _ issued => issued
    obtain ⟨d, draft, under, drafted, rfl⟩ := drafts
    exact ⟨d, draft, getElem?_of_begun under drafted, drafted, rfl⟩
  | ends doer =>
    refine sells.of_same rfl (fun n id drafts => ?_) fun _ issued => issued
    obtain ⟨d, draft, under, drafted, rfl⟩ := drafts
    exact ⟨d, draft, getElem?_of_ended under drafted, drafted, rfl⟩
  | weather w => exact sells.of_same rfl (fun _ _ drafts => drafts) fun _ issued => issued
  | acts under ready move => exact sells.acts distinct under move

/-- An event takes no identifier back. -/
theorem Step.isDistinct (step : Step cfg t e t') (distinct : t'.shop.around.IsDistinct) :
    t.shop.around.IsDistinct := by
  cases step with
  | rests | begins | ends | weather => exact distinct
  | acts under ready move => exact move.follows.isDistinct distinct

/-- **No two sales have the same identifier**, provided that none is handed out twice. -/
theorem run_sells_apart [EmailCheck] (cfg : Shop.Config) (around : Surroundings)
    (stock : Assoc Uuid Int) (sequences : Assoc CalendarDay Int) (events : List Event)
    (distinct : ((opening around stock sequences).run cfg events).shop.around.IsDistinct) :
    ((opening around stock sequences).run cfg events).SellsApart := by
  refine run_keeps_all (P := fun t => t.shop.around.IsDistinct → t.SellsApart)
    (opening_isSound around stock sequences) (fun _ => ?_) ?_ distinct
  · have idle (n : Nat) (id : Uuid) : ¬ (opening around stock sequences).Drafts n id := by
      rintro ⟨d, draft, under, -⟩
      cases under
    exact ⟨(fun _ member => nomatch member), fun n id drafts => absurd drafts (idle n id),
      fun n id drafts => absurd drafts (idle n id),
      fun m _ id drafts => absurd drafts (idle m id), .nil⟩
  · intro t e t' _ sells step distinct
    exact (sells (step.isDistinct distinct)).step distinct step

end Traffic

end OrderFlow
