import OrderFlow.Email
import OrderFlow.Proofs.Checkout.Sales
import OrderFlow.Proofs.Traffic.Past
import OrderFlow.Samples

/-!
Sales in traffic. However calls that check out follow each other, under one key there is one sale at
most as long as its record counts, and every other call under that key is answered from the record
or refused, without writing anything (`sales_under_keys`). What the ledger has in stock, how far it
has counted and what it has posted is the work of these sales alone.
-/
namespace OrderFlow

/-- The sale that something done has made. -/
def Happening.sale? (h : Happening) : Option Sale :=
  match h.before, h.after with
  | .checkout key request (.committing _ draft), .checkout _ _ (.done (.ok outcome)) =>
    some ⟨key, request, draft, outcome, h.earlier.around.now⟩
  | _, _ => none

/-- The sales so far. -/
def Traffic.sales (t : Traffic) : List Sale := t.past.filterMap (·.sale?)

/-- A sale of what was asked for under its key, whose record counts for the time `keep`. -/
structure Sale.IsSound (keep : Int) (s : Sale) : Prop where
  key : s.draft.key = Text.trim s.key
  fingerprint : s.draft.fingerprint = s.request.fingerprint
  cart : s.draft.cartId = s.request.cartId
  customer : s.draft.customer = s.request.customer
  keep : s.draft.keep = keep

/-- A sale under the same key to the same request, answered as it was. -/
def CheckoutOutcome.Repeats (sales : List Sale) (key : String) (request : CheckoutRequest)
    (outcome : CheckoutOutcome) : Prop :=
  ∃ s ∈ sales, Text.trim s.key = Text.trim key ∧ s.request.fingerprint = request.fingerprint ∧
    outcome.statusCode = s.outcome.statusCode ∧ outcome.response = s.outcome.response

namespace Checkout
variable {_ : EmailCheck}
variable {keep : Int} {sales : List Sale} {key : String} {request : CheckoutRequest}

/-- A call for a request under a key, in a shop that has made these sales. -/
structure Phase.Serves (keep : Int) (sales : List Sale) (key : String) (request : CheckoutRequest)
    (p : Phase) : Prop where
  order : ∀ o, p.order? = some o → o = ⟨Text.trim key, request.fingerprint, request⟩
  drafts : ∀ o draft, p = .committing o draft → draft.key = o.key ∧
    draft.fingerprint = o.fingerprint ∧ draft.cartId = o.request.cartId ∧
    draft.customer = o.request.customer ∧ draft.keep = keep
  repeats : ∀ outcome, p = .done (.ok outcome) → outcome.replayed = true →
    outcome.Repeats sales key request

theorem checkKey_ok {k : String} (checked : checkKey key = .ok k) : k = Text.trim key := by
  simp only [checkKey] at checked
  split at checked
  · cases checked
  · split at checked
    · cases checked
    · cases checked
      rfl

theorem Phase.Serves.failed (e : CheckoutError) :
    (Phase.done (.error e)).Serves keep sales key request :=
  ⟨(fun _ under => nomatch under), (fun _ _ same => nomatch same), fun _ same => nomatch same⟩

theorem begin_serves (keep : Int) (sales : List Sale) (key : String) (request : CheckoutRequest) :
    (begin key request).Serves keep sales key request := by
  unfold begin
  split
  · exact .failed _
  · next k checked =>
    split
    · exact .failed _
    · refine ⟨fun o under => ?_, (fun _ _ same => nomatch same), fun _ same => nomatch same⟩
      cases under
      rw [checkKey_ok checked]

theorem Phase.Serves.more {p : Phase} (serves : p.Serves keep sales key request)
    (more : List Sale) : p.Serves keep (sales ++ more) key request := by
  refine { serves with repeats := fun outcome ends replayed => ?_ }
  obtain ⟨s, member, rest⟩ := serves.repeats outcome ends replayed
  exact ⟨s, List.mem_append_left _ member, rest⟩

theorem Phase.order?_of_seeks? {p : Phase} {o : Order} (seeks : p.seeks? = some o) :
    p.order? = some o := by
  cases p <;> first | exact seeks | cases seeks

/-- A record that counts is that of a sale under its key. -/
theorem exists_sale {l before : Ledger} {now : Instant} {record : KeyRecord}
    (recalls : Ledger.Recalls before l sales) (sound : ∀ s ∈ sales, s.IsSound keep)
    (found : l.find? key now = some record) :
    ∃ s ∈ sales, Text.trim s.key = key ∧ record.IsOf s := by
  obtain ⟨known, -⟩ := Option.filter_eq_some_iff.mp found
  obtain ⟨s, member, final, ⟨number, eventId, finalized, result⟩, entry⟩ :=
    recalls.kept _ (Assoc.mem_of_find? known)
  obtain ⟨sameKey, rfl⟩ := Prod.mk.inj entry
  have sound := sound s member
  refine ⟨s, member, sound.key.symm.trans sameKey.symm, ?_, ?_⟩
  · rw [← sound.fingerprint, finalized.record]
  · rw [finalized.replay, result]

/-- An answer from a record repeats the sale to which the record belongs. -/
theorem replay_repeats {l before : Ledger} {now : Instant} {fingerprint : String}
    {record : KeyRecord} {outcome : CheckoutOutcome} (recalls : Ledger.Recalls before l sales)
    (sound : ∀ s ∈ sales, s.IsSound keep)
    (found : l.find? (Text.trim key) now = some record)
    (same : fingerprint = request.fingerprint)
    (answered : replay (Text.trim key) fingerprint record = .ok outcome) :
    outcome.Repeats sales key request := by
  obtain ⟨s, member, under, made⟩ := exists_sale recalls sound found
  simp only [replay] at answered
  split at answered
  · next agrees =>
    rw [made.replay] at answered
    cases answered
    exact ⟨s, member, under, by rw [← made.fingerprint, agrees, same], rfl, rfl⟩
  · cases answered

/-- A call goes on serving its request. -/
theorem Move.serves {before : Ledger} {d d' : CheckoutDesk} {p p' : Phase}
    (move : Move keep d d' p p') (serves : p.Serves keep sales key request)
    (recalls : Ledger.Recalls before d.ledger sales)
    (sound : ∀ s ∈ sales, s.IsSound keep) : p'.Serves keep sales key request := by
  cases move with
  | answers seeks found aside =>
    have shape := serves.order _ (Phase.order?_of_seeks? seeks)
    subst shape
    refine ⟨(fun _ under => nomatch under), (fun _ _ same => nomatch same), ?_⟩
    intro outcome ends _
    exact replay_repeats recalls sound found rfl (Phase.done.inj ends)
  | fails => exact .failed _
  | goesOn =>
    exact ⟨serves.order, (fun _ _ same => nomatch same), fun _ same => nomatch same⟩
  | drafts shape =>
    refine ⟨serves.order, ?_, fun _ same => nomatch same⟩
    intro o draft same
    cases same
    exact shape
  | @commits o draft final eventId wanted fresh writes committed =>
    refine ⟨(fun _ under => nomatch under), (fun _ _ same => nomatch same), ?_⟩
    intro outcome ends replayed
    cases ends
    rw [(CheckoutDraft.finalize_ok committed.finalized).outcome] at replayed
    cases replayed
  | yields =>
    exact ⟨serves.order, (fun _ _ same => nomatch same), fun _ same => nomatch same⟩
  | rests => exact serves

end Checkout

namespace Doing
variable {_ : EmailCheck} {cfg : Shop.Config} {s s' : Shop} {d d' : Doing}

/-- Whatever is done, the ledger changes by the sale that is made, if any. -/
theorem Move.ledger (move : d.Move cfg s d' s') (doer run : Nat) :
    Ledger.Change s.around.now s.ledger s'.ledger (Happening.sale? ⟨doer, run, d, d', s, s'⟩) := by
  cases move with
  | @checkout key request p p' desk move =>
    have unsold (none : ∀ o draft outcome, p = .committing o draft → p' ≠ .done (.ok outcome)) :
        Happening.sale? ⟨doer, run, .checkout key request p, .checkout key request p', s,
          s.withCheckoutDesk desk⟩ = Option.none := by
      unfold Happening.sale?
      split
      · next same same' =>
        cases same
        cases same'
        exact absurd rfl (none _ _ _ rfl)
      · rfl
    cases move with
    | answers seeks _ aside =>
      rw [unsold fun o draft outcome same => by rw [same] at seeks; cases seeks]
      exact .stays aside.ledger
    | fails _ _ aside =>
      rw [unsold fun o draft outcome _ same => nomatch same]
      exact .stays aside.ledger
    | goesOn _ aside | drafts _ _ _ aside | yields aside | rests aside => exact .stays aside.ledger
    | commits _ _ committed => exact .sells rfl rfl committed
  | cleans does =>
    rcases does with aside | writes
    · exact .stays aside.ledger
    · exact .sweeps writes.ledger
  | @batch side _ _ _ move =>
    cases side with
    | checkout => exact .posts rfl rfl rfl move.postings
    | orders => exact .stays rfl
  | _ => exact .stays rfl

/-- Only a sale of its own lets a call write. -/
theorem Move.writes_nothing (move : d.Move cfg s d' s') {key : String} {request : CheckoutRequest}
    {r : Except CheckoutError CheckoutOutcome}
    (call : (Doing.checkout key request (.done r)).Becomes d ∨
      d'.Becomes (Doing.checkout key request (.done r)))
    (repeats : ∀ outcome, r = .ok outcome → outcome.replayed = true) : s'.ledger = s.ledger := by
  cases move with
  | checkout move =>
    cases move with
    | answers _ _ aside | fails _ _ aside | goesOn _ aside | drafts _ _ _ aside | yields aside
    | rests aside => exact aside.ledger
    | commits _ _ committed =>
      rcases call with ⟨-, -, stays⟩ | ⟨-, -, stays⟩
      · cases stays r rfl
      · cases stays _ rfl
        have replayed := repeats _ rfl
        rw [(CheckoutDraft.finalize_ok committed.finalized).outcome] at replayed
        cases replayed
  | cleans =>
    rcases call with wrong | wrong <;> cases wrong
  | @batch side =>
    cases side with
    | checkout => rcases call with wrong | wrong <;> cases wrong
    | orders => rfl
  | _ => rfl

/-- A call that serves its request; anything else serves none. -/
def Serves (keep : Int) (sales : List Sale) : Doing → Prop
  | checkout key request p => p.Serves keep sales key request
  | _ => True

theorem Serves.more {keep : Int} {sales : List Sale} (serves : d.Serves keep sales)
    (more : List Sale) : d.Serves keep (sales ++ more) := by
  cases d with
  | checkout => exact Checkout.Phase.Serves.more serves more
  | _ => trivial

theorem Move.serves {before : Ledger} {sales : List Sale} (move : d.Move cfg s d' s')
    (serves : d.Serves cfg.keep sales)
    (recalls : Ledger.Recalls before s.ledger sales)
    (sound : ∀ s ∈ sales, s.IsSound cfg.keep) : d'.Serves cfg.keep sales := by
  cases move with
  | checkout move => exact Checkout.Move.serves move serves recalls sound
  | _ => trivial

/-- A call that is shown a record is answered from it. -/
theorem Move.shown {key : String} {request : CheckoutRequest} {p : Checkout.Phase}
    {o : Checkout.Order} {sales : List Sale} {record : KeyRecord}
    (move : (Doing.checkout key request p).Move cfg s d' s')
    (serves : p.Serves cfg.keep sales key request) (seeks : p.seeks? = some o)
    (calm : s.around.IsCalm .findRecord)
    (found : s.ledger.find? (Text.trim key) s.around.now = some record) :
    d' = .checkout key request
      (.done (Checkout.replay (Text.trim key) request.fingerprint record)) := by
  have shape := serves.order o (Checkout.Phase.order?_of_seeks? seeks)
  subst shape
  have not_hidden (none : s.ledger.find? (Text.trim key) s.around.now = none) : False := by
    rw [found] at none
    cases none
  cases move with
  | checkout move =>
    cases move with
    | answers seeks' found' =>
      cases seeks.symm.trans seeks'
      cases found.symm.trans found'
      rfl
    | fails under blind =>
      have same := serves.order _ under
      subst same
      exact (not_hidden (blind seeks calm)).elim
    | goesOn blind =>
      cases seeks
      exact (not_hidden (blind calm)).elim
    | drafts | commits | yields | rests => cases seeks

end Doing

/-- What a call sells is what it was asked for. -/
theorem Happening.sale_isSound {h : Happening} {sale : Sale} {keep : Int} {sales : List Sale}
    (serves : h.before.Serves keep sales) (sells : h.sale? = some sale) : sale.IsSound keep := by
  unfold Happening.sale? at sells
  split at sells
  · next key request o draft _ _ outcome before after =>
    cases sells
    rw [before] at serves
    have shape := Checkout.Phase.Serves.order serves o rfl
    obtain ⟨sameKey, print, cart, customer, kept⟩ := Checkout.Phase.Serves.drafts serves o draft rfl
    subst shape
    exact ⟨sameKey, print, cart, customer, kept⟩
  · cases sells

/-- Time does not go backwards. -/
def Event.IsSteady (t : Traffic) : Event → Prop
  | .change w => t.shop.around.now ≤ w.now
  | _ => True

instance (t : Traffic) : (e : Event) → Decidable (e.IsSteady t)
  | .change w => inferInstanceAs (Decidable (t.shop.around.now ≤ w.now))
  | .call _ | .advance _ | .abandon _ => .isTrue trivial

namespace Traffic
section
variable {_ : EmailCheck} {cfg : Shop.Config} {t t' : Traffic} {e : Event}

/-- The ledger recalls the sales, and everything serves what was asked for. -/
structure IsServed [EmailCheck] (cfg : Shop.Config) (before : Ledger) (t : Traffic) : Prop where
  recalls : Ledger.Recalls before t.shop.ledger t.sales
  sound : ∀ s ∈ t.sales, s.IsSound cfg.keep
  doings : ∀ d ∈ t.doings, d.Serves cfg.keep t.sales
  past : ∀ h ∈ t.past, h.before.Serves cfg.keep t.sales ∧ h.after.Serves cfg.keep t.sales

theorem sales_acted {doer : Nat} {d d' : Doing} {later : Shop} :
    (t.acted doer d d' later).sales = t.sales ++
      (Happening.sale? ⟨doer, t.runOf doer d, d, d', t.shop, later⟩).toList := by
  simp only [sales, acted, List.filterMap_append]
  cases sale : Happening.sale? ⟨doer, t.runOf doer d, d, d', t.shop, later⟩ <;> simp [sale]

theorem IsServed.acts {before : Ledger} (served : t.IsServed cfg before) {doer : Nat} {d d' : Doing}
    {later : Shop} (under : t.doings[doer]? = some d) (move : d.Move cfg t.shop d' later) :
    (t.acted doer d d' later).IsServed cfg before := by
  have serves := served.doings d (List.mem_of_getElem? under)
  have serves' := move.serves serves served.recalls served.sound
  refine ⟨?_, fun s member => ?_, fun e member => ?_, fun h member => ?_⟩
  · rw [sales_acted]
    exact served.recalls.change (move.ledger doer (t.runOf doer d))
  · rw [sales_acted] at member
    rcases List.mem_append.mp member with old | new
    · exact served.sound s old
    · exact Happening.sale_isSound serves (Option.mem_toList.mp new)
  · rw [sales_acted]
    rcases mem_doings_acted member with old | rfl | ⟨p, _, rfl⟩
    · exact (served.doings e old).more _
    · exact serves'.more _
    · trivial
  · rw [sales_acted]
    rcases List.mem_append.mp member with old | new
    · exact ⟨(served.past h old).1.more _, (served.past h old).2.more _⟩
    · rw [List.mem_singleton.mp new]
      exact ⟨serves.more _, serves'.more _⟩

theorem IsServed.step {before : Ledger} (served : t.IsServed cfg before) (step : Step cfg t e t') :
    t'.IsServed cfg before := by
  cases step with
  | rests => exact served
  | begins c =>
    refine ⟨served.recalls, served.sound, forall_begun served.doings ?_, served.past⟩
    cases c with
    | checkOut key request => exact Checkout.begin_serves _ _ key request
    | _ => trivial
  | ends doer =>
    exact ⟨served.recalls, served.sound, forall_ended served.doings trivial doer, served.past⟩
  | weather w => exact ⟨served.recalls, served.sound, served.doings, served.past⟩
  | acts under ready move => exact served.acts under move

theorem run_isServed [EmailCheck] (cfg : Shop.Config) (around : Surroundings)
    (stock : Assoc Uuid Int) (sequences : Assoc CalendarDay Int) (events : List Event) :
    ((opening around stock sequences).run cfg events).IsServed cfg { stock, sequences } := by
  refine run_keeps_all (opening_isSound around stock sequences) ?_
    fun _ _ _ _ served step => served.step step
  exact ⟨⟨(fun _ member => nomatch member), rfl, rfl, .nil⟩, (fun _ member => nomatch member),
    (fun _ member => nomatch member), fun _ member => nomatch member⟩

/-- Where time does not go backwards, sales under one key stay apart. -/
theorem Step.sets_apart {before : Ledger} (served : t.IsServed cfg before)
    (sets : Ledger.SetsApart cfg.keep t.shop.ledger t.sales t.shop.around.now)
    (steady : e.IsSteady t) (step : Step cfg t e t') :
    Ledger.SetsApart cfg.keep t'.shop.ledger t'.sales t'.shop.around.now := by
  cases step with
  | rests | begins | ends => exact sets
  | weather w => exact sets.later steady
  | @acts doer d d' later under ready move =>
    have serves := served.doings d (List.mem_of_getElem? under)
    rw [sales_acted]
    show Ledger.SetsApart _ later.ledger _ later.around.now
    rw [move.follows.now]
    exact sets.change (move.ledger doer (t.runOf doer d))
      fun s sells => (Happening.sale_isSound serves sells).keep

theorem run_sets_apart [EmailCheck] (cfg : Shop.Config) (around : Surroundings)
    (stock : Assoc Uuid Int) (sequences : Assoc CalendarDay Int) (events : List Event)
    (steady : Along cfg (fun t e => e.IsSteady t) (opening around stock sequences) events) :
    let t := (opening around stock sequences).run cfg events
    Ledger.SetsApart cfg.keep t.shop.ledger t.sales t.shop.around.now := by
  refine (run_keeps (P := fun t => t.IsServed cfg { stock, sequences } ∧
    Ledger.SetsApart cfg.keep t.shop.ledger t.sales t.shop.around.now)
    (opening_isSound around stock sequences) ?_ steady ?_).2
  · exact ⟨run_isServed cfg around stock sequences [], (fun _ member => nomatch member), .nil⟩
  · rintro t e t' - ⟨served, sets⟩ steady step
    exact ⟨served.step step, step.sets_apart served sets steady⟩

/-- A call that is not answered with a sale of its own has written nothing. -/
theorem IsContinuous.writes_nothing (continuous : t.IsContinuous cfg) {h h' : Happening}
    (member : h ∈ t.past) {key : String} {request : CheckoutRequest}
    {r : Except CheckoutError CheckoutOutcome} (ends : h.after = .checkout key request (.done r))
    (repeats : ∀ outcome, r = .ok outcome → outcome.replayed = true)
    (own : h' ∈ t.doneBy h.doer) : h'.later.ledger = h'.earlier.ledger := by
  obtain ⟨member', same⟩ := List.mem_filter.mp own
  have same : h'.doer = h.doer := of_decide_eq_true same
  -- A doer keeps to its call, so what it has done before or after belongs to the call that ends so.
  have call : h.after.Becomes h'.before ∨ h'.after.Becomes h.after := by
    rcases related_of_pairwise continuous.chained member member' with rfl | before | after
    · exact .inr (.refl _)
    · exact .inl (before same.symm)
    · exact .inr ((after same).trans (continuous.moved h member).becomes)
  rw [ends] at call
  exact (continuous.moved h' member').writes_nothing call repeats

/-- Of sales that are apart, a window that is no longer than they are holds one at most. -/
theorem one_in_window {keep : Int} {sales : List Sale} (key : String) (start : Instant)
    (apart : sales.Pairwise fun s s' =>
      Text.trim s.key = Text.trim s'.key → s.time.shift keep ≤ s'.time) :
    (sales.filter fun s =>
      Text.trim s.key = key ∧ start ≤ s.time ∧ s.time < start.shift keep).length ≤ 1 := by
  have alone (s s' : Sale) (member : s ∈ sales.filter fun s =>
      Text.trim s.key = key ∧ start ≤ s.time ∧ s.time < start.shift keep)
      (member' : s' ∈ sales.filter fun s =>
        Text.trim s.key = key ∧ start ≤ s.time ∧ s.time < start.shift keep)
      (apart : Text.trim s.key = Text.trim s'.key → s.time.shift keep ≤ s'.time) : False := by
    obtain ⟨sameKey, since, -⟩ := of_decide_eq_true (List.mem_filter.mp member).2
    obtain ⟨sameKey', -, before⟩ := of_decide_eq_true (List.mem_filter.mp member').2
    have later : s.time.nanos + keep ≤ s'.time.nanos := apart (sameKey.trans sameKey'.symm)
    have since : start.nanos ≤ s.time.nanos := since
    have before : s'.time.nanos < start.nanos + keep := before
    omega
  exact length_le_one ((apart.filter _).imp_of_mem
    fun {s s'} member member' => alone s s' member member')

/-- **Under a key there is one sale at a time**: every other call is answered as the sale was, or
refused, and writes nothing; and the ledger is the work of the sales. -/
theorem sales_under_keys [EmailCheck] (cfg : Shop.Config) (around : Surroundings)
    (stock : Assoc Uuid Int) (sequences : Assoc CalendarDay Int) (events : List Event)
    (steady : Along cfg (fun t e => e.IsSteady t) (opening around stock sequences) events) :
    let t := (opening around stock sequences).run cfg events
    t.sales.Pairwise (fun s s' =>
        Text.trim s.key = Text.trim s'.key → s.time.shift cfg.keep ≤ s'.time) ∧
      (∀ h ∈ t.past, ∀ key request outcome, h.after = .checkout key request (.done (.ok outcome)) →
        outcome.replayed = true → outcome.Repeats t.sales key request ∧
          ∀ h' ∈ t.doneBy h.doer, h'.later.ledger = h'.earlier.ledger) ∧
      (∀ h ∈ t.past, ∀ key request p o record, h.before = .checkout key request p →
        p.seeks? = some o → h.earlier.around.IsCalm .findRecord →
        h.earlier.ledger.find? (Text.trim key) h.earlier.around.now = some record →
        record.fingerprint ≠ request.fingerprint →
        h.after = .checkout key request (.done (.error (.shared (.keyReused (Text.trim key))))) ∧
          ∀ h' ∈ t.doneBy h.doer, h'.later.ledger = h'.earlier.ledger) ∧
      (∀ key start, (t.sales.filter fun s =>
        Text.trim s.key = key ∧ start ≤ s.time ∧ s.time < start.shift cfg.keep).length ≤ 1) ∧
      t.shop.ledger.stock = t.sales.foldl Sale.takeOut stock ∧
      t.shop.ledger.sequences = t.sales.foldl Sale.count sequences ∧
      t.shop.ledger.outbox.postings.length = t.sales.length := by
  intro t
  have served : t.IsServed cfg { stock, sequences } :=
    run_isServed cfg around stock sequences events
  have continuous : t.IsContinuous cfg := run_isContinuous cfg around stock sequences events
  have apart : t.sales.Pairwise fun s s' =>
      Text.trim s.key = Text.trim s'.key → s.time.shift cfg.keep ≤ s'.time := by
    have sets := run_sets_apart cfg around stock sequences events steady
    refine sets.apart.imp_of_mem fun member member' apart same => apart ?_
    rw [(served.sound _ member).key, (served.sound _ member').key, same]
  refine ⟨apart, ?_, ?_, fun key start => ?_, served.recalls.stock, served.recalls.sequences,
    served.recalls.posted.length_eq.symm⟩
  · intro h member key request outcome ends replayed
    have serves := (served.past h member).2
    rw [ends] at serves
    refine ⟨Checkout.Phase.Serves.repeats serves outcome rfl replayed, fun h' own => ?_⟩
    refine continuous.writes_nothing member ends (fun outcome' same => ?_) own
    cases same
    exact replayed
  · intro h member key request p o record calls seeks calm found other
    have move := continuous.moved h member
    have serves := (served.past h member).1
    rw [calls] at move serves
    have refused := move.shown serves seeks calm found
    rw [Checkout.replay, if_neg other] at refused
    exact ⟨refused, fun h' own =>
      continuous.writes_nothing member refused (fun outcome same => nomatch same) own⟩
  · exact one_in_window key start apart

end

/-- The answer that a call has got from a record. -/
def replay? : Doing → Option CheckoutOutcome
  | .checkout _ _ (.done (.ok outcome)) => if outcome.replayed then some outcome else none
  | _ => none

theorem of_replay? {d : Doing} {outcome : CheckoutOutcome} (answered : replay? d = some outcome) :
    ∃ key request, d = .checkout key request (.done (.ok outcome)) ∧ outcome.replayed = true := by
  unfold replay? at answered
  split at answered
  · split at answered
    · next key request _ replayed =>
      cases answered
      exact ⟨key, request, rfl, replayed⟩
    · cases answered
  · cases answered

/-- Of two calls under one key, whose steps take turns, one makes a sale and the other repeats its
answer; when the record does not count any more, there is another sale. -/
theorem two_calls_apart :
    let cfg : Shop.Config := ⟨60000000000, .zero, default, default, default, default⟩
    let request : CheckoutRequest := ⟨default, Samples.customer⟩
    let line : CartLine := ⟨default, "SKU-001", "Mechanical Keyboard", 2, Samples.price⟩
    let events : List Event :=
      [.call (.checkOut "k" request), .call (.checkOut " k" request),
        .change { now := ⟨1⟩, carts := [(default, [line])] }, .advance 0, .advance 1, .advance 1,
        .advance 0, .advance 1, .advance 0, .advance 0,
        .change { now := ⟨60000000001⟩, carts := [(default, [line])] },
        .call (.checkOut "k" request), .advance 2, .advance 2, .advance 2]
    let start : Traffic := opening { now := ⟨0⟩ } [(default, 5)] []
    let t := start.run cfg events
    Along cfg (fun t e => e.IsSteady t) start events ∧
      t.sales.map (·.time) = [⟨1⟩, ⟨60000000001⟩] ∧
      t.sales.Pairwise (fun s s' =>
        Text.trim s.key = Text.trim s'.key → s.time.shift cfg.keep ≤ s'.time) ∧
      ∃ h ∈ t.past, ∃ key request outcome, h.after = .checkout key request (.done (.ok outcome)) ∧
        outcome.replayed = true ∧ outcome.Repeats t.sales key request ∧
        ∀ h' ∈ t.doneBy h.doer, h'.later.ledger = h'.earlier.ledger := by
  intro cfg request line events start t
  have steady : Along cfg (fun t e => e.IsSteady t) start events := by decide +kernel
  have times : t.sales.map (·.time) = [⟨1⟩, ⟨60000000001⟩] := by decide +kernel
  obtain ⟨h, member, answered⟩ : ∃ h ∈ t.past, (replay? h.after).isSome = true := by decide +kernel
  obtain ⟨outcome, answered⟩ := Option.isSome_iff_exists.mp answered
  obtain ⟨key, request, ends, replayed⟩ := of_replay? answered
  have sells := sales_under_keys cfg { now := ⟨0⟩ } [(default, 5)] [] events steady
  have same : (opening { now := ⟨0⟩ } [(default, 5)] []).run cfg events = t := rfl
  rw [same] at sells
  obtain ⟨apart, repeats, -⟩ := sells
  exact ⟨steady, times, apart, h, member, key, request, outcome, ends, replayed,
    repeats h member key request outcome ends replayed⟩

end Traffic

end OrderFlow
