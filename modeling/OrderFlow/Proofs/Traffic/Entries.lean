import OrderFlow.Proofs.Traffic.Deliveries

/-!
Orders are entered once. However many deliveries there are of however many events, with the question
whether an event is known and the entry of its order in two separate steps, one delivery at most is
told that it has processed an event; an order that is in the book is never replaced or removed, and
the index of the book holds all the time (`orders_entered_once`).
-/
namespace OrderFlow.Traffic
variable {_ : EmailCheck} {cfg : Shop.Config} {t t' : Traffic} {e : Event}

/-- The order was entered by a delivery, and the event of the delivery is in the ledger. -/
def HasEntered (t : Traffic) (order : Order) : Prop :=
  ∃ h ∈ t.past, ∃ m event failures, h.before = .delivery m (.entering event failures) ∧
    h.after = .delivery m (.done (.ok .processed)) ∧
    event.orderId = order.id ∧ event.orderNumber = order.number ∧
    ∃ time, t.shop.book.processed.find? event.eventId = some ⟨.orderCreated, time⟩

/-- Traffic in which orders are entered once. -/
structure IsEntered (t : Traffic) : Prop where
  indexed : t.shop.book.IsIndexed
  always : ∀ h ∈ t.past, h.earlier.book.IsIndexed
  known : ∀ h ∈ t.past, ∀ id, h.processes? = some id → t.shop.book.isProcessed id = true
  once : t.past.Pairwise fun h h' => ∀ id, h.processes? = some id → h'.processes? ≠ some id
  origins : ∀ x order, t.shop.book.findOrder x = some order → t.HasEntered order

theorem HasEntered.later {order order' : Order} (entered : t.HasEntered order)
    (becomes : order.Becomes order') (past : t.past ⊆ t'.past)
    (known : ∀ id p, t.shop.book.processed.find? id = some p →
      t'.shop.book.processed.find? id = some p) : t'.HasEntered order' := by
  obtain ⟨h, member, m, event, failures, before, after, id, number, time, noted⟩ := entered
  exact ⟨h, past member, m, event, failures, before, after, id.trans becomes.id.symm,
    number.trans becomes.number.symm, time, known _ _ noted⟩

theorem IsEntered.once_acted (entered : t.IsEntered) {doer : Nat} {d d' : Doing} {later : Shop}
    (actual : (t.news doer d d' later).IsActual cfg) :
    (t.acted doer d d' later).past.Pairwise fun h h' =>
      ∀ id, h.processes? = some id → h'.processes? ≠ some id := by
  refine List.pairwise_append.mpr ⟨entered.once, List.pairwise_singleton _ _, ?_⟩
  intro h old h' new id processes processes'
  rw [List.mem_singleton.mp new] at processes'
  have known := entered.known h old id processes
  rw [(actual.processes processes').1] at known
  cases known

theorem IsEntered.origins_acted (entered : t.IsEntered) {doer : Nat} {d d' : Doing} {later : Shop}
    (actual : (t.news doer d d' later).IsActual cfg)
    (move : d.Move cfg t.shop d' later) {x : Uuid} {order : Order}
    (found : later.book.findOrder x = some order) :
    (t.acted doer d d' later).HasEntered order := by
  have change := move.changes
  rcases change.order_origin found with ⟨before, ofOrder, becomes⟩ | ⟨event, enters, rest⟩
  · exact (entered.origins x before ofOrder).later becomes (List.subset_append_left _ _)
      fun id p => change.processed_stays
  · obtain ⟨id, number, new, noted⟩ := rest
    obtain ⟨m, failures, rfl⟩ := Doing.of_entry enters
    have same := (entered.indexed.change change).ofOrder x order found
    rcases actual.enters rfl with ⟨after, _⟩ | ⟨stays, _⟩
    · exact ⟨_, List.mem_append_right _ (List.mem_singleton_self _), m, event, failures, rfl,
        after, id.trans same.symm, number, _, noted⟩
    · have stays : later.book = t.shop.book := stays
      rw [stays, new] at found
      cases found

theorem IsEntered.acts (entered : t.IsEntered) {doer : Nat} {d d' : Doing} {later : Shop}
    (actual : ∀ h ∈ (t.acted doer d d' later).past, h.IsActual cfg)
    (move : d.Move cfg t.shop d' later) : (t.acted doer d d' later).IsEntered := by
  have actual := actual _ (List.mem_append_right _ (List.mem_singleton_self _))
  refine ⟨entered.indexed.change move.changes, fun h member => ?_, fun h member id processes => ?_,
    entered.once_acted actual, fun x order => entered.origins_acted actual move⟩
  · rcases List.mem_append.mp member with old | new
    · exact entered.always h old
    · rw [List.mem_singleton.mp new]
      exact entered.indexed
  · rcases List.mem_append.mp member with old | new
    · exact move.changes.isProcessed_stays (entered.known h old id processes)
    · rw [List.mem_singleton.mp new] at processes
      exact (actual.processes processes).2

theorem IsEntered.step (entered : t.IsEntered)
    (actual : ∀ h ∈ t'.past, h.IsActual cfg) (step : Step cfg t e t') : t'.IsEntered := by
  cases step with
  | rests => exact entered
  | begins | ends | weather => exact { entered with }
  | acts _ _ move => exact entered.acts actual move

theorem run_isEntered [EmailCheck] (cfg : Shop.Config) (around : Surroundings)
    (stock : Assoc Uuid Int) (sequences : Assoc CalendarDay Int) (events : List Event) :
    ((opening around stock sequences).run cfg events).IsEntered := by
  refine run_keeps_actual (opening_isSound around stock sequences) (fun _ member => nomatch member)
    ⟨OrderBook.isIndexed_empty, (fun _ member => nomatch member), (fun _ member => nomatch member),
      .nil, fun _ _ found => nomatch found⟩ ?_
  intro t e t' _ actual entered step
  exact entered.step actual step

/-- **An order in the book stays there**, and its payment too. -/
theorem run_kept (sound : t.IsSound) (indexed : t.shop.book.IsIndexed) (events : List Event) :
    t.shop.book.Keeps (t.run cfg events).shop.book := by
  refine (run_keeps_all
    (P := fun t' => t'.shop.book.IsIndexed ∧ t.shop.book.Keeps t'.shop.book)
    sound ⟨indexed, .refl _⟩ ?_).2
  rintro t₁ e t₂ - ⟨indexed, kept⟩ step
  obtain ⟨o?, e?, change⟩ := step.book
  exact ⟨indexed.change change, kept.trans (change.keeps indexed)⟩

/-- Entering an order leaves the others and their payments as they are. -/
theorem entering_keeps {h : Happening} {m : Message} {event : OrderCreated}
    {failures : Delivery.Failures} (moved : h.before.Move cfg h.earlier h.after h.later)
    (indexed : h.earlier.book.IsIndexed)
    (before : h.before = .delivery m (.entering event failures)) (x : Uuid) :
    (∀ order, h.earlier.book.findOrder x = some order → h.later.book.findOrder x = some order) ∧
      ∀ tx, h.earlier.book.findPayment x = some tx → h.later.book.findPayment x = some tx := by
  rw [before] at moved
  rcases moved.entering with same | ⟨order', payment, _, _, created⟩
  · rw [same]
    exact ⟨fun _ found => found, fun _ found => found⟩
  · refine ⟨fun order found => ?_, fun tx found => ?_⟩
    · rw [created.findOrder, if_neg, found]
      rintro rfl
      rw [created.newOrder] at found
      cases found
    · rw [created.findPayment, if_neg, found]
      rintro rfl
      rw [indexed.unpaid created.newOrder] at found
      cases found

/-- **Orders are entered once.** One delivery at most has processed an event. Orders and payments
stay in the book; entering one leaves the others as they are, and an event that is new but has the
identifier or the number of an order that is there is refused and changes nothing. Orders and
payments go by the same identifiers, the numbers lead to the orders, and every order was entered by
a delivery whose event is in the ledger. -/
theorem orders_entered_once [EmailCheck] (cfg : Shop.Config) (around : Surroundings)
    (stock : Assoc Uuid Int) (sequences : Assoc CalendarDay Int) (events : List Event) :
    let t := (opening around stock sequences).run cfg events
    let b := t.shop.book
    (∀ id, (t.past.filter fun h => h.processes? = some id).length ≤ 1) ∧
    (∀ more,
      (∀ x order, b.findOrder x = some order → ∃ order',
        (t.run cfg more).shop.book.findOrder x = some order' ∧ order.Becomes order') ∧
      ∀ x tx, b.findPayment x = some tx → ∃ tx',
        (t.run cfg more).shop.book.findPayment x = some tx' ∧ tx.Becomes tx') ∧
    (∀ h ∈ t.past, ∀ m event failures, h.before = .delivery m (.entering event failures) →
      (∀ x, (∀ order, h.earlier.book.findOrder x = some order →
          h.later.book.findOrder x = some order) ∧
        ∀ tx, h.earlier.book.findPayment x = some tx → h.later.book.findPayment x = some tx) ∧
      (h.earlier.book.isProcessed event.eventId = false →
        ∀ x order, h.earlier.book.findOrder x = some order →
          x = event.orderId ∨ order.number = event.orderNumber →
          h.later.book = h.earlier.book ∧ (∃ e, h.failure? = some e) ∧
            ∀ handling, h.after ≠ .delivery m (.done (.ok handling)))) ∧
    b.IsIndexed ∧
    (∀ n order, b.findByNumber n = some order ↔
      b.findOrder order.id = some order ∧ order.number = n) ∧
    (∀ n, b.findByNumber n = none ↔ ∀ x order, b.findOrder x = some order → order.number ≠ n) ∧
    ∀ x order, b.findOrder x = some order → t.HasEntered order := by
  intro t b
  have entered : t.IsEntered := run_isEntered cfg around stock sequences events
  have continuous : t.IsContinuous cfg := run_isContinuous cfg around stock sequences events
  have sound : t.IsSound := (opening_isSound around stock sequences).run events
  have actual : ∀ h ∈ t.past, h.IsActual cfg := run_isActual cfg around stock sequences events
  refine ⟨fun id => ?_, run_kept sound entered.indexed, fun h member m event failures before => ?_,
    entered.indexed, fun n order => entered.indexed.findByNumber_iff,
    fun n => entered.indexed.findByNumber_none, entered.origins⟩
  · refine length_le_one ((entered.once.filter _).imp_of_mem fun {h h'} member member' once => ?_)
    exact once id (of_decide_eq_true (List.mem_filter.mp member).2)
      (of_decide_eq_true (List.mem_filter.mp member').2)
  · have moved := continuous.moved h member
    have indexed := entered.always h member
    refine ⟨entering_keeps moved indexed before, fun unknown x order found taken => ?_⟩
    have stays : h.later.book = h.earlier.book := by
      rw [before] at moved
      refine moved.entering.resolve_right ?_
      rintro ⟨order', payment, id, number, created⟩
      exact indexed.not_created found (id ▸ number ▸ taken) created
    rcases (actual h member).enters before with ⟨_, _, known⟩ | ⟨_, known | refused⟩
    · rw [stays, unknown] at known
      cases known
    · rw [unknown] at known
      cases known
    · exact ⟨stays, refused⟩

end OrderFlow.Traffic
