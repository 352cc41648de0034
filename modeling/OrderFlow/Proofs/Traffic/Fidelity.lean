import OrderFlow.Email
import OrderFlow.Proofs.Traffic.Bills
import OrderFlow.Proofs.Traffic.Drafts
import OrderFlow.Proofs.Traffic.Origins
import OrderFlow.Proofs.Traffic.Recovery

/-!
Faithful orders. However checkouts, publishers, deliveries and attempts to pay follow each other,
and whatever is lost or comes twice, every order in the book stems from exactly one sale, agrees
with it in every field, and is charged for with the sum of the lines that were sold
(`orders_faithful`).
-/
namespace OrderFlow.Traffic

/-- Where sales have identifiers of their own, one of them is the only one with its own. -/
theorem filter_own {sales : List Sale}
    (apart : sales.Pairwise fun s s' => s.draft.orderId ≠ s'.draft.orderId) {s : Sale}
    (member : s ∈ sales) :
    (sales.filter fun s' => s'.draft.orderId = s.draft.orderId) = [s] := by
  induction sales with
  | nil => cases member
  | cons first rest ih =>
    obtain ⟨others, apart⟩ := List.pairwise_cons.mp apart
    rcases List.mem_cons.mp member with rfl | later
    · rw [List.filter_cons_of_pos (by simp)]
      congr 1
      refine List.filter_eq_nil_iff.mpr fun s' member' same => ?_
      exact others s' member' (of_decide_eq_true same).symm
    · rw [List.filter_cons_of_neg (by simpa using others s later)]
      exact ih apart later

/-- **Every order is the order of exactly one sale**, in every field, and what is charged for it is
the sum of the lines of that sale. These are the lines that the cart had when the call that made the
sale put its draft together. -/
theorem orders_faithful [EmailCheck] (cfg : Shop.Config) (around : Surroundings)
    (stock : Assoc Uuid Int) (sequences : Assoc CalendarDay Int) (events : List Event)
    (genuine : Along cfg (fun t e => e.IsGenuine t) (opening around stock sequences) events)
    (distinct : ((opening around stock sequences).run cfg events).shop.around.IsDistinct) :
    let t := (opening around stock sequences).run cfg events
    let b := t.shop.book
    (∀ x order, b.findOrder x = some order → order.id = x ∧
      ∃ s, (t.sales.filter fun s => s.draft.orderId = x) = [s] ∧ order.StemsFrom s ∧
        order.cartId = s.request.cartId ∧ order.customer = s.request.customer ∧
        (∃ made ∈ t.past, made.sale? = some s ∧
          ∃ drafted ∈ t.past, drafted.doer = made.doer ∧ drafted.Drafts s.draft ∧
            drafted.earlier.carts.find? s.request.cartId = some s.draft.lines) ∧
        (∃ tx, b.findPayment x = some tx ∧
          Decimal.sum (s.draft.lines.map CartLine.subtotal) = some tx.amount) ∧
        ∀ call ∈ t.shop.gateway.calls, call.request.orderId = x →
          Decimal.sum (s.draft.lines.map CartLine.subtotal) = some call.request.amount) ∧
      (∀ s x x' order order', b.findOrder x = some order → b.findOrder x' = some order' →
        order.StemsFrom s → order'.StemsFrom s → x = x') ∧
      ∀ call ∈ t.shop.gateway.calls, b.Bills call.request := by
  intro t b
  have served : t.IsServed cfg { stock, sequences } :=
    run_isServed cfg around stock sequences events
  have filled : t.IsFilled := run_isFilled cfg around stock sequences events
  have sells : t.SellsApart := run_sells_apart cfg around stock sequences events distinct
  have rooted : t.IsRooted := run_isRooted cfg around stock sequences events genuine
  have billed : t.IsBilled := run_isBilled cfg around stock sequences events
  refine ⟨fun x order found => ?_, ?_, billed.calls⟩
  · have named : order.id = x := billed.priced.named x order found
    obtain ⟨s, member, stems⟩ := rooted.rooted x order found
    have own : s.draft.orderId = x := stems.id.symm.trans named
    have sound := served.sound s member
    refine ⟨named, s, ?_, stems, ?_, ?_, ?_, ?_, fun call logged about => ?_⟩
    · rw [← own]
      exact filter_own sells.apart member
    · rw [stems.cart, sound.cart]
    · rw [stems.customer, sound.customer]
    · obtain ⟨made, past, sells⟩ := List.mem_filterMap.mp member
      obtain ⟨drafted, earlier, own, drafts⟩ := filled.sold made past s sells
      exact ⟨made, past, sells, drafted, earlier, own, drafts, sound.cart ▸ drafts.lines⟩
    -- An order that is in the book has an account, and with it a payment.
    · have account : b.Account x (t.settlements x) :=
        run_accounts cfg around stock sequences events x
      generalize t.settlements x = applied at account
      obtain ⟨tx, ofPayment⟩ : ∃ tx, b.findPayment x = some tx := by
        cases account with
        | unknown noOrder =>
          rw [found] at noOrder
          cases noOrder
        | waiting _ ofPayment | settled _ ofPayment => exact ⟨_, ofPayment⟩
      refine ⟨tx, ofPayment, ?_⟩
      have amount : tx.amount = order.subtotal :=
        congrArg (·.amount) (billed.priced.bill x order tx found ofPayment)
      rw [amount, stems.total]
    · obtain ⟨order', found', bill⟩ := billed.calls call logged
      rw [about, show t.shop.book.findOrder x = some order from found] at found'
      cases found'
      rw [bill, stems.total]
      rfl
  · intro s x x' order order' found found' stems stems'
    have named : order.id = x := billed.priced.named x order found
    have named' : order'.id = x' := billed.priced.named x' order' found'
    rw [← named, ← named', stems.id, stems'.id]

/-! ## A message that comes twice -/

/-- A shop that has five pieces. -/
def stocked : Traffic := opening { now := ⟨0⟩ } [(default, 5)] []

/-- Two of them are sold, and the message about it is sent. -/
def selling : List Event :=
  let line : CartLine := ⟨default, "SKU-001", "Mechanical Keyboard", 2, Samples.price⟩
  [.call (.checkOut "k" ⟨default, Samples.customer⟩),
    .change { now := ⟨1⟩, carts := [(default, [line])] }, .advance 0, .advance 0, .advance 0,
    .call (.publish .checkout), .advance 1, .advance 1]

/-- The event of the sale. -/
def sold : OrderCreated :=
  let ids := stocked.shop.around.ids
  ⟨ids.ordered 2, .orderCreated, eventVersion, .ofInstant ⟨1⟩,
    "checkout-" ++ (ids.random 1).text, ids.ordered 0, "ORD-19700101-001", Samples.customer,
    [⟨default, "SKU-001", "Mechanical Keyboard", 2, Samples.price, Samples.amount⟩],
    Samples.amount, default⟩

/-- The message that carries it. -/
def soldMessage : Message where
  topic := EventKind.orderCreated.topic
  payload := Octets.ofText sold.toJson.ordered.render

theorem received_sold : Incoming.ofMessage soldMessage = .ok (.orderCreated sold) :=
  Incoming.ofMessage_orderCreated (by decide +kernel)
    ⟨by decide, by decide, by decide, by decide, by decide, by decide⟩ rfl (by rw [soldMessage])

/-- The message has been sent. It is told from the sale what it carries, so that no text is written
and compared. -/
theorem sent_sold : ∃ sent ∈ (stocked.run minutely selling).shop.broker.log,
    soldMessage.topic = sent.topic ∧ soldMessage.payload = sent.payload := by
  generalize after : stocked.run minutely selling = t
  have log : t.shop.broker.log.map (·.topic) = [EventKind.orderCreated.topic] := by
    rw [← after]
    decide +kernel
  have events : ∀ s ∈ t.sales, ∀ p ∈ t.shop.ledger.outbox.postings,
      s.draft.event s.outcome.response.orderNumber p.id s.time = sold := by
    rw [← after]
    decide +kernel
  have served : t.IsServed minutely { stock := [(default, 5)], sequences := [] } :=
    after ▸ run_isServed minutely { now := ⟨0⟩ } [(default, 5)] [] selling
  have posted : t.IsPosted := after ▸ run_isPosted minutely { now := ⟨0⟩ } [(default, 5)] [] selling
  obtain ⟨sent, _, log, topic, -⟩ := List.map_eq_cons_iff.mp log
  have accepted : sent ∈ t.shop.broker.log := log ▸ List.mem_cons_self
  obtain ⟨s, member, final, ⟨number, eventId, finalized, outcome⟩, posts, payload⟩ :=
    served.of_sent posted accepted topic
  have event := events s member final.posting posts
  rw [finalized.posting, ← outcome, finalized.outcome] at event
  have same : final.event = sold := by
    rw [← event, finalized.event]
    rfl
  refine ⟨sent, accepted, topic.symm, ?_⟩
  rw [payload, same, soldMessage, Outbox.Posting.ofOrderCreated]

/-- The message comes in, and is read. -/
def delivering (doer : Nat) : List Event := [.call (.deliver soldMessage), .advance doer]

/-- Both deliveries go on to their end, and so does the attempt that the first one dispatches. -/
def heeding : List Event :=
  [.advance 2, .advance 2, .advance 3, .advance 4, .advance 4, .advance 4, .advance 4, .advance 4,
    .advance 4]

/-- The shop after a message has come in and was read. -/
def informed (t : Traffic) : Traffic :=
  let reading : Doing := .delivery soldMessage .reading
  acted { t with doings := t.doings ++ [reading] } t.doings.length reading
    (.delivery soldMessage (.trying {} (.orderCreated sold))) t.shop

theorem run_delivering {t : Traffic} {doer : Nat} (next : t.doings.length = doer) :
    t.run minutely (delivering doer) = t.informed := by
  subst next
  exact step_reads minutely t.doings.length
    (t := { t with doings := t.doings ++ [.delivery soldMessage .reading] }) (by simp) received_sold

/-- The shop in which all that happens. -/
def served : Traffic := stocked.run minutely (selling ++ delivering 2 ++ delivering 3 ++ heeding)

-- The payload is not to be taken apart octet by octet, so evaluation begins when it has been read.
theorem served_eq :
    served = (stocked.run minutely selling).informed.informed.run minutely heeding := by
  have once : (stocked.run minutely selling).doings.length = 2 := by decide +kernel
  have twice : (stocked.run minutely selling).informed.doings.length = 3 := by decide +kernel
  rw [← run_delivering twice, ← run_delivering once]
  simp only [served, run, List.foldl_append]

/-- Nothing comes in but the message that was sent. -/
theorem along_delivered : Along minutely (fun t e => e.IsGenuine t) stocked
    (selling ++ delivering 2 ++ delivering 3 ++ heeding) := by
  have once : (stocked.run minutely selling).doings.length = 2 := by decide +kernel
  have again : (Event.call (.deliver soldMessage)).IsGenuine
      ((stocked.run minutely selling).run minutely (delivering 2)) := by
    rw [run_delivering once]
    exact sent_sold
  have split (events more : List Event) :
      stocked.run minutely (events ++ more) = (stocked.run minutely events).run minutely more :=
    List.foldl_append
  refine (along_append _ heeding).mpr ⟨(along_append _ (delivering 3)).mpr
    ⟨(along_append selling (delivering 2)).mpr ⟨?_, sent_sold, trivial, trivial⟩, ?_⟩, ?_⟩
  · exact ⟨trivial, trivial, trivial, trivial, trivial, trivial, trivial, trivial, trivial⟩
  · rw [split]
    exact ⟨again, trivial, trivial⟩
  · exact ⟨trivial, trivial, trivial, trivial, trivial, trivial, trivial, trivial, trivial, trivial⟩

/-- What a delivery that is over has come to. -/
def handling? : Doing → Option Delivery.Handling
  | .delivery _ (.done (.ok handling)) => some handling
  | _ => none

/-- The message of a sale comes in twice. One of the deliveries enters the order, for which the
gateway is called once; the other one finds it there. -/
theorem delivered_twice :
    let events := selling ++ delivering 2 ++ delivering 3 ++ heeding
    Along minutely (fun t e => e.IsGenuine t) stocked events ∧
      served = stocked.run minutely events ∧ served.shop.around.IsDistinct ∧
      served.doings.map handling? = [none, none, some .processed, some .duplicate, none] ∧
      ∃ order s tx call, served.shop.book.findOrder sold.orderId = some order ∧
        served.sales.filter (fun s => s.draft.orderId = sold.orderId) = [s] ∧ order.StemsFrom s ∧
        (∃ made ∈ served.past, made.sale? = some s ∧
          ∃ drafted ∈ served.past, drafted.doer = made.doer ∧ drafted.Drafts s.draft) ∧
        served.shop.book.findPayment sold.orderId = some tx ∧
        served.shop.gateway.calls = [call] ∧ call.request.orderId = sold.orderId ∧
        Decimal.sum (s.draft.lines.map CartLine.subtotal) = some tx.amount ∧
        Decimal.sum (s.draft.lines.map CartLine.subtotal) = some call.request.amount := by
  intro events
  have distinct : served.shop.around.IsDistinct := by
    rw [served_eq]
    unfold Surroundings.IsDistinct
    decide +kernel
  have handled : served.doings.map handling? =
      [none, none, some .processed, some .duplicate, none] := by
    rw [served_eq]
    decide +kernel
  have entered : (served.shop.book.findOrder sold.orderId).isSome = true := by
    rw [served_eq]
    decide +kernel
  have charged : served.shop.gateway.calls.map (·.request.orderId) = [sold.orderId] := by
    rw [served_eq]
    decide +kernel
  obtain ⟨order, found⟩ := Option.isSome_iff_exists.mp entered
  obtain ⟨call, _, calls, about, none⟩ := List.map_eq_cons_iff.mp charged
  rw [List.map_eq_nil_iff.mp none] at calls
  have logged : call ∈ served.shop.gateway.calls := calls ▸ List.mem_cons_self
  have faithful := orders_faithful minutely { now := ⟨0⟩ } [(default, 5)] [] events along_delivered
  have same : (opening { now := ⟨0⟩ } [(default, 5)] []).run minutely events = served := rfl
  rw [same] at faithful
  obtain ⟨-, s, own, stems, -, -, ⟨made, past, sells, drafted, earlier, doer, drafts, -⟩,
    ⟨tx, ofPayment, amount⟩, billed⟩ := (faithful distinct).1 sold.orderId order found
  exact ⟨along_delivered, rfl, distinct, handled, order, s, tx, call, found, own, stems,
    ⟨made, past, sells, drafted, earlier, doer, drafts⟩, ofPayment, calls, about, amount,
    billed call logged about⟩

end OrderFlow.Traffic
