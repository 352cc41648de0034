import OrderFlow.Proofs.Json.Scalars
import OrderFlow.Proofs.Order.Changes

/-!
The account of an order: the order, its payment, what the others are told of it, and the outcome
that has settled it. Every change of the book keeps every account in balance, whichever order it is
about (`Account.change`), and enters the outcome of the one payment that it settles.
-/
namespace OrderFlow

theorem Order.Becomes.id {order order' : Order} (becomes : order.Becomes order') :
    order'.id = order.id := by
  rcases becomes with rfl | ⟨_, _, rfl⟩ <;> rfl

theorem PaymentStatus.ofResult_ne_pending (result : PaymentResult) :
    PaymentStatus.ofResult result ≠ .pending := by
  cases result <;> exact nofun

/-- Whether an order and its payment may stand side by side: an order waits while its payment does,
is paid or fulfilled after a success only, and failed after a failure only. A cancelled order may
have any payment. -/
def OrderStatus.agrees : OrderStatus → PaymentStatus → Bool
  | .pending, .pending | .processing, .pending => true
  | .paid, .success | .fulfilled, .success => true
  | .failed, .failed => true
  | .cancelled, _ => true
  | _, _ => false

namespace OrderStatus

theorem agrees_step {s next : OrderStatus} {p : PaymentStatus} (agrees : s.agrees p = true)
    (may : s.mayBecome next = true) (unpaid : next ≠ .paid ∧ next ≠ .failed) :
    next.agrees p = true := by
  cases s <;> cases next <;> cases may <;> cases p <;> simp_all [OrderStatus.agrees]

theorem agrees_afterPayment {s : OrderStatus} (agrees : s.agrees .pending = true)
    (result : PaymentResult) :
    (s.afterPayment (result = .success)).agrees (.ofResult result) = true := by
  cases s <;> cases result <;> first | rfl | cases agrees

end OrderStatus

namespace OrderBook

/-- What the others are told about an order. -/
def toldOf (b : OrderBook) (x : Uuid) : List Outbox.Posting :=
  b.outbox.postings.filter (·.aggregateId = x.text)

/-- The outcome that a change has settled the payment of an order with, and when. -/
def settlement (b b' : OrderBook) (o? : Option PaymentOutcome) (now : Instant) (x : Uuid) :
    List (PaymentOutcome × Instant) :=
  if (b.findPayment x).any (·.status = .pending) ∧ ¬ (b'.findPayment x).any (·.status = .pending)
  then (o?.map (·, now)).toList else []

/-- The account of the order `x`, with the outcomes that have settled its payment. -/
inductive Account (b : OrderBook) (x : Uuid) : List (PaymentOutcome × Instant) → Prop where
  | unknown (noOrder : b.findOrder x = none) (noPayment : b.findPayment x = none)
      (silent : b.toldOf x = []) : Account b x []
  | waiting {order : Order} {tx : PaymentTransaction} (ofOrder : b.findOrder x = some order)
      (ofPayment : b.findPayment x = some tx) (named : order.id = x)
      (pending : tx.status = .pending) (untried : tx.attempts = 0)
      (agrees : order.status.agrees .pending = true)
      (silent : b.toldOf x = []) : Account b x []
  | settled {order : Order} {tx : PaymentTransaction} {o : PaymentOutcome} {time : Instant}
      (ofOrder : b.findOrder x = some order) (ofPayment : b.findPayment x = some tx)
      (named : order.id = x) (own : o.orderId = x) (result : tx.status = .ofResult o.result)
      (external : tx.externalTransactionId = o.externalTransactionId)
      (reason : tx.failureReason = o.failureReason) (attempts : tx.attempts = o.attempts)
      (agrees : order.status.agrees tx.status = true) (known : b.isProcessed o.eventId = true)
      (told : b.toldOf x =
        if o.publish then [.ofPaymentCompleted (o.event order tx time)] else []) :
      Account b x [(o, time)]

variable {now : Instant} {o? : Option PaymentOutcome} {e? : Option OrderCreated}
  {b b' : OrderBook} {x : Uuid}
  {applied : List (PaymentOutcome × Instant)}

theorem settlement_of_same (same : b'.findPayment x = b.findPayment x) :
    settlement b b' o? now x = [] := by
  simp [settlement, same]

/-- What has been dealt with has been dealt with for good. -/
theorem Change.known (change : Change now o? e? b b') {id : Uuid}
    (known : b.isProcessed id = true) : b'.isProcessed id = true := by
  have inserted {eventId : Uuid} {e : ProcessedEvent} :
      (b.processed.insert eventId e).has id = true := by
    simp only [Assoc.has, Assoc.find?_insert]
    split
    · rfl
    · exact known
  cases change with
  | posts | moves => exact known
  | creates _ _ _ entered =>
    rw [(create_created entered).entered]
    exact inserted
  | applies _ applied =>
    rcases finalize_cases applied with ⟨order, tx, tx', settled⟩ | rfl | ⟨_, _, _, rfl⟩
    · rw [settled.written]
      exact inserted
    · exact known
    · exact inserted

theorem Account.congr (account : Account b x applied) (sameOrder : b'.findOrder x = b.findOrder x)
    (samePayment : b'.findPayment x = b.findPayment x) (sameTold : b'.toldOf x = b.toldOf x)
    (known : ∀ id, b.isProcessed id = true → b'.isProcessed id = true) : Account b' x applied := by
  cases account with
  | unknown noOrder noPayment silent =>
    exact .unknown (sameOrder.trans noOrder) (samePayment.trans noPayment)
      (sameTold.trans silent)
  | waiting ofOrder ofPayment named pending untried agrees silent =>
    exact .waiting (sameOrder.trans ofOrder) (samePayment.trans ofPayment) named pending untried
      agrees (sameTold.trans silent)
  | settled ofOrder ofPayment named own result external reason attempts agrees dealt told =>
    exact .settled (sameOrder.trans ofOrder) (samePayment.trans ofPayment) named own result external
      reason attempts agrees (known _ dealt) (sameTold.trans told)

/-- An order takes a step that no payment is needed for. -/
theorem Account.move {order : Order} {next : OrderStatus} (account : Account b x applied)
    (found : b.findOrder x = some order) (may : order.status.mayBecome next = true)
    (unpaid : next ≠ .paid ∧ next ≠ .failed) :
    Account (b.put x (order.withStatus next now)) x applied := by
  have moved : (b.put x (order.withStatus next now)).findOrder x =
      some (order.withStatus next now) := by
    simp
  cases account with
  | unknown noOrder => rw [found] at noOrder; cases noOrder
  | waiting ofOrder ofPayment named pending untried agrees silent =>
    rw [found] at ofOrder
    cases ofOrder
    exact .waiting moved ofPayment named pending untried
      (OrderStatus.agrees_step agrees may unpaid) silent
  | settled ofOrder ofPayment named own result external reason attempts agrees dealt told =>
    rw [found] at ofOrder
    cases ofOrder
    exact .settled moved ofPayment named own result external reason attempts
      (OrderStatus.agrees_step agrees may unpaid) dealt told

theorem toldOf_insert {p : Outbox.Posting} (written : b'.outbox = b.outbox.insert p now) :
    b'.toldOf x = b.toldOf x ++ if p.aggregateId = x.text then [p] else [] := by
  have one : [p].filter (·.aggregateId = x.text) = if p.aggregateId = x.text then [p] else [] := by
    by_cases about : p.aggregateId = x.text <;> simp [about]
  unfold toldOf
  rw [written, Outbox.Table.postings_insert, List.filter_append, one]

/-- After an outcome the others are told about its order only. -/
theorem toldOf_tell {o : PaymentOutcome} {order : Order} {tx : PaymentTransaction}
    (written : b'.outbox = tell b.outbox o order tx now) :
    b'.toldOf x = b.toldOf x ++ if o.publish = true ∧ order.id = x then
      [.ofPaymentCompleted (o.event order tx now)] else [] := by
  unfold tell at written
  by_cases publish : o.publish = true
  · rw [if_pos publish] at written
    have about : (Outbox.Posting.ofPaymentCompleted (o.event order tx now)).aggregateId = x.text ↔
        order.id = x :=
      ⟨Uuid.text_inj, congrArg Uuid.text⟩
    simp only [toldOf_insert written, about, publish, true_and]
  · rw [if_neg publish] at written
    rw [if_neg fun both => publish both.1, List.append_nil]
    unfold toldOf
    rw [written]

/-- An outcome settles the payment that waits for it, and no other one. -/
theorem Account.settle {o : PaymentOutcome} {order : Order} {tx tx' : PaymentTransaction}
    (account : Account b o.orderId applied) (settled : Settled b b' o now order tx tx')
    (known : b'.isProcessed o.eventId = true) :
    applied = [] ∧ order.id = o.orderId ∧ Account b' o.orderId [(o, now)] := by
  cases account with
  | unknown noOrder =>
    rw [settled.ofOrder] at noOrder
    cases noOrder
  | settled _ ofPayment _ _ result =>
    rw [settled.ofPayment] at ofPayment
    cases ofPayment
    have pending := settled.pending
    rw [result] at pending
    exact absurd pending (PaymentStatus.ofResult_ne_pending _)
  | waiting ofOrder ofPayment named pending untried agrees silent =>
    rw [settled.ofOrder] at ofOrder
    cases ofOrder
    rw [settled.ofPayment] at ofPayment
    cases ofPayment
    have shape := settled.transaction
    have named' : (order.after o now).id = o.orderId :=
      (order.becomes_after o now).id.trans named
    have told : b'.toldOf o.orderId = if o.publish then
        [.ofPaymentCompleted (o.event (order.after o now) tx' now)] else [] := by
      have written : b'.outbox = tell b.outbox o (order.after o now) tx' now := by
        rw [settled.written]
      rw [toldOf_tell written, silent, List.nil_append]
      simp only [named', and_true]
    have result : tx'.status = .ofResult o.result := by rw [shape]
    have agrees' : (order.after o now).status.agrees tx'.status = true := by
      rw [Order.after_status, result]
      exact OrderStatus.agrees_afterPayment agrees o.result
    refine ⟨rfl, named, .settled ((settled.findOrder _).trans (if_pos rfl))
      ((settled.findPayment _).trans (if_pos rfl)) named' rfl result ?_ ?_ ?_ agrees' known told⟩
    · rw [shape]
    · rw [shape]
    · rw [shape, untried]
      exact Int.zero_add _

/-- An order that is entered has had no account before. -/
theorem Account.enter {order : Order} {id eventId : Uuid} (account : Account b order.id applied)
    (created : Created b b' order (.pendingFor order id now) eventId now)
    (pending : order.status = .pending) (sameTold : b'.toldOf order.id = b.toldOf order.id) :
    applied = [] ∧ b.findPayment order.id = none ∧ Account b' order.id [] := by
  cases account with
  | waiting ofOrder | settled ofOrder =>
    rw [created.newOrder] at ofOrder
    cases ofOrder
  | unknown noOrder noPayment silent =>
    refine ⟨rfl, noPayment, .waiting ((created.findOrder _).trans (if_pos rfl))
      ((created.findPayment _).trans (if_pos rfl)) rfl rfl rfl ?_ (sameTold.trans silent)⟩
    rw [pending]
    rfl

/-- **Every account stays in balance**, and a payment that is settled is settled by the outcome that
was there to be applied. -/
theorem Account.change {applied : Uuid → List (PaymentOutcome × Instant)}
    (accounts : ∀ x, Account b x (applied x)) (change : Change now o? e? b b') (x : Uuid) :
    Account b' x (applied x ++ settlement b b' o? now x) := by
  have unsettled (same : b'.findPayment x = b.findPayment x) :
      applied x ++ settlement b b' o? now x = applied x := by
    rw [settlement_of_same same, List.append_nil]
  have known (id : Uuid) : b.isProcessed id = true → b'.isProcessed id = true := change.known
  cases change.effect with
  | stays orders payments postings =>
    rw [unsettled (payments x)]
    exact (accounts x).congr (orders x) (payments x) (congrArg _ postings) known
  | @moves id order next found may unpaid written =>
    subst written
    rw [unsettled rfl]
    by_cases same : id = x
    · subst same
      exact (accounts id).move found may unpaid
    · exact (accounts x).congr ((findOrder_put id _).trans (if_neg same)) rfl rfl known
  | @creates event order lineIds id _ enough shape created =>
    have sameTold : b'.toldOf x = b.toldOf x := by
      unfold toldOf
      rw [created.entered]
    by_cases same : order.id = x
    · subst same
      obtain ⟨unsettled_before, noPayment, balanced⟩ :=
        (accounts order.id).enter created (by rw [shape]; rfl) sameTold
      have none_settled : settlement b b' o? now order.id = [] := by
        simp [settlement, noPayment]
      rw [unsettled_before, none_settled]
      exact balanced
    · have samePayment := (created.findPayment x).trans (if_neg same)
      rw [unsettled samePayment]
      exact (accounts x).congr ((created.findOrder x).trans (if_neg same)) samePayment sameTold
        known
  | @settles o order tx tx' mine settled =>
    -- Only the payment that waits for the outcome is settled; every other account just goes on.
    have dealt : b'.isProcessed o.eventId = true := by
      rw [settled.written]
      simp [isProcessed, noteOutcome, Assoc.has, Assoc.find?_insert]
    have account := accounts o.orderId
    obtain ⟨unsettled_before, named, balanced⟩ := account.settle settled dealt
    by_cases same : o.orderId = x
    · subst same
      have ofPayment' := (settled.findPayment o.orderId).trans (if_pos rfl)
      have settlement_eq : settlement b b' o? now o.orderId = [(o, now)] := by
        simp [settlement, settled.ofPayment, settled.pending, ofPayment', settled.not_pending,
          mine]
      rw [unsettled_before, settlement_eq]
      exact balanced
    · have other : ¬ (order.after o now).id = x := fun h =>
        same (named ▸ ((order.becomes_after o now).id.symm.trans h))
      have sameTold : b'.toldOf x = b.toldOf x := by
        have written : b'.outbox = tell b.outbox o (order.after o now) tx' now := by
          rw [settled.written]
        rw [toldOf_tell written, if_neg fun both => other both.2, List.append_nil]
      have samePayment := (settled.findPayment x).trans (if_neg same)
      rw [unsettled samePayment]
      exact (accounts x).congr ((settled.findOrder x).trans (if_neg same)) samePayment sameTold
        known

end OrderBook

end OrderFlow
