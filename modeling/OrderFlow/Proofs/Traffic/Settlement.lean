import OrderFlow.Proofs.Order.Accounts
import OrderFlow.Proofs.Traffic.Books

/-!
Payments in traffic. However attempts, deliveries, cancellations and outcomes from anywhere follow
each other, an order and its payment stand side by side as they should, a payment is settled once
and for all, and the others are told of it exactly if the outcome that has settled it says so
(`payments_in_balance`). The accounts of the orders carry this through every event.
-/
namespace OrderFlow

variable {_ : EmailCheck}

/-- The outcome by which something that was done has settled the payment of an order, and when. -/
def Happening.settlement (h : Happening) (x : Uuid) : List (PaymentOutcome × Instant) :=
  OrderBook.settlement h.earlier.book h.later.book h.before.outcome? h.earlier.around.now x

/-- The outcomes that have settled the payment of an order. -/
def Traffic.settlements (t : Traffic) (x : Uuid) : List (PaymentOutcome × Instant) :=
  t.past.flatMap (·.settlement x)

namespace Traffic
variable {cfg : Shop.Config} {t t' : Traffic} {e : Event}

/-- Every event keeps every account in balance. -/
theorem Step.accounts (step : Step cfg t e t')
    (accounts : ∀ x, t.shop.book.Account x (t.settlements x)) (x : Uuid) :
    t'.shop.book.Account x (t'.settlements x) := by
  cases step with
  | rests | begins | ends | weather => exact accounts x
  | @acts doer d d' later under ready move =>
    have grown : (t.acted doer d d' later).settlements x = t.settlements x ++
        OrderBook.settlement t.shop.book later.book d.outcome? t.shop.around.now x := by
      simp [settlements, acted, Happening.settlement]
    rw [grown]
    exact OrderBook.Account.change accounts move.changes x

theorem run_accounts [EmailCheck] (cfg : Shop.Config) (around : Surroundings)
    (stock : Assoc Uuid Int) (sequences : Assoc CalendarDay Int) (events : List Event) (x : Uuid) :
    ((opening around stock sequences).run cfg events).shop.book.Account x
      (((opening around stock sequences).run cfg events).settlements x) :=
  run_keeps_all (P := fun t => ∀ x, t.shop.book.Account x (t.settlements x))
    (opening_isSound around stock sequences) (fun _ => .unknown rfl rfl rfl)
    (fun _ _ _ _ accounts step => step.accounts accounts) x

/-- A payment that is settled stays what it is, whatever happens. -/
theorem run_settled_stays {x : Uuid} {tx : PaymentTransaction} (sound : t.IsSound)
    (paired : t.shop.book.IsPaired) (found : t.shop.book.findPayment x = some tx)
    (settled : tx.status ≠ .pending) (events : List Event) :
    (t.run cfg events).shop.book.findPayment x = some tx := by
  refine (run_keeps_all (P := fun t => t.shop.book.IsPaired ∧ t.shop.book.findPayment x = some tx)
    sound ⟨paired, found⟩ ?_).2
  rintro t e t' - ⟨paired, found⟩ step
  obtain ⟨o?, e?, change⟩ := step.book
  exact ⟨change.paired paired, change.settled_stays paired found settled⟩

end Traffic

/-- The payment `tx` of the order `x` was settled by the outcome `o`, and the others know what they
should. -/
structure OrderBook.SettledBy (b : OrderBook) (x : Uuid) (tx : PaymentTransaction)
    (o : PaymentOutcome) : Prop where
  own : o.orderId = x
  result : tx.status = .ofResult o.result
  external : tx.externalTransactionId = o.externalTransactionId
  reason : tx.failureReason = o.failureReason
  attempts : tx.attempts = o.attempts
  known : b.isProcessed o.eventId = true
  silent : o.publish = false → b.toldOf x = []
  told : o.publish = true → ∃ e : PaymentCompleted, b.toldOf x = [.ofPaymentCompleted e] ∧
    e.eventId = o.eventId ∧ e.orderId = x ∧ e.transactionId = tx.id ∧ e.amount = tx.amount ∧
    tx.status = .ofResult e.status ∧ e.externalTransactionId = tx.externalTransactionId ∧
    e.failureReason = tx.failureReason

/-- **An order and its payment are always consistent, and the payment is settled once at most.** -/
theorem Traffic.payments_in_balance [EmailCheck] (cfg : Shop.Config) (around : Surroundings)
    (stock : Assoc Uuid Int) (sequences : Assoc CalendarDay Int) (events : List Event) (x : Uuid) :
    let t := (opening around stock sequences).run cfg events
    let b := t.shop.book
    (b.findOrder x = none ∧ b.findPayment x = none ∧ t.settlements x = [] ∧ b.toldOf x = []) ∨
      ∃ order tx, b.findOrder x = some order ∧ b.findPayment x = some tx ∧
        (order.status = .pending ∨ order.status = .processing → tx.status = .pending) ∧
        (order.status = .paid ∨ order.status = .fulfilled → tx.status = .success) ∧
        (order.status = .failed → tx.status = .failed) ∧
        (tx.status = .success →
          order.status = .paid ∨ order.status = .fulfilled ∨ order.status = .cancelled) ∧
        (tx.status = .failed → order.status = .failed ∨ order.status = .cancelled) ∧
        (tx.status = .pending → t.settlements x = [] ∧ b.toldOf x = []) ∧
        (tx.status ≠ .pending →
          (∃ o time, t.settlements x = [(o, time)] ∧ b.SettledBy x tx o) ∧
          ∀ later, (t.run cfg later).shop.book.findPayment x = some tx) := by
  intro t b
  have standing {s : OrderStatus} {p : PaymentStatus} (agrees : s.agrees p = true) :
      (s = .pending ∨ s = .processing → p = .pending) ∧
        (s = .paid ∨ s = .fulfilled → p = .success) ∧ (s = .failed → p = .failed) ∧
        (p = .success → s = .paid ∨ s = .fulfilled ∨ s = .cancelled) ∧
        (p = .failed → s = .failed ∨ s = .cancelled) := by
    cases s <;> cases p <;> simp_all [OrderStatus.agrees]
  have account : b.Account x (t.settlements x) :=
    run_accounts cfg around stock sequences events x
  cases applied : t.settlements x with
  | nil =>
    rw [applied] at account
    cases account with
    | unknown noOrder noPayment silent => exact .inl ⟨noOrder, noPayment, rfl, silent⟩
    | @waiting order tx ofOrder ofPayment named pending untried agrees silent =>
      rw [← pending] at agrees
      obtain ⟨waits, paid, failed, success, failure⟩ := standing agrees
      exact .inr ⟨order, tx, ofOrder, ofPayment, waits, paid, failed, success, failure,
        fun _ => ⟨rfl, silent⟩, fun settled => absurd pending settled⟩
  | cons first more =>
    rw [applied] at account
    cases account with
    | @settled order tx o time ofOrder ofPayment named own result external reason attempts agrees
        known told =>
      obtain ⟨waits, paid, failed, success, failure⟩ := standing agrees
      have not_pending : tx.status ≠ .pending := by
        rw [result]
        exact PaymentStatus.ofResult_ne_pending _
      refine .inr ⟨order, tx, ofOrder, ofPayment, waits, paid, failed, success, failure,
        fun pending => absurd pending not_pending, fun _ => ⟨⟨o, time, rfl, ?_⟩, ?_⟩⟩
      · refine ⟨own, result, external, reason, attempts, known, fun quiet => ?_, fun loud => ?_⟩
        · rw [told, quiet]
          rfl
        · refine ⟨o.event order tx time, ?_, rfl, named, rfl, rfl, result, external.symm,
            reason.symm⟩
          rw [told, loud]
          rfl
      · obtain ⟨sound, paired⟩ := run_isPaired cfg around stock sequences events
        exact run_settled_stays sound paired ofPayment not_pending

end OrderFlow
