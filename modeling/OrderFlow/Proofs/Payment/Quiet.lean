import OrderFlow.Proofs.Payment.Moves

/-!
Attempts to pay at a store that answers. Where no mishap is to come, every call of the store does
its work (`look_quiet`, `write_quiet`), and an attempt goes on unhindered (`Phase.step_quiet`): it
finds what is in the book, goes on with a payment that is open, and settles what can be settled.
-/
namespace OrderFlow

namespace OrderDesk
open Surroundings
variable {d : OrderDesk}

theorem lift_mishap_quiet (call : StoreCall) (quiet : d.around.IsQuiet) :
    Yields (liftM (mishap call)) d fun m d' => m = .none ∧ d' = d := by
  refine .lifted ((mishap_quiet call quiet).mono fun m a ⟨calm, same⟩ => ⟨calm, ?_⟩)
  rw [same]
  rfl

theorem lift_quiet {α : Type} {act : StateM Surroundings α}
    (yields : Yields act d.around fun _ a => a.IsQuiet) :
    Yields (liftM act) d fun _ d' => d'.around.IsQuiet :=
  .lifted yields

/-- A quiet store shows what is in the book. -/
theorem look_quiet {α : Type} (call : StoreCall) (hidden : Option α) (f : OrderBook → α)
    (quiet : d.around.IsQuiet) :
    Yields (look call hidden f) d fun r d' => r = .ok (f d.book) ∧ d' = d := by
  refine (lift_mishap_quiet call quiet).bind ?_
  rintro _ _ ⟨rfl, rfl⟩
  exact .returned ⟨rfl, rfl⟩

/-- What is written into a quiet store is written. -/
theorem write_quiet {α : Type} (f : OrderBook → Instant → Except OrderError (α × OrderBook))
    (quiet : d.around.IsQuiet) :
    Yields (write f) d fun r d' =>
      d'.around.IsQuiet ∧ r = (f d.book d.around.now).map (·.1) := by
  refine .seen (Yields.bind (P := fun now d' => now = d.around.now ∧ d' = d) ⟨rfl, rfl⟩ ?_)
  rintro now d' ⟨sameNow, same⟩
  subst same sameNow
  cases f d'.book d'.around.now <;> exact ⟨quiet, rfl⟩

theorem swapStatus_quiet (id : Uuid) (expected next : OrderStatus) (quiet : d.around.IsQuiet) :
    Yields (swapStatus id expected next) d fun r d' => d'.around.IsQuiet ∧ ∃ won, r = .ok won := by
  refine (lift_mishap_quiet .updateStatus quiet).bind ?_
  rintro _ _ ⟨rfl, rfl⟩
  exact (write_quiet _ quiet).mono fun r d' ⟨quiet, answer⟩ => ⟨quiet, _, answer⟩

theorem complete_quiet (o : PaymentOutcome) (quiet : d.around.IsQuiet) :
    Yields (complete o) d fun r d' =>
      d'.around.IsQuiet ∧ r = (d.book.finalize o d.around.now).map (·.1) := by
  have settled : Yields (finalize o) d fun r d' =>
      d'.around.IsQuiet ∧ r = (d.book.finalize o d.around.now).map (·.1) := by
    refine (lift_mishap_quiet .finalizePayment quiet).bind ?_
    rintro _ _ ⟨rfl, rfl⟩
    exact write_quiet _ quiet
  refine settled.bind fun r d' ⟨quiet, answer⟩ => ?_
  split
  · next s tx =>
    cases publish : o.publish
    · exact ⟨quiet, answer⟩
    · exact ⟨quiet, answer⟩
  · exact .returned ⟨quiet, answer⟩

end OrderDesk

namespace Payment
open OrderDesk Surroundings
variable {cfg : Config} {d : OrderDesk}

theorem afterFailure_quiet (policy : PaymentPolicy) (c : Charge) (e : PaymentError)
    (quiet : d.around.IsQuiet) :
    Yields (afterFailure policy c e) d fun _ d' => d'.around.IsQuiet := by
  unfold afterFailure
  have drawn : Yields draw d.around fun _ a => a.IsQuiet := quiet
  refine (lift_quiet drawn).bind fun draw d' quiet => ?_
  split <;> exact quiet

theorem conclude_quiet (c : Charge) (answer : Except PaymentError String)
    (quiet : d.around.IsQuiet) :
    Yields (conclude cfg c answer) d fun _ d' => d'.around.IsQuiet := by
  cases answer with
  | ok => exact quiet
  | error e => exact afterFailure_quiet (d := { d with around := _, breaker := _ }) _ _ _ quiet

theorem answer_quiet {call : Gateway.Call} (plain : call.IsPlain) {a : Surroundings}
    (quiet : a.IsQuiet) : Yields call.answer a fun _ a' => a'.IsQuiet := by
  cases call with
  | simulated => exact plain.elim
  | scripted number entry =>
    simp only [Gateway.Call.answer]
    cases entry.ending <;> exact quiet

theorem ask_quiet (c : Charge) (quiet : d.around.IsQuiet) :
    Yields (ask cfg c) d fun _ d' => d'.around.IsQuiet := by
  have asked : Yields (Breaker.askForCall cfg.breaker d.breaker) d.around fun _ a => a.IsQuiet := by
    have first : Yields (Breaker.ask cfg.breaker d.breaker) d.around fun _ a => a.IsQuiet := quiet
    refine first.bind fun answer a quiet => ?_
    obtain ⟨admitted, s⟩ := answer
    cases admitted <;> exact quiet
  refine .seen ((lift_quiet asked).bind fun answer d' quiet => .changed ?_)
  obtain ⟨admitted, breaker⟩ := answer
  cases admitted
  · simp only [Bool.false_eq_true, if_false]
    exact afterFailure_quiet _ _ _ quiet
  · exact quiet

/-- An attempt whose result, if it is at its end, is not that a number has left its range. -/
def Phase.isInRange : Phase → Bool
  | .done r => !Sweep.isOverflow r
  | _ => true

/-- What an attempt in the phase `p` does where no call of the store meets a mishap: it finds what
is in the book, goes on with a payment that is open, and settles what can be settled. -/
structure Unhindered (b : OrderBook) (now : Instant) (p p' : Phase) : Prop where
  finds : ∀ purpose id order, p = .reading purpose id → b.findOrder id = some order →
    p' = .readingPayment purpose order
  opens : ∀ purpose order tx, p = .readingPayment purpose order →
    b.findPayment order.id = some tx → isOpen purpose order tx = true → p'.isDone = false
  inRange : p.isEarly = true → p'.isInRange = true
  settles : ∀ o s b', p.settles? = some o → b.finalize o now = .ok (s, b') →
    p' = .done (.ok (some o))

/-- Nothing but the store can hinder an attempt. -/
theorem Unhindered.of_late {p : Phase} (late : p.isEarly = false) (settles : p.settles? = none)
    (b : OrderBook) (now : Instant) (p' : Phase) : Unhindered b now p p' where
  finds _ _ _ same := by
    subst same
    cases late
  opens _ _ _ same := by
    subst same
    cases late
  inRange early := by
    rw [late] at early
    cases early
  settles _ _ _ outcome := by
    rw [settles] at outcome
    cases outcome

theorem Phase.settles?_of_early {p : Phase} (early : p.isEarly = true) : p.settles? = none := by
  cases p <;> first | rfl | cases early

theorem Unhindered.of_early {b : OrderBook} {now : Instant} {p p' : Phase}
    (early : p.isEarly = true)
    (finds : ∀ purpose id order, p = .reading purpose id → b.findOrder id = some order →
      p' = .readingPayment purpose order)
    (opens : ∀ purpose order tx, p = .readingPayment purpose order →
      b.findPayment order.id = some tx → isOpen purpose order tx = true → p'.isDone = false)
    (inRange : p'.isInRange = true) : Unhindered b now p p' where
  finds := finds
  opens := opens
  inRange _ := inRange
  settles _ _ _ outcome := by
    rw [Phase.settles?_of_early early] at outcome
    cases outcome

theorem settle_quiet {p : Phase} {o : PaymentOutcome} (settles : p.settles? = some o)
    (retries : Nat) (quiet : d.around.IsQuiet) :
    Yields (settle cfg.policy o retries) d fun p' d' =>
      d'.around.IsQuiet ∧ Unhindered d.book d.around.now p p' := by
  have unhindered {p' : Phase} (does : ∀ s b', d.book.finalize o d.around.now = .ok (s, b') →
      p' = .done (.ok (some o))) : Unhindered d.book d.around.now p p' := by
    refine ⟨fun _ _ _ same => ?_, fun _ _ _ same => ?_, fun early => ?_, fun o' s b' mine => ?_⟩
    · subst same
      cases settles
    · subst same
      cases settles
    · rw [Phase.settles?_of_early early] at settles
      cases settles
    · cases settles.symm.trans mine
      exact does s b'
  refine (complete_quiet o quiet).bind fun r d' ⟨quiet, answer⟩ => ?_
  cases r with
  | ok s => exact .returned ⟨quiet, unhindered fun _ _ _ => rfl⟩
  | error e =>
    have drawn : Yields draw d'.around fun _ a => a.IsQuiet := quiet
    refine (lift_quiet drawn).bind fun draw d'' quiet => ?_
    have refused : ∀ p', Unhindered d.book d.around.now p p' := fun p' =>
      unhindered fun s b' applied => by
        rw [applied] at answer
        cases answer
    split <;> exact ⟨quiet, refused _⟩

/-- **Without mishaps an attempt goes on unhindered.** -/
theorem Phase.step_quiet (cfg : Config) {p : Phase} (sound : p.IsSound) (quiet : d.around.IsQuiet) :
    Yields (p.step cfg) d fun p' d' =>
      d'.around.IsQuiet ∧ Unhindered d.book d.around.now p p' := by
  cases p with
  | reading purpose id =>
    refine (look_quiet .findOrder none (·.findOrder id) quiet).bind ?_
    rintro r d' ⟨rfl, same⟩
    subst same
    cases found : d'.book.findOrder id with
    | none =>
      refine .returned ⟨quiet, .of_early rfl (fun _ _ _ same found' => ?_)
        (fun _ _ _ other => nomatch other) rfl⟩
      cases same
      cases found.symm.trans found'
    | some order =>
      refine .returned ⟨quiet, .of_early rfl (fun _ _ _ same found' => ?_)
        (fun _ _ _ other => nomatch other) rfl⟩
      cases same
      cases found.symm.trans found'
      rfl
  | readingPayment purpose order =>
    refine (look_quiet .findPayment (some none) (·.findPayment order.id) quiet).bind ?_
    rintro r d' ⟨rfl, same⟩
    subst same
    cases found : d'.book.findPayment order.id with
    | none =>
      refine .returned ⟨quiet, .of_early rfl (fun _ _ _ other => nomatch other)
        (fun _ _ _ same found' => ?_) rfl⟩
      cases same
      cases found.symm.trans found'
    | some tx =>
      dsimp only
      split
      · next closed =>
        refine .returned ⟨quiet, .of_early rfl (fun _ _ _ other => nomatch other)
          (fun _ _ _ same found' unpaid => ?_) rfl⟩
        cases same
        cases found.symm.trans found'
        exact absurd unpaid closed
      · cases purpose with
        | charge => exact .returned ⟨quiet, .of_early rfl (fun _ _ _ other => nomatch other)
          (fun _ _ _ _ _ _ => rfl) rfl⟩
        | expire => exact ⟨quiet, .of_early rfl (fun _ _ _ other => nomatch other)
          (fun _ _ _ _ _ _ => rfl) rfl⟩
  | claiming order payment =>
    refine (swapStatus_quiet _ _ _ quiet).bind ?_
    rintro r d' ⟨quiet, won, rfl⟩
    cases won <;> exact .returned ⟨quiet, .of_early rfl (fun _ _ _ other => nomatch other)
      (fun _ _ _ other => nomatch other) rfl⟩
  | asking c | pausing c =>
    exact (ask_quiet c quiet).mono fun p' _ quiet => ⟨quiet, .of_late rfl rfl _ _ p'⟩
  | calling c call ready deadline =>
    have concluded {d' : OrderDesk} (answer : Except PaymentError String)
        (quiet : d'.around.IsQuiet) :
        Yields (conclude cfg c answer) d' fun p' d'' => d''.around.IsQuiet ∧
          Unhindered d.book d.around.now (.calling c call ready deadline) p' :=
      (conclude_quiet c answer quiet).mono fun p' _ quiet => ⟨quiet, .of_late rfl rfl _ _ p'⟩
    simp only [Phase.step]
    split
    · have clocked : Yields clock d.around fun _ a => a.IsQuiet := quiet
      refine (lift_quiet clocked).bind fun now d' quiet => .changed ?_
      have answered : Yields (liftM call.answer)
          { d' with book := call.effect c.request now d'.book } fun _ d' => d'.around.IsQuiet :=
        lift_quiet (answer_quiet sound quiet)
      refine answered.bind fun answer d' quiet => ?_
      cases answer with
      | none => exact .returned ⟨quiet, .of_late rfl rfl _ _ _⟩
      | some answer => exact concluded answer quiet
    · exact concluded _ quiet
  | hanging c deadline =>
    exact (conclude_quiet c _ quiet).mono fun p' _ quiet => ⟨quiet, .of_late rfl rfl _ _ p'⟩
  | settling o retries => exact settle_quiet rfl retries quiet
  | pausingToSettle o retries wake => exact settle_quiet rfl retries quiet
  | done r => exact .returned ⟨quiet, .of_late rfl rfl _ _ _⟩

end Payment
end OrderFlow
