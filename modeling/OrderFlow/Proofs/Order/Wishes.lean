import OrderFlow.Order.Service
import OrderFlow.Proofs.Payment.Quiet

/-!
Changes of an order's status at a store that answers. Where no mishap is to come, what a change does
in a phase follows from the book alone (`Goes`): it changes the book in one phase only, when it
swaps the status, and then only if the order still has the status that was read.
-/
namespace OrderFlow

namespace OrderDesk
open Surroundings
variable {d : OrderDesk}

/-- What can be written is written. -/
theorem write_done {α : Type} {f : OrderBook → Instant → Except OrderError (α × OrderBook)} {a : α}
    {book : OrderBook} (does : f d.book d.around.now = .ok (a, book)) :
    Yields (write f) d fun r d' => r = .ok a ∧ d' = { d with book } := by
  refine .seen (Yields.bind (P := fun now d' => now = d.around.now ∧ d' = d) ⟨rfl, rfl⟩ ?_)
  rintro _ _ ⟨rfl, rfl⟩
  rw [does]
  exact .changed (.returned ⟨rfl, rfl⟩)

/-- A quiet store swaps a status as the book does. -/
theorem swapStatus_done (id : Uuid) (expected next : OrderStatus) (quiet : d.around.IsQuiet) :
    Yields (swapStatus id expected next) d fun r d' =>
      r = .ok (d.book.updateStatus id expected next d.around.now).1 ∧
        d' = { d with book := (d.book.updateStatus id expected next d.around.now).2 } := by
  refine (lift_mishap_quiet .updateStatus quiet).bind ?_
  rintro _ _ ⟨rfl, rfl⟩
  exact write_done rfl

end OrderDesk

namespace OrderService
open OrderDesk

/-- What a change of an order's status to `target` does in one phase at a store that answers, and
the book that it leaves behind. -/
inductive Goes (id : Uuid) (target : OrderStatus) (now : Instant) (b : OrderBook) :
    Phase → Phase → OrderBook → Prop where
  | misses (missing : b.findOrder id = none) :
      Goes id target now b .reading (.done (.error (.orderNotFound id.text))) b
  | refuses {order : Order} (found : b.findOrder id = some order)
      (may : order.status.mayBecome target = false) :
      Goes id target now b .reading
        (.done (.error (.shared (.illegalTransition order.status.name target.name)))) b
  | reads {order : Order} (found : b.findOrder id = some order)
      (may : order.status.mayBecome target = true) :
      Goes id target now b .reading (.swapping order) b
  | swaps {order current : Order} (found : b.findOrder id = some current)
      (same : current.status = order.status) :
      Goes id target now b (.swapping order) .showing (b.put id (current.withStatus target now))
  | loses {order : Order}
      (other : ∀ current, b.findOrder id = some current → current.status ≠ order.status) :
      Goes id target now b (.swapping order) .lost b
  | shows : Goes id target now b .showing (.done (found id.text (.ok (b.findOrder id)))) b
  | tells {order : Order} (found : b.findOrder id = some order) :
      Goes id target now b .lost
        (.done (.error (.shared (.illegalTransition order.status.name target.name)))) b
  | vanishes (missing : b.findOrder id = none) :
      Goes id target now b .lost (.done (.error (.orderNotFound id.text))) b
  | rests {r : Except OrderError Order} : Goes id target now b (.done r) (.done r) b

variable {d : OrderDesk}

theorem getOrder_done (id : Uuid) (quiet : d.around.IsQuiet) :
    Yields (getOrder id) d fun r d' => r = found id.text (.ok (d.book.findOrder id)) ∧ d' = d := by
  refine (look_quiet .findOrder none (·.findOrder id) quiet).bind ?_
  rintro _ _ ⟨rfl, rfl⟩
  exact .returned ⟨rfl, rfl⟩

/-- **At a store that answers, a change goes on as its book has it.** -/
theorem Phase.step_goes (id : Uuid) (target : OrderStatus) (p : Phase) (quiet : d.around.IsQuiet) :
    Yields (p.step id target) d fun p' d' =>
      ∃ b, d' = { d with book := b } ∧ Goes id target d.around.now d.book p p' b := by
  cases p with
  | reading =>
    refine (getOrder_done id quiet).bind ?_
    rintro _ d' ⟨rfl, same⟩
    subst same
    cases found : d'.book.findOrder id with
    | none => exact .returned ⟨_, rfl, .misses found⟩
    | some order =>
      cases may : order.status.mayBecome target with
      | false =>
        have refused : order.status.step target =
            .error (.illegalTransition order.status.name target.name) := by
          simp [OrderStatus.step, may]
        simp only [OrderService.found, refused]
        exact .returned ⟨_, rfl, .refuses found may⟩
      | true =>
        have taken : order.status.step target = .ok target := by simp [OrderStatus.step, may]
        simp only [OrderService.found, taken]
        exact .returned ⟨_, rfl, .reads found may⟩
  | swapping order =>
    refine (swapStatus_done id order.status target quiet).bind ?_
    rintro _ d' ⟨rfl, rfl⟩
    unfold OrderBook.updateStatus
    cases found : d.book.findOrder id with
    | none =>
      refine .returned ⟨_, rfl, .loses fun current found' => ?_⟩
      cases found.symm.trans found'
    | some current =>
      by_cases same : current.status = order.status
      · simp only [same, if_true]
        exact .returned ⟨_, rfl, .swaps found same⟩
      · simp only [same, if_false]
        refine .returned ⟨_, rfl, .loses fun current' found' => ?_⟩
        cases found.symm.trans found'
        exact same
  | showing =>
    refine (getOrder_done id quiet).bind ?_
    rintro _ _ ⟨rfl, rfl⟩
    exact .returned ⟨_, rfl, .shows⟩
  | lost =>
    refine (getOrder_done id quiet).bind ?_
    rintro _ d' ⟨rfl, same⟩
    subst same
    cases found : d'.book.findOrder id with
    | none => exact .returned ⟨_, rfl, .vanishes found⟩
    | some order => exact .returned ⟨_, rfl, .tells found⟩
  | done r => exact .returned ⟨_, rfl, .rests⟩

end OrderService

end OrderFlow
