import OrderFlow.Order.Service
import OrderFlow.Proofs.Order.Calls

/-!
What a change of an order's status can do in one phase.
-/
namespace OrderFlow.OrderService
open OrderDesk

/-- A change that swaps the status of an order only where the order may take the step. -/
def Phase.IsSound (target : OrderStatus) : Phase → Prop
  | .swapping order => order.status.mayBecome target = true
  | _ => True

/-- What a change of an order's status to `target` may do in one phase. -/
inductive Move (id : Uuid) (target : OrderStatus) (d d' : OrderDesk) : Phase → Phase → Prop where
  | reads {order : Order} (found : d.book.findOrder id = some order)
      (may : order.status.mayBecome target = true) (aside : Aside d d') :
      Move id target d d' .reading (.swapping order)
  /-- The order is not to be had, or may not take the step. -/
  | refuses {e : OrderError} (aside : Aside d d') : Move id target d d' .reading (.done (.error e))
  | swaps {order current : Order} (found : d.book.findOrder id = some current)
      (may : current.status.mayBecome target = true)
      (writes : Writes d d' (d.book.put id (current.withStatus target d.around.now))) :
      Move id target d d' (.swapping order) .showing
  | loses {order : Order} (aside : Aside d d') : Move id target d d' (.swapping order) .lost
  | fails {order : Order} {e : OrderError} (aside : Aside d d') :
      Move id target d d' (.swapping order) (.done (.error e))
  | shows {r : Except OrderError Order} (aside : Aside d d')
      (found : ∀ order, r = .ok order → d.book.findOrder id = some order) :
      Move id target d d' .showing (.done r)
  | tells {e : OrderError} (aside : Aside d d') : Move id target d d' .lost (.done (.error e))
  | rests {r : Except OrderError Order} (aside : Aside d d') :
      Move id target d d' (.done r) (.done r)

theorem getOrder_yields (id : Uuid) (d : OrderDesk) :
    Yields (getOrder id) d fun r d' =>
      Aside d d' ∧ ∀ order, r = .ok order → d.book.findOrder id = some order := by
  refine (findOrder_yields id d).bind fun r d' ⟨aside, found⟩ => .returned ⟨aside, ?_⟩
  intro order shown
  match r with
  | .error e => cases shown
  | .ok none => cases shown
  | .ok (some order) =>
    cases shown
    exact (found _ rfl).symm

/-- A step that is taken is one that may be taken. -/
theorem step_ok {source target next : OrderStatus} (taken : source.step target = .ok next) :
    source.mayBecome target = true := by
  unfold OrderStatus.step at taken
  split at taken
  · assumption
  · cases taken

theorem Phase.step_moves (id : Uuid) {target : OrderStatus} {p : Phase} (sound : p.IsSound target)
    (d : OrderDesk) :
    Yields (p.step id target) d fun p' d' => Move id target d d' p p' := by
  cases p with
  | reading =>
    refine (getOrder_yields id d).bind fun r d' ⟨aside, found⟩ => ?_
    cases r with
    | error e => exact .returned (.refuses aside)
    | ok order =>
      cases taken : order.status.step target with
      | error e =>
        simp only [taken]
        exact .returned (.refuses aside)
      | ok next =>
        simp only [taken]
        exact .returned (.reads (found _ rfl) (step_ok taken) aside)
  | swapping order =>
    refine (swapStatus_yields id order.status target d).bind fun r d' swaps => ?_
    rcases swaps with ⟨lost, aside⟩ | ⟨current, rfl, found, expected, writes⟩
    · match r with
      | .error e => exact .returned (.fails aside)
      | .ok false => exact .returned (.loses aside)
      | .ok true => exact absurd rfl lost
    · exact .returned (.swaps found (expected ▸ sound) writes)
  | showing =>
    exact (getOrder_yields id d).bind fun r d' ⟨aside, found⟩ => .returned (.shows aside found)
  | lost =>
    refine (getOrder_yields id d).bind fun r d' ⟨aside, found⟩ => ?_
    cases r with
    | error e => exact .returned (.tells aside)
    | ok order => exact .returned (.tells aside)
  | done r => exact .returned (.rests (.refl d))

/-- A move asks only for a status that the order may take. -/
theorem Move.sound {id : Uuid} {target : OrderStatus} {d d' : OrderDesk} {p p' : Phase}
    (move : Move id target d d' p p') : p'.IsSound target := by
  cases move with
  | reads _ may => exact may
  | _ => trivial

/-- A move is a call of the store. -/
theorem Move.writes {id : Uuid} {target : OrderStatus} {d d' : OrderDesk} {p p' : Phase}
    (move : Move id target d d' p p') : ∃ book, Writes d d' book := by
  cases move with
  | reads _ _ aside | refuses aside | loses aside | fails aside | shows aside | tells aside
  | rests aside => exact ⟨_, aside⟩
  | swaps _ _ writes => exact ⟨_, writes⟩

end OrderFlow.OrderService
