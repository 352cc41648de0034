import OrderFlow.Event.OrderCreated
import OrderFlow.Event.PaymentCompleted
import OrderFlow.Message
import OrderFlow.Order.Error

/-!
What the order service makes of a message: an event of the kind that its topic carries, read and
checked. Any other message is refused.
-/
namespace OrderFlow

/-- An event that was received. -/
inductive Incoming where
  | orderCreated (event : OrderCreated)
  | paymentCompleted (event : PaymentCompleted)
  deriving DecidableEq, Repr, Inhabited

namespace Incoming

/-- The identifier of the event. -/
def eventId : Incoming → Uuid
  | .orderCreated e => e.eventId
  | .paymentCompleted e => e.eventId

/-- Reads an event and checks it. -/
def accept {α : Type} (reader : Json.Reader α) (check : α → Except Invalid Unit) (m : Message) :
    Except OrderError α :=
  match m.read reader with
  | .error e => .error (.shared e)
  | .ok event =>
    match check event with
    | .error e => .error (.shared (.invalid e))
    | .ok () => .ok event

/-- The event of a message. -/
def ofMessage [EmailCheck] (m : Message) : Except OrderError Incoming :=
  if m.topic = EventKind.orderCreated.topic then
    (accept OrderCreated.reader OrderCreated.check m).map .orderCreated
  else if m.topic = EventKind.paymentCompleted.topic then
    (accept PaymentCompleted.reader PaymentCompleted.check m).map .paymentCompleted
  else .error (.poison ("不支持的 topic: " ++ m.topic))

end Incoming

end OrderFlow
