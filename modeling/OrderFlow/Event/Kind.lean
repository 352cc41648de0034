import OrderFlow.Failure

/-!
The kinds of event and the topics that carry them.
-/
namespace OrderFlow

/-- The kinds of event. -/
inductive EventKind where
  | orderCreated
  | paymentCompleted
  deriving DecidableEq, Repr, Inhabited

namespace EventKind

/-- The name of a kind. -/
def name : EventKind → String
  | .orderCreated => "ORDER_CREATED"
  | .paymentCompleted => "PAYMENT_COMPLETED"

/-- The topic that carries events of a kind. -/
def topic : EventKind → String
  | .orderCreated => "orders.created"
  | .paymentCompleted => "payments.completed"

/-- All kinds by name. -/
def named : List (String × EventKind) :=
  [(orderCreated.name, orderCreated), (paymentCompleted.name, paymentCompleted)]

/-- The kind of a name. -/
def ofName (s : String) : Except Failure EventKind :=
  match named.find? fun k => k.1 = s with
  | some k => .ok k.2
  | none => .error (.invalid (.unknownEventKind s))

theorem ofName_name (k : EventKind) : ofName k.name = .ok k := by cases k <;> rfl

/-- The written form. -/
def toJson (k : EventKind) : Json := .text k.name

/-- Reads the written form. -/
def reader : Json.Reader EventKind := Json.Node.asVariant named

end EventKind

/-- The version that new events carry. -/
def eventVersion : String := "1.0"

end OrderFlow
