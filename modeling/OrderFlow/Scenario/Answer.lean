import OrderFlow.Checkout.Error
import OrderFlow.Order.Error

/-!
Scenarios exercise the parts of the library step by step on a clock of their own. A scenario is
written as JSON; each of its steps gets an answer.
-/
namespace OrderFlow.Scenario
open OrderFlow

/-- What a step answers. -/
inductive Answer where
  | value (v : Json)
  | failed (code message : String)
  /-- A number or a date left its range: the whole scenario ends here. -/
  | overflow
  deriving Repr, Inhabited

/-- Errors with a code and a text. -/
class Coded (ε : Type) where
  code : ε → String
  message : ε → String
  isOverflow : ε → Bool

instance : Coded Failure := ⟨Failure.code, Failure.message, (· = .overflow)⟩

instance : Coded CheckoutError :=
  ⟨CheckoutError.code, CheckoutError.message, (· = .shared .overflow)⟩

instance : Coded OrderError := ⟨OrderError.code, OrderError.message, (· = .shared .overflow)⟩

namespace Answer

/-- The answer of a step without a result. -/
def done : Answer := .value .null

/-- The answer of an error. -/
def ofError {ε : Type} [Coded ε] (e : ε) : Answer :=
  if Coded.isOverflow e then .overflow else .failed (Coded.code e) (Coded.message e)

/-- The answer of a result. -/
def of {ε α : Type} [Coded ε] (f : α → Json) : Except ε α → Answer
  | .ok a => .value (f a)
  | .error e => ofError e

/-- The answer of a check. -/
def ofCheck : Except Invalid Unit → Answer
  | .ok () => done
  | .error e => ofError (Failure.invalid e)

/-- The answer of a text that was to be read. -/
def ofReading {α : Type} (f : α → Json) : Except Json.DecodeError α → Answer
  | .ok a => .value (f a)
  | .error e => .failed "PARSE" e.message

/-- The members of the written form. -/
def members : Answer → List (String × Json)
  | .value v => [("ok", v)]
  | .failed code message => [("error", .text code), ("message", .text message)]
  | .overflow => [("error", .text Failure.overflow.code)]

/-- The written form. -/
def toJson (a : Answer) : Json := .object a.members

end Answer

end OrderFlow.Scenario
