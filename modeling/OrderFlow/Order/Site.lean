import OrderFlow.Http.Site
import OrderFlow.Order.Service

/-!
The order service over HTTP.
-/
namespace OrderFlow.OrderService
open OrderFlow Http

/-- The name of the service. -/
def serviceName : String := "order-management-service"

/-- The answer to a part of a path that is no text. -/
def partNotText (name : String) : Response :=
  .text 400 ("Invalid URL: Invalid UTF-8 in `" ++ name ++ "`")

/-- The answer to a part of a path that is no identifier. -/
def partNotId (name part : String) : Response :=
  .text 400 ("Invalid URL: Cannot parse `" ++ name ++ "` with value `" ++ part ++ "`: <other>")

/-- The answer to a question of which the result is shown as JSON. -/
def shown {α : Type} (f : α → Json) : Except OrderError α → Response
  | .ok a => .json 200 (f a)
  | .error e => e.response

/-- Answers with the text of a part of a path. -/
def withText (name part : String) (f : String → StateM OrderDesk Response) :
    StateM OrderDesk Response :=
  match partText? part with
  | none => return partNotText name
  | some s => f s

/-- Answers with the order that a part of a path names. -/
def withOrder (part : String) (f : Uuid → StateM OrderDesk Response) : StateM OrderDesk Response :=
  withText "id" part fun s =>
    match Uuid.parse? s.toList with
    | none => return partNotId "id" s
    | some id => f id

/-- The endpoint of an order. -/
def ofOrder {α : Type} (template : String) (verb : Verb) (part : String) (view : α → Json)
    (f : Uuid → StateM OrderDesk (Except OrderError α)) : Option (Endpoint OrderDesk) :=
  if part = "" then none
  else some ⟨template, verb, fun _ _ => withOrder part fun id => return shown view (← f id)⟩

/-- The site of the order service. -/
def site : Site OrderDesk
  | ["api", "v1", "orders", "number", number] =>
    if number = "" then none
    else some ⟨"/api/v1/orders/number/\x7border_number\x7d", .get, fun _ _ =>
      withText "order_number" number fun n => return shown Order.toJson (← getByNumber n)⟩
  | ["api", "v1", "orders", id] =>
    ofOrder "/api/v1/orders/\x7bid\x7d" .get id Order.toJson getOrder
  | ["api", "v1", "orders", id, "payment"] =>
    ofOrder "/api/v1/orders/\x7bid\x7d/payment" .get id PaymentTransaction.toJson getPayment
  | ["api", "v1", "orders", id, "cancel"] =>
    ofOrder "/api/v1/orders/\x7bid\x7d/cancel" .post id Order.toJson cancel
  | ["api", "v1", "orders", id, "fulfill"] =>
    ofOrder "/api/v1/orders/\x7bid\x7d/fulfill" .post id Order.toJson fulfil
  | ["health"] =>
    some ⟨"/health", .get, fun _ _ => return Http.health serviceName (← OrderDesk.health)⟩
  | _ => none

end OrderFlow.OrderService
