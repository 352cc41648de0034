import OrderFlow.Event.Customer
import OrderFlow.Json.Scalars
import OrderFlow.Sha256

/-!
The request to check out a cart, and the answer to it. The fingerprint of a request is the digest of
its one written form.
-/
namespace OrderFlow
open Json

/-- The request to check out a cart. -/
structure CheckoutRequest where
  cartId : Uuid
  customer : Customer
  deriving DecidableEq, Repr, Inhabited

namespace CheckoutRequest

/-- The written form. -/
def toJson (r : CheckoutRequest) : Json :=
  .object [("cartId", r.cartId.toJson), ("customer", r.customer.toJson)]

/-- The text of which the fingerprint is the digest. -/
def canonical (r : CheckoutRequest) : String := r.toJson.render

/-- What tells a request from others. -/
def fingerprint (r : CheckoutRequest) : String := Sha256.hexDigest (Octets.ofText r.canonical)

/-- The rules that a request breaks. -/
def violations [EmailCheck] (r : CheckoutRequest) : List Violation :=
  Violation.within "customer" r.customer.violations

/-- Whether a request keeps its rules. -/
def check [EmailCheck] (r : CheckoutRequest) : Except Invalid Unit :=
  if r.violations = [] then .ok () else .error (.fields r.violations)

/-- The members of the written form. -/
def fields : List Field :=
  [⟨"cartId", [], Uuid, Uuid.reader, none⟩, ⟨"customer", [], Customer, Customer.reader, none⟩]

/-- The request of its members. -/
def ofRecord : Record fields → CheckoutRequest
  | (cartId, customer, ()) => ⟨cartId, customer⟩

/-- Reads the written form. -/
def reader : Reader CheckoutRequest := fun node => (Record.read fields node).map ofRecord

end CheckoutRequest

/-- The answer to a checkout. -/
structure CheckoutResponse where
  orderNumber : String
  orderId : Uuid
  status : String
  message : String
  deriving DecidableEq, Repr, Inhabited

namespace CheckoutResponse

/-- The written form. -/
def toJson (r : CheckoutResponse) : Json :=
  .object [("orderNumber", .text r.orderNumber), ("orderId", r.orderId.toJson),
    ("status", .text r.status), ("message", .text r.message)]

/-- The members of the written form. -/
def fields : List Field :=
  [⟨"orderNumber", [], String, Node.asText, none⟩, ⟨"orderId", [], Uuid, Uuid.reader, none⟩,
   ⟨"status", [], String, Node.asText, none⟩, ⟨"message", [], String, Node.asText, none⟩]

/-- The answer of its members. -/
def ofRecord : Record fields → CheckoutResponse
  | (orderNumber, orderId, status, message, ()) => ⟨orderNumber, orderId, status, message⟩

/-- Reads the written form. -/
def reader : Reader CheckoutResponse := fun node => (Record.read fields node).map ofRecord

end CheckoutResponse

/-- What came of a checkout. -/
structure CheckoutOutcome where
  statusCode : Nat
  response : CheckoutResponse
  /-- Whether the answer repeats the one given to an earlier request. -/
  replayed : Bool
  deriving DecidableEq, Repr, Inhabited

end OrderFlow
