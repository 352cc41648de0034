import OrderFlow.Checkout.Service
import OrderFlow.Http.Site

/-!
The checkout service over HTTP.
-/
namespace OrderFlow.Checkout
open OrderFlow Http

/-- The name of the service. -/
def serviceName : String := "checkout-service"

/-- The header that holds the key of a checkout. -/
def keyHeader : String := "idempotency-key"

/-- The key of a request. -/
def keyOf (r : Request) : Except CheckoutError String :=
  match (r.textHeader? keyHeader).map Text.trim with
  | none | some "" => .error .missingKey
  | some key => .ok key

/-- The request to check out that a body holds. -/
def orderOf (r : Request) : Except CheckoutError CheckoutRequest :=
  if r.saysJson then
    match Json.decodeOctets CheckoutRequest.reader r.body with
    | .ok order => .ok order
    | .error e => .error (.shared (.invalid (.bodyUnreadable e)))
  else .error (.shared (.invalid .bodyNotJson))

/-- Whether a number is the status code of an answer. -/
def isStatusCode (n : Nat) : Bool := 100 ≤ n && n ≤ 999

/-- The answer to a checkout. -/
def outcomeResponse (o : CheckoutOutcome) : Response :=
  { Response.json (if isStatusCode o.statusCode then o.statusCode else 201) o.response.toJson with
    replayed := if o.replayed then some "true" else none }

/-- Answers a request to check out. -/
def handle [EmailCheck] (keep : Int) (r : Request) :
    StateM CheckoutDesk (Except CheckoutError CheckoutOutcome) := do
  match keyOf r with
  | .error e => return .error e
  | .ok key =>
    match orderOf r with
    | .error e => return .error e
    | .ok order => call keep key order

/-- The answer to a request to check out. -/
def handled (result : Except CheckoutError CheckoutOutcome) : StateM CheckoutDesk Response := do
  match result with
  | .ok outcome => return outcomeResponse outcome
  | .error e =>
    if e = .shared .overflow then Surroundings.overflow
    return e.response

/-- The site of the checkout service. -/
def site [EmailCheck] (keep : Int) : Site CheckoutDesk
  | ["api", "v1", "checkout"] =>
    some ⟨"/api/v1/checkout", .post, fun r _ => do handled (← handle keep r)⟩
  | ["health"] => some ⟨"/health", .get, fun _ _ => return Http.health serviceName (← health)⟩
  | _ => none

end OrderFlow.Checkout
