import OrderFlow.Http.Request
import OrderFlow.Http.Response
import OrderFlow.Surroundings

/-!
Sites: what is found at which path. Every request gets an identifier, the one that it brings along
or a fresh one, which its answer carries as well; and every answer shows on the meters, under the
template of its path where there is one.
-/
namespace OrderFlow.Http
open OrderFlow Surroundings

/-- The way in which a path is used. -/
inductive Verb where
  | get
  | post
  deriving DecidableEq, Repr, Inhabited

namespace Verb

/-- The methods of a verb: what can be got can also be looked at. -/
def methods : Verb → List String
  | get => ["GET", "HEAD"]
  | post => ["POST"]

end Verb

/-- What is found at a path. -/
structure Endpoint (σ : Type) where
  /-- The path with names in place of its variable parts. -/
  template : String
  verb : Verb
  /-- The answer to a request, which is given together with its identifier. -/
  handle : Request → String → StateM σ Response

/-- What is found at the parts of a path. -/
abbrev Site (σ : Type) := List String → Option (Endpoint σ)

/-- The header that holds the identifier of a request. -/
def requestIdHeader : String := "x-request-id"

/-- The identifier of a request. -/
def requestId (r : Request) : StateM Surroundings String := do
  match (r.textHeader? requestIdHeader).filter (· ≠ "") with
  | some id => return id
  | none => return (← randomId).text

/-- The answer of an endpoint. -/
def Endpoint.answer {σ : Type} (e : Endpoint σ) (r : Request) (id : String) :
    StateM σ Response := do
  if r.method ∈ e.verb.methods then
    let response ← e.handle r id
    return if r.method = "HEAD" then { response with body := "" } else response
  else return { status := 405, allow := some (String.intercalate "," e.verb.methods) }

/-- Serves a request. -/
def serve {σ : Type} [Situated σ] (site : Site σ) (r : Request) : StateM σ Response := do
  let id ← requestId r
  let endpoint? := site r.parts
  let response ← match endpoint? with
    | some e => e.answer r id
    | none => pure { status := 404 }
  let label := (endpoint?.map Endpoint.template).getD r.path
  meter (Meters.request r.method label response.status)
  return { response with requestId := some id }

/-- The answer to somebody who asks whether a service is up. -/
def health {ε : Type} (service : String) : Except ε Unit → Response
  | .ok () => .json 200 (.object [("status", .text "ok"), ("service", .text service)])
  | .error _ => .json 503 (.object [("status", .text "unavailable"), ("service", .text service)])

end OrderFlow.Http
