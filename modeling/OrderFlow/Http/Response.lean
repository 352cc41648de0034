import OrderFlow.Failure

/-!
Answers of the services over HTTP, with those headers that the services set.
-/
namespace OrderFlow.Http
open OrderFlow

/-- An answer to a request. -/
structure Response where
  status : Nat
  body : String := ""
  contentType : Option String := none
  /-- The methods that the path knows, where the method of the request is none of them. -/
  allow : Option String := none
  requestId : Option String := none
  /-- Whether the answer repeats the one given to an earlier request. -/
  replayed : Option String := none
  deriving DecidableEq, Repr, Inhabited

namespace Response

/-- An answer that carries JSON. -/
def json (status : Nat) (body : Json) : Response :=
  { status, body := body.render, contentType := some "application/json" }

/-- An answer that carries text. -/
def text (status : Nat) (body : String) : Response :=
  { status, body, contentType := some "text/plain; charset=utf-8" }

/-- An answer that says what went wrong. -/
def refusal (status : Nat) (code message : String) : Response :=
  json status (.object [("code", .text code), ("message", .text message)])

end Response

/-- What outsiders are told about a failure of the service itself. -/
def internalNotice : String := "服务内部错误，请稍后重试"

end OrderFlow.Http
