import OrderFlow.Http.Site
import OrderFlow.Scenario.Steps

/-!
Scenarios of a small site, of which every answer is shown as it is.
-/
namespace OrderFlow.Scenario
open OrderFlow Json Node Http

/-- A header. -/
def header : Reader (String × String) := fun x => do
  match ← asList asText x with
  | [name, value] => return (name, value)
  | _ => throw .wrongLength

/-- A request. -/
def newRequest (x : Node) : Reading Request := do
  return {
    method := ← x.findD "method" asText "GET"
    target := ← x.need "path" asText
    headers := ← x.findD "headers" (asList header) []
    body := Octets.ofText (← x.findD "body" asText "") }

/-- A path that is always answered in the same way. -/
def fixed (template : String) (answer : Response) : Endpoint Surroundings :=
  ⟨template, .get, fun _ _ => return answer⟩

/-- A site with a page, a page for every item, a page that fails, and one that tells the identifier
of its request. -/
def smallSite : Site Surroundings
  | ["ping"] => some (fixed "/ping" (.text 200 "pong"))
  | ["items", id] => if id = "" then none else some (fixed "/items/\x7bid\x7d" (.text 200 "item"))
  | ["fail"] => some (fixed "/fail" { status := 500 })
  | ["rid"] => some ⟨"/rid", .get, fun _ id => return .text 200 id⟩
  | _ => none

/-- Serves requests one after the other. -/
def serveAll : List Request → StateM Surroundings (List Response)
  | [] => return []
  | r :: rest => do
    let answer ← serve smallSite r
    return answer :: (← serveAll rest)

/-- A scenario of a small site. -/
def siteRequests (x : Node) : Reading Answer := do
  let requests ← (← x.nodes "steps").mapM newRequest
  let (answers, around) := (serveAll requests).run (← surroundings x)
  return withMeters (some (answers.map response)) around []

end OrderFlow.Scenario
