import OrderFlow.Http.MediaType
import OrderFlow.Text.Numerals
import OrderFlow.Text.Octets

/-!
Requests over HTTP, and what can be taken from their paths and headers.
-/
namespace OrderFlow.Http
open OrderFlow Text

/-- A request. -/
structure Request where
  method : String := "GET"
  /-- The path and what follows it behind a question mark or a number sign. -/
  target : String
  headers : List (String × String) := []
  body : List UInt8 := []
  deriving DecidableEq, Repr, Inhabited

/-- Characters that the value of a header may hold to count as text. -/
def isVisible (c : Char) : Bool := c = '\t' || (' ' ≤ c && c ≤ '~')

/-- The octets that a part of a path writes: a percent sign with two digits in base sixteen is one
octet. -/
def unescape : List UInt8 → List UInt8
  | 37 :: a :: b :: rest =>
    match hexValue? [Char.ofNat a.toNat, Char.ofNat b.toNat] with
    | some n => UInt8.ofNat n :: unescape rest
    | none => 37 :: unescape (a :: b :: rest)
  | c :: rest => c :: unescape rest
  | [] => []

/-- The text that a part of a path writes, if it is one. -/
def partText? (part : String) : Option String := Octets.text? (unescape (Octets.ofText part))

namespace Request

/-- The path. -/
def path (r : Request) : String :=
  String.ofList (r.target.toList.takeWhile fun c => c ≠ '?' && c ≠ '#')

/-- The parts of the path between its slashes. -/
def parts (r : Request) : List String := (r.path.splitOn "/").drop 1

/-- The first header of a name. -/
def header? (r : Request) (name : String) : Option String :=
  (r.headers.find? fun h => String.ofList (h.1.toList.map Char.toLower) = name).map (·.2)

/-- The first header of a name, if it is text. -/
def textHeader? (r : Request) (name : String) : Option String :=
  (r.header? name).filter fun v => v.toList.all isVisible

/-- Whether the body says to be JSON, or something that is written in JSON. -/
def saysJson (r : Request) : Bool :=
  ((r.textHeader? "content-type").bind fun v => MediaType.parse? v.toList).any MediaType.isJson

end Request

end OrderFlow.Http
