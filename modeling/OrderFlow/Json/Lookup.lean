import OrderFlow.Json.Scalars

/-!
Looking up single members of an object that was read. Of several members of one name the last
counts, a member that is `null` counts as left out, and members that nobody asks for do no harm.
-/
namespace OrderFlow.Json

/-- A value read from a node, or what is wrong with the node. -/
abbrev Reading (α : Type) := Except DecodeError α

namespace Node

/-- Reads any whole number of 64 bits. -/
def asInt : Reader Int := asIntIn (-2 ^ 63) (2 ^ 64 - 1)

/-- Reads a whole number of 64 bits that is not negative. -/
def asNat : Reader Nat := fun x => (asIntIn 0 (2 ^ 64 - 1) x).map Int.toNat

/-- Reads a flag. -/
def asFlag : Reader Bool
  | .bool b => .ok b
  | x => .error x.mismatch

/-- Reads a number. -/
def asReal : Reader Binary64
  | .number n =>
    match n.quantity? with
    | some (.whole k) => .ok (.ofInt k)
    | some (.real x) => .ok x
    | none => .error .malformed
  | x => .error x.mismatch

/-- Takes a node as it is. -/
def asNode : Reader Node := .ok

/-- Reads a point in time, in milliseconds since the start of 1970. -/
def asInstant : Reader Instant := fun x => (asInt x).map Instant.ofMillis

/-- Reads a span, in milliseconds. -/
def asSpan : Reader Span := fun x => (asNat x).map Span.ofMillis

/-- The member of a name. -/
def get? (name : String) : Node → Option Node
  | .object ms _ => (ms.reverse.find? fun m => m.1 = some name).map (·.2)
  | _ => none

/-- A member that may be left out. -/
def find {α : Type} (x : Node) (name : String) (read : Reader α) : Reading (Option α) :=
  match x.get? name with
  | none | some .null => .ok none
  | some y => (read y).map some

/-- A member that may not be left out. -/
def need {α : Type} (x : Node) (name : String) (read : Reader α) : Reading α := do
  match ← x.find name read with
  | some a => .ok a
  | none => .error (.missing name)

/-- A member, or what holds where it is left out. -/
def findD {α : Type} (x : Node) (name : String) (read : Reader α) (a : α) : Reading α :=
  return (← x.find name read).getD a

/-- The nodes of an array that may be left out. -/
def nodes (x : Node) (name : String) : Reading (List Node) := x.findD name (asList asNode) []

/-- Whether a member is there and says neither `null` nor `false`. -/
def isSet (x : Node) (name : String) : Bool :=
  match x.get? name with
  | none | some .null | some (.bool false) => false
  | some _ => true

end Node

end OrderFlow.Json
