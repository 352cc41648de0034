import OrderFlow.Assoc
import OrderFlow.Number.Shortest
import OrderFlow.Number.Text

/-!
Values of settings as files and environments hold them, before anybody knows what kind of setting
they are for. Each reading takes every kind of value that can be meant: a flag counts as a number,
a text as whatever it spells. `overlay` lays one table over another, the later one wins.
-/
namespace OrderFlow.Settings
open OrderFlow Number

/-- A value as it was written. -/
inductive Value where
  | flag (b : Bool)
  | int (n : Int)
  | real (x : Binary64)
  | text (s : String)
  | list (items : List Value)
  | table (members : List (String × Value))
  deriving Repr, Inhabited

namespace Value

/-- The flag that a word spells. -/
def wordFlag? (s : String) : Option Bool :=
  let w := String.ofList (lower s.toList)
  if w ∈ ["true", "on", "yes"] then some true
  else if w ∈ ["false", "off", "no"] then some false
  else none

/-- The value read as a flag: a number counts as set unless it is zero. -/
def asFlag? : Value → Option Bool
  | flag b => some b
  | int n => some (n ≠ 0)
  | real (.finite _ significand _) => some (significand ≠ 0)
  | real _ => some true
  | text s =>
    match wordFlag? s with
    | some b => some b
    | none => if s = "1" then some true else if s = "0" then some false else none
  | _ => none

/-- A flag as a number. -/
def ofFlag (b : Bool) : Nat := if b then 1 else 0

/-- The value read as a whole number of `bits` bits with a sign. A number with a fraction is
rounded, and cut to the range of 64 bits. -/
def asSigned? (bits : Nat) (v : Value) : Option Int :=
  let n := match v with
    | flag b => some (ofFlag b : Int)
    | int n => some n
    | real x => some (nearest (-2 ^ 63) (2 ^ 63 - 1) x)
    | text s =>
      match wordFlag? s with
      | some b => some (ofFlag b : Int)
      | none => integer? s.toList
    | _ => none
  n.filter fun n => -2 ^ (bits - 1) ≤ n && n < 2 ^ (bits - 1)

/-- The value read as a whole number of `bits` bits without a sign. A number with a fraction is
rounded, and cut to the range of 64 bits. -/
def asUnsigned? (bits : Nat) (v : Value) : Option Nat :=
  let n := match v with
    | flag b => some (ofFlag b)
    | int n => if 0 ≤ n then some n.toNat else none
    | real x => some (nearest 0 (2 ^ 64 - 1) x).toNat
    | text s =>
      match wordFlag? s with
      | some b => some (ofFlag b)
      | none => unsigned? s.toList
    | _ => none
  n.filter (· < 2 ^ bits)

/-- The value read as a double. -/
def asReal? : Value → Option Binary64
  | flag b => some (.ofNat (ofFlag b))
  | int n => some (.ofInt n)
  | real x => some x
  | text s =>
    match wordFlag? s with
    | some b => some (.ofNat (ofFlag b))
    | none => real? s.toList
  | _ => none

/-- The value read as text. -/
def asText? : Value → Option String
  | flag b => some (if b then "true" else "false")
  | int n => some (toString n)
  | real x => some (String.ofList x.plain)
  | text s => some s
  | _ => none

/-- The value that a text in the environment spells. -/
def ofText (s : String) : Value :=
  let cs := s.toList
  if lower cs = "true".toList then flag true
  else if lower cs = "false".toList then flag false
  else
    match (integer? cs).filter fun n => -2 ^ 63 ≤ n && n < 2 ^ 63 with
    | some n => int n
    | none =>
      match real? cs with
      | some x => real x
      | none => text s

/-- The members of a table; any other value has none. -/
def members : Value → Assoc String Value
  | table ms => ms
  | _ => []

mutual

/-- Sets a member of a table, whatever the place held before. A table is laid over the member that
is there already. -/
def put (root : Value) (name : String) (v : Value) : Value :=
  match v with
  | table ms =>
    let there := (Assoc.find? name root.members).getD (table [])
    table (Assoc.insert name (putAll ms there) root.members)
  | v => table (Assoc.insert name v root.members)

/-- Sets several members. -/
def putAll (ms : List (String × Value)) (root : Value) : Value :=
  match ms with
  | [] => root
  | (name, v) :: rest => putAll rest (root.put name v)

end

/-- One table laid over another. -/
def overlay (root layer : Value) : Value := putAll layer.members root

/-- Sets the member at the end of a path; what is in the way becomes a table. -/
def putAt (root : Value) (first : String) (rest : List String) (v : Value) : Value :=
  match rest with
  | [] => root.put first v
  | next :: rest =>
    let below := (Assoc.find? first root.members).getD (table [])
    table (Assoc.insert first (putAt below next rest v) root.members)

end Value

end OrderFlow.Settings
