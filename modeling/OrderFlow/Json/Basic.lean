import OrderFlow.Number.Shortest

/-!
JSON values and their written form: no blanks, members in the order of the object, only those
characters escaped that must be. `Json.sorted` is the object whose members are ordered by name, the
last of several members of one name winning; `Json.ordered` does the same at every depth.
-/
namespace OrderFlow
open OrderFlow.Text

/-- A JSON value. Whole numbers and double-precision numbers are kept apart. -/
inductive Json where
  | null
  | bool (b : Bool)
  | int (n : Int)
  | real (x : Binary64)
  | text (s : String)
  | array (items : List Json)
  | object (members : List (String × Json))
  deriving Repr, Inhabited

namespace Json

/-- A natural number. -/
def nat (n : Nat) : Json := .int n

/-- An optional value; nothing is `null`. -/
def optional {α : Type} (f : α → Json) : Option α → Json
  | none => .null
  | some a => f a

/-- The written form of one character inside a string. -/
def escaped (c : Char) : List Char :=
  if c = '"' then ['\\', '"']
  else if c = '\\' then ['\\', '\\']
  else if c = '\n' then ['\\', 'n']
  else if c = '\r' then ['\\', 'r']
  else if c = '\t' then ['\\', 't']
  else if c = '\x08' then ['\\', 'b']
  else if c = '\x0c' then ['\\', 'f']
  else if c < ' ' then '\\' :: 'u' :: hex 4 c.toNat
  else [c]

/-- A string between quotation marks. -/
def quoted (s : String) : List Char := '"' :: s.toList.flatMap escaped ++ ['"']

mutual

/-- The written form of a value. A number that is not finite has none and is written as `null`. -/
def chars : Json → List Char
  | .null => "null".toList
  | .bool true => "true".toList
  | .bool false => "false".toList
  | .int n => signed n
  | .real x => x.scientific?.getD "null".toList
  | .text s => quoted s
  | .array items => '[' :: itemsChars items ++ [']']
  | .object members => '{' :: membersChars members ++ ['}']

/-- Values with commas between them. -/
def itemsChars : List Json → List Char
  | [] => []
  | [x] => x.chars
  | x :: y :: rest => x.chars ++ ',' :: itemsChars (y :: rest)

/-- Members with commas between them. -/
def membersChars : List (String × Json) → List Char
  | [] => []
  | [(k, x)] => quoted k ++ ':' :: x.chars
  | (k, x) :: y :: rest => quoted k ++ ':' :: x.chars ++ ',' :: membersChars (y :: rest)

end

/-- The written form as a text. -/
def render (x : Json) : String := String.ofList x.chars

/-- Puts a member into members that are ordered by name; one of the same name is replaced. -/
def insertMember (k : String) (x : Json) : List (String × Json) → List (String × Json)
  | [] => [(k, x)]
  | (l, y) :: rest =>
    if k < l then (k, x) :: (l, y) :: rest
    else if k = l then (k, x) :: rest
    else (l, y) :: insertMember k x rest

/-- The object with these members, ordered by name. -/
def sorted (members : List (String × Json)) : Json :=
  .object (members.foldl (fun ms (k, x) => insertMember k x ms) [])

mutual

/-- The same value with the members of all objects ordered by name. -/
def ordered : Json → Json
  | .array items => .array (orderedItems items)
  | .object members => sorted (orderedMembers members)
  | x => x

/-- Each value with its members ordered. -/
def orderedItems : List Json → List Json
  | [] => []
  | x :: rest => x.ordered :: orderedItems rest

/-- Members whose values have their members ordered. -/
def orderedMembers : List (String × Json) → List (String × Json)
  | [] => []
  | (k, x) :: rest => (k, x.ordered) :: orderedMembers rest

end

/-- The member of a name. -/
def member? (k : String) : Json → Option Json
  | .object members => (members.find? fun m => m.1 = k).map (·.2)
  | _ => none

end Json

end OrderFlow
