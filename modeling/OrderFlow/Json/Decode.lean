import OrderFlow.Json.Reader

/-!
Typed reading of JSON text. A `Reader α` makes an `α` of a node or says what is wrong with it. A
record is read member by member in the order of the text, and the first member that is wrong
decides; only a record that was read to its end is searched for missing members, in the order in
which they are declared. A record may also be given as the array of its members in that order.
-/
namespace OrderFlow.Json

/-- Why JSON text could not be read. -/
inductive DecodeError where
  /-- The text is no JSON, or holds something that its place has no form for. -/
  | malformed
  /-- A text that does not spell what its place is for. -/
  | misspelt
  /-- A value of another kind than expected. -/
  | wrongType
  /-- A value of the right kind that is out of range. -/
  | wrongValue
  /-- An array with too few values. -/
  | wrongLength
  | missing (field : String)
  | duplicate (field : String)
  | unknownVariant (found : String) (expected : List String)
  deriving DecidableEq, Repr, Inhabited

/-- The names of variants as a choice: `a`, `b` and the like between backquotes. -/
def choice : List String → String
  | [] => "there are no variants"
  | [a] => "`" ++ a ++ "`"
  | [a, b] => "`" ++ a ++ "` or `" ++ b ++ "`"
  | names => "one of " ++ String.intercalate ", " (names.map fun a => "`" ++ a ++ "`")

/-- The wording of a reading error. -/
def DecodeError.message : DecodeError → String
  | .malformed | .misspelt => "<other>"
  | .wrongType => "<invalid type>"
  | .wrongValue => "<invalid value>"
  | .wrongLength => "<invalid length>"
  | .missing field => "missing field `" ++ field ++ "`"
  | .duplicate field => "duplicate field `" ++ field ++ "`"
  | .unknownVariant found expected =>
    "unknown variant `" ++ found ++ "`, expected " ++ choice expected

/-- Whether the text is no JSON, as opposed to JSON of another form than expected. -/
def DecodeError.isSyntax : DecodeError → Bool
  | .malformed => true
  | _ => false

/-- Makes a value of a node. -/
abbrev Reader (α : Type) := Node → Except DecodeError α

namespace Node

/-- What is wrong with a node of an unexpected kind: a string or number that cannot be read at all
is malformed before its kind counts. -/
def mismatch : Node → DecodeError
  | .broken | .text none => .malformed
  | .number n => if n.quantity?.isSome then .wrongType else .malformed
  | _ => .wrongType

/-- Reads a string. -/
def asText : Reader String
  | .text (some s) => .ok (String.ofList s)
  | node => .error node.mismatch

/-- Reads a string that spells something. -/
def asWritten {α : Type} (f : List Char → Option α) : Reader α
  | .text (some s) =>
    match f s with
    | some a => .ok a
    | none => .error .misspelt
  | node => .error node.mismatch

/-- Reads a whole number between two bounds. -/
def asIntIn (low high : Int) : Reader Int
  | .number n =>
    match n.quantity? with
    | some (.whole k) => if low ≤ k ∧ k ≤ high then .ok k else .error .wrongValue
    | some (.real _) => .error .wrongType
    | none => .error .malformed
  | node => .error node.mismatch

/-- Reads one of a fixed set of words. The word may also be the only member of an object, with the
value `null`. -/
def asVariant {α : Type} (words : List (String × α)) : Reader α
  | .text (some s) => find (String.ofList s)
  | .object ((some k, x) :: more) closed => do
    let a ← find k
    match x with
    | .null => if more.isEmpty && closed then .ok a else .error .malformed
    | x => .error x.mismatch
  | _ => .error .malformed
where
  find (s : String) : Except DecodeError α :=
    match words.find? fun w => w.1 = s with
    | some w => .ok w.2
    | none => .error (.unknownVariant s (words.map (·.1)))

/-- Reads `null` as nothing and any other value as something. -/
def asOptional {α : Type} (read : Reader α) : Reader (Option α)
  | .null => .ok none
  | node => (read node).map some

/-- Reads values from the left up to the first that is wrong. -/
def readAll {α : Type} (read : Reader α) : List Node → Except DecodeError (List α)
  | [] => .ok []
  | x :: xs => do
    let a ← read x
    let as ← readAll read xs
    .ok (a :: as)

/-- Reads an array. -/
def asList {α : Type} (read : Reader α) : Reader (List α)
  | .array xs closed => do
    let as ← readAll read xs
    if closed then .ok as else .error .malformed
  | node => .error node.mismatch

end Node

/-- A member of a record: its names, the first being the proper one, how its value is read, and what
it is when it is left out, if it may be. -/
structure Field where
  name : String
  aliases : List String := []
  Value : Type
  read : Reader Value
  absent : Option Value := none

/-- Whether a member of this name belongs to the field. -/
def Field.accepts (f : Field) (name : String) : Bool := f.name = name || f.aliases.contains name

/-- The values of all fields. -/
def Record : List Field → Type
  | [] => Unit
  | f :: fs => f.Value × Record fs

/-- The values of those fields that have been read so far. -/
def Slots : List Field → Type
  | [] => Unit
  | f :: fs => Option f.Value × Slots fs

namespace Slots

/-- No field has been read. -/
def blank : (fs : List Field) → Slots fs
  | [] => ()
  | _ :: fs => (none, blank fs)

/-- Reads one member into its field. A member that belongs to none only has to be JSON. -/
def fill (name : String) (node : Node) :
    (fs : List Field) → Slots fs → Except DecodeError (Slots fs)
  | [], slots => if node.sound then .ok slots else .error .malformed
  | f :: fs, (value, rest) =>
    if f.accepts name then
      if value.isSome then .error (.duplicate f.name)
      else (f.read node).map fun a => (some a, rest)
    else (fill name node fs rest).map fun rest => (value, rest)

/-- Reads members from the left. -/
def fillAll (fs : List Field) :
    List (Option String × Node) → Slots fs → Except DecodeError (Slots fs)
  | [], slots => .ok slots
  | (none, _) :: _, _ => .error .malformed
  | (some name, node) :: members, slots => do
    let slots ← fill name node fs slots
    fillAll fs members slots

/-- The record of the fields that were read, each other one being what it is when left out. -/
def finish : (fs : List Field) → Slots fs → Except DecodeError (Record fs)
  | [], _ => .ok ()
  | f :: fs, (value, rest) => do
    let a ← match value.or f.absent with
      | some a => .ok a
      | none => .error (.missing f.name)
    let as ← finish fs rest
    .ok (a, as)

end Slots

namespace Record

/-- Reads the fields of a record from an array, in order. -/
def ofItems (closed : Bool) : (fs : List Field) → List Node → Except DecodeError (Record fs)
  | [], xs => if xs.isEmpty && closed then .ok () else .error .malformed
  | f :: fs, x :: xs => do
    let a ← f.read x
    let as ← ofItems closed fs xs
    .ok (a, as)
  | f :: fs, [] => do
    let a ← match f.absent with
      | some a => if closed then .ok a else .error .malformed
      | none => .error (if closed then .wrongLength else .malformed)
    let as ← ofItems closed fs []
    .ok (a, as)

/-- Reads a record. -/
def read (fs : List Field) : Reader (Record fs)
  | .object members closed => do
    let slots ← Slots.fillAll fs members (Slots.blank fs)
    if closed then Slots.finish fs slots else .error .malformed
  | .array xs closed => ofItems closed fs xs
  | node => .error node.mismatch

end Record

mutual

/-- Reads any value, with at most `depth` arrays and objects inside each other. Of several members
of one name the last counts. -/
def ofNode : Nat → Node → Except DecodeError Json
  | _, .null => .ok .null
  | _, .bool b => .ok (.bool b)
  | _, .number n =>
    match n.quantity? with
    | some (.whole k) => .ok (.int k)
    | some (.real x) => .ok (.real x)
    | none => .error .malformed
  | _, .text (some s) => .ok (.text (String.ofList s))
  | _, .text none => .error .malformed
  | depth + 1, .array xs true => (ofItems depth xs).map .array
  | depth + 1, .object ms true => (ofMembers depth ms).map .sorted
  | _, _ => .error .malformed

/-- Reads any values. -/
def ofItems : Nat → List Node → Except DecodeError (List Json)
  | _, [] => .ok []
  | depth, x :: xs => do
    let a ← ofNode depth x
    let as ← ofItems depth xs
    .ok (a :: as)

/-- Reads members of any value. -/
def ofMembers : Nat → List (Option String × Node) → Except DecodeError (List (String × Json))
  | _, [] => .ok []
  | _, (none, _) :: _ => .error .malformed
  | depth, (some k, x) :: ms => do
    let a ← ofNode depth x
    let as ← ofMembers depth ms
    .ok ((k, a) :: as)

end

/-- Reads one of a fixed set of words from a value, which may also be the only member of an object,
with the value `null`. -/
def variantOf {α : Type} (words : List (String × α)) : Json → Except DecodeError α
  | .text s => Node.asVariant.find words s
  | .object [(k, x)] => do
    let a ← Node.asVariant.find words k
    match x with
    | .null => .ok a
    | _ => .error .wrongType
  | .object _ => .error .wrongValue
  | _ => .error .wrongType

/-- Reads any value, with at most 127 arrays and objects inside each other. -/
def any : Reader Json := ofNode 127

/-- Reads a whole text: one value with nothing but blanks around it. -/
def decode {α : Type} (read : Reader α) (text : List Symbol) : Except DecodeError α :=
  match value (2 * text.length + 2) text with
  | (node, rest) => do
    let a ← read node
    match rest.map skipBlank with
    | some [] => .ok a
    | _ => .error .malformed

/-- Reads octets. -/
def decodeOctets {α : Type} (read : Reader α) (octets : List UInt8) : Except DecodeError α :=
  decode read (Octets.symbols octets)

/-- Reads a text. -/
def decodeText {α : Type} (read : Reader α) (s : String) : Except DecodeError α :=
  decode read (s.toList.map some)

end OrderFlow.Json
