/-!
Media types, as in `application/json; charset=utf-8`. What stands behind the last plus sign of the
subtype is its suffix. A text with a parameter that is not written as a name and a value is no
media type.
-/
namespace OrderFlow.Http

/-- Characters of which the parts of a media type are made. -/
def isToken (c : Char) : Bool := c.isAlphanum || "!#$%&'*+-.^_`|~".contains c

/-- Where the reading of parameters stands. -/
inductive ParameterState where
  /-- In front of a name. -/
  | start
  | name
  /-- Behind the equals sign. -/
  | value
  /-- Within a value without quotes. -/
  | bare
  | quoted
  /-- Behind a backslash within quotes. -/
  | escaped
  /-- Behind a value with quotes. -/
  | closed
  deriving DecidableEq, Repr, Inhabited

namespace ParameterState

/-- The state after one more character, none if the character cannot stand there. -/
def step : ParameterState → Char → Option ParameterState
  | start, ' ' => some start
  | start, c => if isToken c then some name else none
  | name, '=' => some value
  | name, c => if isToken c then some name else none
  | value, '"' => some quoted
  | value, c => if isToken c then some bare else none
  | bare, ';' => some start
  | bare, c => if isToken c then some bare else none
  | quoted, '"' => some closed
  | quoted, '\\' => some escaped
  | quoted, c | escaped, c => if c < ' ' then none else some quoted
  | closed, ';' => some start
  | closed, ' ' => some closed
  | closed, _ => none

/-- Whether parameters may end here. -/
def isEnd : ParameterState → Bool
  | value | bare | closed => true
  | _ => false

end ParameterState

/-- Whether a text is a list of parameters. -/
def areParameters (cs : List Char) : Bool :=
  (cs.foldlM ParameterState.step .start).any ParameterState.isEnd

/-- A media type without its parameters. -/
structure MediaType where
  main : String
  sub : String
  suffix : Option String
  deriving DecidableEq, Repr, Inhabited

namespace MediaType

/-- The subtype and its suffix. -/
def splitSuffix (cs : List Char) : String × Option String :=
  let suffix := cs.reverse.takeWhile (· ≠ '+')
  match cs.reverse.drop (suffix.length + 1) with
  | [] => (String.ofList cs, none)
  | front => (String.ofList front.reverse, some (String.ofList suffix.reverse))

/-- Reads a media type; capital letters do not matter. -/
def parse? (cs : List Char) : Option MediaType :=
  let (main, rest) := cs.span (· ≠ '/')
  let (sub, parameters) := (rest.drop 1).span (· ≠ ';')
  let wellFormed := main ≠ [] && rest ≠ [] && main.all isToken && sub.all isToken &&
    (parameters = [] || (sub ≠ [] && areParameters (parameters.drop 1)))
  if wellFormed then
    let (sub, suffix) := splitSuffix (sub.map Char.toLower)
    some ⟨String.ofList (main.map Char.toLower), sub, suffix⟩
  else none

/-- Whether a media type is JSON, or something that is written in JSON. -/
def isJson (t : MediaType) : Bool :=
  t.main = "application" && (t.sub = "json" || t.suffix = some "json")

end MediaType

end OrderFlow.Http
