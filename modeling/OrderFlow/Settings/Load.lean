import OrderFlow.Settings.Catalog
import OrderFlow.Toml.Reader

/-!
Where settings come from, the later source winning: the name of the service and of the environment,
the file for all services, the file of the environment, the file of the service, and variables of
the environment whose names begin with `SHOP_`. Two underscores in such a name lead into a section.
-/
namespace OrderFlow.Settings
open OrderFlow

/-- Why settings could not be loaded. -/
inductive LoadError where
  /-- A file is not written in the format of settings. -/
  | unreadable
  /-- A setting does not take the value that it was given. -/
  | unsuitable
  deriving DecidableEq, Repr, Inhabited

/-- The environment where none is named. -/
def defaultEnvironment : String := "development"

/-- The environment that the variables name. -/
def environmentOf (assigned : Assoc String String) : String :=
  (Assoc.find? "APP_ENV" assigned).getD defaultEnvironment

/-- A text without the mark for the order of its octets. -/
def withoutMark (s : String) : String :=
  match s.toList with
  | '\uFEFF' :: cs => String.ofList cs
  | _ => s

/-- The text of a file, if there is one. A file without a name in front of the ending does not
count. -/
def fileText? (files : Assoc String String) (stem : String) : Option String :=
  if stem = "" then none else (Assoc.find? (stem ++ ".toml") files).map withoutMark

/-- Lays a file over what was read so far. -/
def overlayFile (files : Assoc String String) (v : Value) (stem : String) :
    Except LoadError Value :=
  match fileText? files stem with
  | none => .ok v
  | some text =>
    match Toml.read? text with
    | none => .error .unreadable
    | some layer => .ok (v.overlay layer)

/-- The beginning of the names of variables that are settings. -/
def variableMark : String := "shop_"

/-- A character of a name in a path. -/
def isPathCharacter (c : Char) : Bool := c.isAlphanum || c = '_' || c = '-'

/-- The path that a variable leads to, if it leads anywhere. -/
def pathOf? (name : String) : Option (List String) :=
  let cs := name.toList.map Char.toLower
  if cs.take variableMark.length = variableMark.toList then
    let rest := String.ofList (cs.drop variableMark.length)
    let path := (rest.splitOn "__").flatMap fun part => part.splitOn "."
    if path.all fun part => part ≠ "" ∧ part.toList.all isPathCharacter then some path else none
  else none

/-- Lays a variable over what was read so far. -/
def overlayVariable (v : Value) (named : String × String) : Value :=
  match pathOf? named.1 with
  | some (first :: rest) => v.putAt first rest (.ofText named.2)
  | _ => v

/-- The tree of all sources. -/
def tree (service : String) (files assigned : Assoc String String) : Except LoadError Value := do
  let environment := environmentOf assigned
  let start : Value := .table [("service_name", .text service), ("environment", .text environment)]
  let v ← ["default", environment, service].foldlM (overlayFile files) start
  return assigned.foldl overlayVariable v

/-- The settings of a service. -/
def App.load (service : String) (files assigned : Assoc String String) : Except LoadError App := do
  let v ← tree service files assigned
  match Setting.takeAll App.catalog v {} with
  | .ok app => return app
  | .error () => throw .unsuitable

end OrderFlow.Settings
