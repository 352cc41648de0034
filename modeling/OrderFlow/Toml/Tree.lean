import OrderFlow.Settings.Value

/-!
The tables of a TOML document while it is read. A table may be opened by its own header once, by the
headers of tables inside it, or by dotted names; who may add to it afterwards depends on how it was
opened. Every operation is none where the document breaks these rules.
-/
namespace OrderFlow.Toml
open OrderFlow Settings

/-- How a table was opened. -/
inductive Origin where
  /-- By its own header. -/
  | header
  /-- By the header of a table inside it. -/
  | within
  /-- By a dotted name. -/
  | dotted
  deriving DecidableEq, Repr, Inhabited

/-- What a name stands for. -/
inductive Tree where
  | value (v : Value)
  | table (members : List (String × Tree)) (origin : Origin)
  /-- The tables of an array of tables, the one opened last in front. -/
  | tables (items : List Tree)
  deriving Repr, Inhabited

namespace Tree

/-- An empty table. -/
def empty (origin : Origin) : Tree := .table [] origin

mutual

/-- The value of a tree. -/
def toValue : Tree → Value
  | value v => v
  | table ms _ => .table (membersToValues ms)
  | tables items => .list (itemsToValues items).reverse

/-- The values of the members of a table. -/
def membersToValues : List (String × Tree) → List (String × Value)
  | [] => []
  | (name, t) :: rest => (name, t.toValue) :: membersToValues rest

/-- The values of the items of an array. -/
def itemsToValues : List Tree → List Value
  | [] => []
  | t :: rest => t.toValue :: itemsToValues rest

end

/-- Changes the table at the end of a path of header names. -/
def atHeader (f : Tree → Option Tree) : List String → Tree → Option Tree
  | [], t => f t
  | name :: path, .table ms origin => do
    let below ← match Assoc.find? name ms with
      | none => atHeader f path (empty .within)
      | some (.tables (latest :: older)) =>
        (atHeader f path latest).map fun latest => .tables (latest :: older)
      | some t => atHeader f path t
    return .table (Assoc.insert name below ms) origin
  | _ :: _, _ => none

/-- Changes the table at the end of a path of dotted names: only tables without a header of their
own can be reached that way. -/
def atDotted (f : Tree → Option Tree) : List String → Tree → Option Tree
  | [], t => f t
  | name :: path, .table ms origin => do
    let below ← match Assoc.find? name ms with
      | none => atDotted f path (empty .dotted)
      | some (.table _ .header) => none
      | some (.tables (latest :: older)) =>
        (atDotted f path latest).map fun latest => .tables (latest :: older)
      | some t => atDotted f path t
    return .table (Assoc.insert name below ms) origin
  | _ :: _, _ => none

/-- Adds a value under a name that is not there yet. -/
def add (name : String) (v : Value) : Tree → Option Tree
  | .table ms origin =>
    if Assoc.has name ms then none else some (.table (ms ++ [(name, .value v)]) origin)
  | _ => none

/-- Opens a table by its header. -/
def openTable (name : String) : Tree → Option Tree
  | .table ms origin =>
    match Assoc.find? name ms with
    | none => some (.table (ms ++ [(name, empty .header)]) origin)
    | some (.table below .within) =>
      some (.table (Assoc.insert name (.table below .header) ms) origin)
    | some _ => none
  | _ => none

/-- Opens one more table of an array of tables. -/
def openItem (name : String) : Tree → Option Tree
  | .table ms origin =>
    match Assoc.find? name ms with
    | none => some (.table (ms ++ [(name, .tables [empty .header])]) origin)
    | some (.tables items) =>
      some (.table (Assoc.insert name (.tables (empty .header :: items)) ms) origin)
    | some _ => none
  | _ => none

/-- Whether values may be added to a table that was reached by a path of dotted names. -/
def accepts (path : List String) : Tree → Bool
  | .table _ origin => (origin = .dotted) = (path ≠ [])
  | _ => false

/-- Adds a value under a dotted name. -/
def assign (path : List String) (name : String) (v : Value) : Tree → Option Tree :=
  atDotted (fun t => if t.accepts path then t.add name v else none) path

end Tree

end OrderFlow.Toml
