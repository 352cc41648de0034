import OrderFlow.Toml.Scalar
import OrderFlow.Toml.Tree

/-!
Reading TOML documents: a table of values, or nothing where the text is not TOML.
-/
namespace OrderFlow.Toml
open OrderFlow Settings

/-- What follows blanks, line breaks and comments. -/
def skipGap : Nat → List Char → Option (List Char)
  | 0, _ => none
  | fuel + 1, cs =>
    match skipLines cs with
    | '#' :: rest => skipGap fuel (rest.dropWhile isPlain)
    | rest => some rest

mutual

/-- A value. -/
def value? : Nat → List Char → Option (Value × List Char)
  | 0, _ => none
  | fuel + 1, cs =>
    match cs with
    | '[' :: rest => (items? fuel rest).map fun (vs, rest) => (.list vs, rest)
    | '{' :: rest =>
      match skipBlank rest with
      | '}' :: rest => some (.table [], rest)
      | rest => (inlineTable? fuel (.empty .header) rest).map fun (t, rest) => (t.toValue, rest)
    | cs =>
      if cs.head? = some '"' ∨ cs.head? = some '\x27' then
        (string? cs).map fun (s, rest) => (.text (String.ofList s), rest)
      else
        let (w, rest) := word cs
        (wordValue? w).map fun v => (v, rest)

/-- The items of an array up to its end. -/
def items? : Nat → List Char → Option (List Value × List Char)
  | 0, _ => none
  | fuel + 1, cs => do
    match ← skipGap (cs.length + 1) cs with
    | ']' :: rest => some ([], rest)
    | rest =>
      let (v, rest) ← value? fuel rest
      match ← skipGap (rest.length + 1) rest with
      | ']' :: rest => some ([v], rest)
      | ',' :: rest => (items? fuel rest).map fun (vs, rest) => (v :: vs, rest)
      | _ => none

/-- The members of a table within a line up to its end, at least one more. -/
def inlineTable? : Nat → Tree → List Char → Option (Tree × List Char)
  | 0, _, _ => none
  | fuel + 1, t, cs => do
    let (path, name, v, rest) ← pair? fuel cs
    let t ← t.assign path name v
    match skipBlank rest with
    | '}' :: rest => some (t, rest)
    | ',' :: rest => inlineTable? fuel t rest
    | _ => none

/-- A dotted name, an equals sign and a value. -/
def pair? : Nat → List Char → Option (List String × String × Value × List Char)
  | 0, _ => none
  | fuel + 1, cs => do
    let (names, rest) ← names? (cs.length + 1) cs
    match skipBlank rest with
    | '=' :: rest =>
      let (v, rest) ← value? fuel (skipBlank rest)
      some (names.dropLast, ← names.getLast?, v, rest)
    | _ => none

end

/-- What follows the end of a line: blanks, an optional comment, and a line break or the end. -/
def endOfLine? (cs : List Char) : Option (List Char) :=
  let rest := match skipBlank cs with
    | '#' :: rest => rest.dropWhile isPlain
    | rest => rest
  if rest = [] then some [] else lineBreak? rest

/-- A document as far as it has been read: its tables, and the path of the last header. -/
structure Document where
  root : Tree
  current : List String := []

/-- A header or a pair at the front of a document's rest. -/
def line? (d : Document) : List Char → Option (Document × List Char)
  | '[' :: '[' :: cs => do
    let (names, rest) ← names? (cs.length + 1) cs
    match skipBlank rest with
    | ']' :: ']' :: rest =>
      let root ← d.root.atHeader (Tree.openItem (← names.getLast?)) names.dropLast
      some (⟨root, names⟩, rest)
    | _ => none
  | '[' :: cs => do
    let (names, rest) ← names? (cs.length + 1) cs
    match skipBlank rest with
    | ']' :: rest =>
      let root ← d.root.atHeader (Tree.openTable (← names.getLast?)) names.dropLast
      some (⟨root, names⟩, rest)
    | _ => none
  | cs => do
    let (path, name, v, rest) ← pair? (2 * cs.length + 2) cs
    let root ← d.root.atHeader (Tree.assign path name v) d.current
    some (⟨root, d.current⟩, rest)

/-- The rest of a document. -/
def document? : Nat → Document → List Char → Option Document
  | 0, _, _ => none
  | fuel + 1, d, cs => do
    match ← skipGap (cs.length + 1) cs with
    | [] => some d
    | rest =>
      let (d, rest) ← line? d rest
      document? fuel d (← endOfLine? rest)

/-- The table that a document writes. -/
def read? (s : String) : Option Value :=
  let cs := s.toList
  (document? (cs.length + 1) { root := .empty .header } cs).map fun d => d.root.toValue

end OrderFlow.Toml
