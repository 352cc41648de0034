import OrderFlow.Json.Basic
import OrderFlow.Json.Numeral
import OrderFlow.Text.Octets

/-!
Reading JSON text from the left. The result is a tree of what could be read: where the text stops
being JSON a node is `broken`, and an array or object that does not end properly is not `closed`.
What a value means is settled only when somebody asks for it: a number may still be out of range and
a string may still hold half a surrogate pair or octets that are no UTF-8, which does no harm in a
value that nobody looks at.
-/
namespace OrderFlow.Json
open OrderFlow.Text

/-- A character of the text, or a gap where its octets are no UTF-8. -/
abbrev Symbol := Option Char

/-- What has been read. -/
inductive Node where
  | null
  | bool (b : Bool)
  | number (n : Numeral)
  /-- A string; none if its content is no text. -/
  | text (content : Option (List Char))
  | array (items : List Node) (closed : Bool)
  /-- Members by name; none in place of a name that is no text. -/
  | object (members : List (Option String × Node)) (closed : Bool)
  /-- The text stops being JSON here. -/
  | broken
  deriving Repr, Inhabited

/-- Skips the four blanks of JSON. -/
def skipBlank : List Symbol → List Symbol
  | some c :: rest =>
    if c = ' ' ∨ c = '\n' ∨ c = '\t' ∨ c = '\r' then skipBlank rest else some c :: rest
  | cs => cs

/-- The number of four digits in base sixteen at the front. -/
def code? : List Symbol → Option (Nat × List Symbol)
  | some a :: some b :: some c :: some d :: rest => (hexValue? [a, b, c, d]).map (·, rest)
  | _ => none

/-- The character behind a backslash, apart from `u`. -/
def unescape? (c : Char) : Option Char :=
  if c = '"' ∨ c = '\\' ∨ c = '/' then some c
  else if c = 'b' then some '\x08'
  else if c = 'f' then some '\x0c'
  else if c = 'n' then some '\n'
  else if c = 'r' then some '\r'
  else if c = 't' then some '\t'
  else none

/-- The first half of a surrogate pair. -/
def isHigh (n : Nat) : Bool := 0xD800 ≤ n && n ≤ 0xDBFF

/-- The second half of a surrogate pair. -/
def isLow (n : Nat) : Bool := 0xDC00 ≤ n && n ≤ 0xDFFF

/-- The second half of a surrogate pair written as an escape at the front. -/
def lowHalf? : List Symbol → Option (Nat × List Symbol)
  | some '\\' :: some 'u' :: rest => (code? rest).filter fun (n, _) => isLow n
  | _ => none

/-- A character in front of what follows in a string. -/
def push (c : Option Char) (r : Option (List Char)) : Option (List Char) := do
  some ((← c) :: (← r))

/-- One character of a string, none in place of one that is no text, and what follows it; nothing at
all if the string cannot go on like this. -/
def character? : List Symbol → Option (Option Char × List Symbol)
  | some '\\' :: some 'u' :: rest => do
    let (n, rest) ← code? rest
    if isHigh n then
      match lowHalf? rest with
      | some (low, rest) =>
        some (some (Char.ofNat (0x10000 + (n - 0xD800) * 0x400 + (low - 0xDC00))), rest)
      | none => some (none, rest)
    else if isLow n then some (none, rest)
    else some (some (Char.ofNat n), rest)
  | some '\\' :: some c :: rest => (unescape? c).map fun c => (some c, rest)
  | some '\\' :: _ => none
  | some c :: rest => if c < ' ' then none else some (some c, rest)
  | none :: rest => some (none, rest)
  | [] => none

/-- The content of a string behind its opening mark, and what follows the closing one. -/
def string? : Nat → List Symbol → Option (Option (List Char) × List Symbol)
  | 0, _ => none
  | fuel + 1, cs =>
    match cs with
    | some '"' :: rest => some (some [], rest)
    | cs => do
      let (c, rest) ← character? cs
      let (content, rest) ← string? fuel rest
      some (push c content, rest)

/-- The digits at the front, and what follows them. -/
def spanDigits : List Symbol → List Char × List Symbol
  | some c :: rest =>
    if c.isDigit then
      let (ds, rest) := spanDigits rest
      (c :: ds, rest)
    else ([], some c :: rest)
  | cs => ([], cs)

/-- The digits in front of the point: no zero in front of others. -/
def whole? (cs : List Symbol) : Option (List Char × List Symbol) :=
  match spanDigits cs with
  | ([], _) => none
  | ('0' :: _ :: _, _) => none
  | r => some r

/-- The point and at least one digit, or nothing. -/
def fraction? : List Symbol → Option (List Char × List Symbol)
  | some '.' :: rest =>
    match spanDigits rest with
    | ([], _) => none
    | r => some r
  | cs => some ([], cs)

/-- The mark of an exponent with its sign and at least one digit, or nothing. -/
def exponent? : List Symbol → Option (Option (Bool × List Char) × List Symbol)
  | some c :: rest =>
    if c = 'e' ∨ c = 'E' then
      let (negative, rest) := match rest with
        | some '-' :: rest => (true, rest)
        | some '+' :: rest => (false, rest)
        | rest => (false, rest)
      match spanDigits rest with
      | ([], _) => none
      | (ds, rest) => some (some (negative, ds), rest)
    else some (none, some c :: rest)
  | cs => some (none, cs)

/-- A number behind its sign. -/
def unsigned? (negative : Bool) (cs : List Symbol) : Option (Numeral × List Symbol) := do
  let (whole, cs) ← whole? cs
  let (fraction, cs) ← fraction? cs
  let (exponent, cs) ← exponent? cs
  some (⟨negative, whole, fraction, exponent⟩, cs)

/-- A number at the front. -/
def number? : List Symbol → Option (Numeral × List Symbol)
  | some '-' :: rest => unsigned? true rest
  | cs => unsigned? false cs

/-- What remains behind a fixed word. -/
def word? (word : List Char) (cs : List Symbol) : Option (List Symbol) :=
  if cs.take word.length = word.map some then some (cs.drop word.length) else none

/-- A node and what follows it, or a broken node behind which nothing is read. -/
def orBroken {α : Type} (node : α → Node) : Option (α × List Symbol) → Node × Option (List Symbol)
  | some (a, rest) => (node a, some rest)
  | none => (.broken, none)

mutual

/-- One value, and what follows it if the text is still JSON there. -/
def value : Nat → List Symbol → Node × Option (List Symbol)
  | 0, _ => (.broken, none)
  | fuel + 1, cs =>
    match skipBlank cs with
    | some '"' :: rest => orBroken .text (string? (rest.length + 1) rest)
    | some '[' :: rest =>
      match skipBlank rest with
      | some ']' :: rest => (.array [] true, some rest)
      | rest =>
        let (xs, rest) := items fuel rest
        (.array xs rest.isSome, rest)
    | some '{' :: rest =>
      match skipBlank rest with
      | some '}' :: rest => (.object [] true, some rest)
      | rest =>
        let (ms, rest) := members fuel rest
        (.object ms rest.isSome, rest)
    | some 'n' :: rest => orBroken (fun _ => .null) ((word? ['u', 'l', 'l'] rest).map ((), ·))
    | some 't' :: rest => orBroken (fun _ => .bool true) ((word? ['r', 'u', 'e'] rest).map ((), ·))
    | some 'f' :: rest =>
      orBroken (fun _ => .bool false) ((word? ['a', 'l', 's', 'e'] rest).map ((), ·))
    | cs => orBroken .number (number? cs)

/-- The values of an array up to its end, at least one. -/
def items : Nat → List Symbol → List Node × Option (List Symbol)
  | 0, _ => ([], none)
  | fuel + 1, cs =>
    match value fuel cs with
    | (x, none) => ([x], none)
    | (x, some rest) =>
      match skipBlank rest with
      | some ']' :: rest => ([x], some rest)
      | some ',' :: rest =>
        let (xs, rest) := items fuel rest
        (x :: xs, rest)
      | _ => ([x], none)

/-- The members of an object up to its end, at least one. A name without a value has a broken one.
-/
def members : Nat → List Symbol → List (Option String × Node) × Option (List Symbol)
  | 0, _ => ([], none)
  | fuel + 1, cs =>
    match skipBlank cs with
    | some '"' :: rest =>
      match string? (rest.length + 1) rest with
      | some (content, rest) =>
        let name := content.map String.ofList
        match skipBlank rest with
        | some ':' :: rest =>
          match value fuel rest with
          | (x, none) => ([(name, x)], none)
          | (x, some rest) =>
            match skipBlank rest with
            | some '}' :: rest => ([(name, x)], some rest)
            | some ',' :: rest =>
              let (ms, rest) := members fuel rest
              ((name, x) :: ms, rest)
            | _ => ([(name, x)], none)
        | _ => ([(name, .broken)], none)
      | _ => ([], none)
    | _ => ([], none)

end

mutual

/-- Whether a node is JSON throughout. -/
def Node.sound : Node → Bool
  | .broken => false
  | .array xs closed => closed && soundItems xs
  | .object ms closed => closed && soundMembers ms
  | _ => true

/-- Whether all values are JSON throughout. -/
def Node.soundItems : List Node → Bool
  | [] => true
  | x :: xs => x.sound && soundItems xs

/-- Whether all members are JSON throughout. -/
def Node.soundMembers : List (Option String × Node) → Bool
  | [] => true
  | (_, x) :: ms => x.sound && soundMembers ms

end

end OrderFlow.Json
