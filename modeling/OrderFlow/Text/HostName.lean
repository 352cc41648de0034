import OrderFlow.Text.Numerals

/-!
Host names. A name is made of labels with points between them; a label has at most 63 letters,
digits and hyphens and neither begins nor ends with a hyphen. `ascii?` brings a name with other
letters into that alphabet: letters are made small, points of other scripts become points, and a
label that still has a foreign letter is written as `xn--` and the Punycode of the label.
`isAddress` accepts network addresses of four and of sixteen octets.
-/
namespace OrderFlow.Text.HostName

/-- Letters of the basic alphabet in either case, together with the two signs that count as another
case of `s` and `k`. -/
def isLetter (c : Char) : Bool := c.isAlpha || c = '\u017F' || c = '\u212A'

/-- Letters and digits. -/
def isAlnum (c : Char) : Bool := isLetter c || c.isDigit

/-- Whether a label has the form of the basic alphabet. -/
def isLabel (cs : List Char) : Bool :=
  cs.all (fun c => isAlnum c || c = '-') && cs.length ≤ 63 &&
    (cs.head?.any isAlnum) && (cs.getLast?.any isAlnum)

/-- The stretches of a text between points. -/
def labels (cs : List Char) : List (List Char) := cs.splitOn '.'

/-- Whether a text is a host name of the basic alphabet. -/
def isBasic (cs : List Char) : Bool := (labels cs).all isLabel

/-- A letter made small, in the scripts that are written with two cases. -/
def small (c : Char) : Char :=
  let n := c.toNat
  if (0x41 ≤ n ∧ n ≤ 0x5A) ∨ (0xC0 ≤ n ∧ n ≤ 0xDE ∧ n ≠ 0xD7) then Char.ofNat (n + 0x20)
  else if (0x100 ≤ n ∧ n ≤ 0x137) ∨ (0x14A ≤ n ∧ n ≤ 0x177) then
    Char.ofNat (if n % 2 = 0 then n + 1 else n)
  else if (0x139 ≤ n ∧ n ≤ 0x148) ∨ (0x179 ≤ n ∧ n ≤ 0x17E) then
    Char.ofNat (if n % 2 = 1 then n + 1 else n)
  else if n = 0x178 then '\u00FF'
  else if n = 0x17F then 's'
  else if n = 0x212A then 'k'
  else if n = 0x1E9E then '\u00DF'
  else if 0x391 ≤ n ∧ n ≤ 0x3AB ∧ n ≠ 0x3A2 then Char.ofNat (n + 0x20)
  else if 0x410 ≤ n ∧ n ≤ 0x42F then Char.ofNat (n + 0x20)
  else if 0x400 ≤ n ∧ n ≤ 0x40F then Char.ofNat (n + 0x50)
  else if 0x531 ≤ n ∧ n ≤ 0x556 then Char.ofNat (n + 0x30)
  else if 0x1E00 ≤ n ∧ n ≤ 0x1EFF ∧ (n ≤ 0x1E95 ∨ 0x1EA0 ≤ n) then
    Char.ofNat (if n % 2 = 0 then n + 1 else n)
  else c

/-- Signs that a name is read without. -/
def isIgnored (c : Char) : Bool :=
  c = '\u00AD' || c = '\u034F' || c = '\u200B' || c = '\u2060' || c = '\uFEFF' ||
    ('\uFE00' ≤ c && c ≤ '\uFE0F')

/-- Signs that no name may hold: controls, blanks, directions, private use and non-characters. -/
def isForbidden (c : Char) : Bool :=
  let n := c.toNat
  (0x80 ≤ n && n ≤ 0xA0) || (0x2000 ≤ n && n ≤ 0x200A) || (0x200C ≤ n && n ≤ 0x200F) ||
    (0x2028 ≤ n && n ≤ 0x202F) || (0x205F ≤ n && n ≤ 0x206F) || n = 0x1680 || n = 0x3000 ||
    (0xE000 ≤ n && n ≤ 0xF8FF) || (0xFFF0 ≤ n && n ≤ 0xFFFF) || (0xFDD0 ≤ n && n ≤ 0xFDEF) ||
    0xE0000 ≤ n

/-- Marks that combine with the letter in front of them and so cannot begin a label. -/
def isCombining (c : Char) : Bool :=
  let n := c.toNat
  (0x300 ≤ n && n ≤ 0x36F) || (0x483 ≤ n && n ≤ 0x489) || (0x591 ≤ n && n ≤ 0x5BD) ||
    (0x1AB0 ≤ n && n ≤ 0x1AFF) || (0x1DC0 ≤ n && n ≤ 0x1DFF) || (0x20D0 ≤ n && n ≤ 0x20FF) ||
    (0xFE20 ≤ n && n ≤ 0xFE2F)

/-- The basic form of one character: wide forms become narrow, foreign points become points. -/
def basicForm (c : Char) : Char :=
  if c = '\u3002' ∨ c = '\uFF0E' ∨ c = '\uFF61' then '.'
  else if '\uFF01' ≤ c ∧ c ≤ '\uFF5E' then small (Char.ofNat (c.toNat - 0xFEE0))
  else small c

/-- A Punycode digit. -/
def punyDigit (n : Nat) : Char :=
  if n < 26 then Char.ofNat ('a'.toNat + n) else Char.ofNat ('0'.toNat + (n - 26))

/-- Repeated division that adapts the bias: the value left and the number of steps. -/
def adaptSteps : Nat → Nat → Nat → Nat × Nat
  | 0, delta, steps => (delta, steps)
  | fuel + 1, delta, steps =>
    if 455 < delta then adaptSteps fuel (delta / 35) (steps + 1) else (delta, steps)

/-- The bias after a distance has been written. -/
def adapt (delta points : Nat) (first : Bool) : Nat :=
  let delta := if first then delta / 700 else delta / 2
  let (delta, steps) := adaptSteps (delta + 1) (delta + delta / points) 0
  36 * steps + 36 * delta / (delta + 38)

/-- A distance as digits of variable weight. -/
def distance : Nat → Nat → Nat → Nat → List Char
  | 0, _, _, _ => []
  | fuel + 1, bias, k, q =>
    let t := if k ≤ bias then 1 else if bias + 26 ≤ k then 26 else k - bias
    if q < t then [punyDigit q]
    else punyDigit (t + (q - t) % (36 - t)) :: distance fuel bias (k + 36) ((q - t) / (36 - t))

/-- Where the writing of a label stands. -/
structure Puny where
  delta : Nat
  bias : Nat
  handled : Nat
  out : List Char

/-- Writes the places of one code point in a label. -/
def punyAt (basic code : Nat) (label : List Nat) (s : Puny) : Puny :=
  let s := label.foldl (fun (s : Puny) c =>
    if c < code then { s with delta := s.delta + 1 }
    else if c = code then
      { delta := 0
        bias := adapt s.delta (s.handled + 1) (s.handled = basic)
        handled := s.handled + 1
        out := s.out ++ distance (s.delta + 1) s.bias 36 s.delta }
    else s) s
  { s with delta := s.delta + 1 }

/-- The Punycode of a label: its basic characters, a hyphen, and the places of the others in
ascending order. -/
def punycode (label : List Char) : List Char :=
  let basic := label.filter fun c => c.toNat < 0x80
  let codes := label.map Char.toNat
  let foreign := ((codes.filter fun n => 0x80 ≤ n).mergeSort).eraseDups
  let start : Puny := ⟨0, 72, basic.length, if basic = [] then [] else basic ++ ['-']⟩
  let (s, _) := foreign.foldl (fun (s, next) code =>
    let s := { s with delta := s.delta + (code - next) * (s.handled + 1) }
    (punyAt basic.length code codes s, code + 1)) (start, 0x80)
  s.out

/-- A label in the basic alphabet. -/
def asciiLabel? (label : List Char) : Option (List Char) :=
  if label.all fun c => c.toNat < 0x80 then some label
  else if label.any isForbidden ∨ label.head?.any isCombining then none
  else some ("xn--".toList ++ punycode label)

/-- A host name in the basic alphabet. -/
def ascii? (cs : List Char) : Option (List Char) :=
  let mapped := (cs.filter fun c => !isIgnored c).map basicForm
  ((labels mapped).mapM asciiLabel?).map fun ls => List.intercalate ['.'] ls

/-- One octet of an address: at most three digits without a zero in front. -/
def isOctet (cs : List Char) : Bool :=
  match natural? cs with
  | some n => n ≤ 255 && cs.length ≤ 3 && (cs.length = 1 || cs.head? ≠ some '0')
  | none => false

/-- An address of four octets with points between them. -/
def isAddress4 (cs : List Char) : Bool :=
  (cs.splitOn '.').length = 4 && (cs.splitOn '.').all isOctet

/-- The number of groups of two octets in a text of groups with colons between them, where the last
may be written as four octets if `mixed`. -/
def groups? (mixed : Bool) (cs : List Char) : Option Nat :=
  let isGroup (g : List Char) : Bool :=
    1 ≤ g.length && g.length ≤ 4 && g.all fun c => (hexDigit? c).isSome
  if cs = [] then some 0
  else
    let gs := cs.splitOn ':'
    if gs.all isGroup then some gs.length
    else if mixed ∧ gs.dropLast.all isGroup ∧ gs.getLast?.any isAddress4 then some (gs.length + 1)
    else none

/-- A text in front of and behind the first pair of colons. -/
def splitGap : List Char → Option (List Char × List Char)
  | ':' :: ':' :: rest => some ([], rest)
  | c :: rest => (splitGap rest).map fun (a, b) => (c :: a, b)
  | [] => none

/-- An address of eight groups, where one pair of colons may stand for one or more groups of zero.
-/
def isAddress6 (cs : List Char) : Bool :=
  match splitGap cs with
  | none => groups? true cs = some 8
  | some (before, after) =>
    match groups? false before, groups? true after with
    | some a, some b => a + b ≤ 7
    | _, _ => false

/-- Whether a text is a network address. -/
def isAddress (cs : List Char) : Bool := isAddress4 cs || isAddress6 cs

end OrderFlow.Text.HostName
