import OrderFlow.Number.Text
import OrderFlow.Settings.Value
import OrderFlow.Time.Calendar

/-!
The scalars of TOML: strings in four spellings, and words that are numbers, flags, dates or times.
Dates and times are kept as text in one spelling.
-/
namespace OrderFlow.Toml
open OrderFlow Number Text Settings

/-- Whether a character may stand in a comment or in a string: of the control characters only the
tabulator. -/
def isPlain (c : Char) : Bool := c = '\t' || (' ' ≤ c && c ≠ '\x7f')

/-- What follows the blanks within a line. -/
def skipBlank (cs : List Char) : List Char := cs.dropWhile fun c => c = ' ' || c = '\t'

/-- What follows a line break at the front. -/
def lineBreak? : List Char → Option (List Char)
  | '\n' :: cs | '\r' :: '\n' :: cs => some cs
  | _ => none

/-- What follows blanks and line breaks. -/
def skipLines : List Char → List Char
  | '\r' :: '\n' :: cs => skipLines cs
  | c :: cs => if c = ' ' ∨ c = '\t' ∨ c = '\n' then skipLines cs else c :: cs
  | [] => []

/-- The character of a number, if there is one. -/
def character? (n : Nat) : Option Char := if n.isValidChar then some (Char.ofNat n) else none

/-- The character that an escape of `width` digits writes. -/
def coded? (width : Nat) (cs : List Char) : Option (Char × List Char) := do
  if cs.length < width then none
  else
    let n ← hexValue? (cs.take width)
    some (← character? n, cs.drop width)

/-- The character behind a backslash. -/
def escape? : List Char → Option (Char × List Char)
  | 'b' :: cs => some ('\x08', cs)
  | 't' :: cs => some ('\t', cs)
  | 'n' :: cs => some ('\n', cs)
  | 'f' :: cs => some ('\x0c', cs)
  | 'r' :: cs => some ('\r', cs)
  | '"' :: cs => some ('"', cs)
  | '\\' :: cs => some ('\\', cs)
  | 'u' :: cs => coded? 4 cs
  | 'U' :: cs => coded? 8 cs
  | _ => none

/-- A string up to the closing mark, in one line. -/
def quoted? : Nat → List Char → Option (List Char × List Char)
  | 0, _ => none
  | fuel + 1, cs =>
    match cs with
    | '"' :: rest => some ([], rest)
    | '\\' :: rest => do
      let (c, rest) ← escape? rest
      (quoted? fuel rest).map fun (s, rest) => (c :: s, rest)
    | c :: rest =>
      if isPlain c then (quoted? fuel rest).map fun (s, rest) => (c :: s, rest) else none
    | [] => none

/-- A string without escapes up to the closing mark, in one line. -/
def literal? : List Char → Option (List Char × List Char)
  | '\x27' :: cs => some ([], cs)
  | c :: cs => if isPlain c then (literal? cs).map fun (s, rest) => (c :: s, rest) else none
  | [] => none

/-- What follows the three marks at the end of a string over several lines; one or two further marks
in front of them belong to the string. -/
def closing? (mark : Char) (cs : List Char) : Option (List Char × List Char) :=
  let marks := cs.takeWhile (· = mark)
  if marks.length < 3 then none
  else
    let inside := min 2 (marks.length - 3)
    some (List.replicate inside mark, cs.drop (inside + 3))

/-- What follows a backslash at the end of a line: the blanks and line breaks behind it are no part
of the string. -/
def folded? (cs : List Char) : Option (List Char) :=
  (lineBreak? (skipBlank cs)).map skipLines

/-- A string over several lines, up to its three closing marks. -/
def longQuoted? : Nat → List Char → Option (List Char × List Char)
  | 0, _ => none
  | fuel + 1, cs =>
    match closing? '"' cs with
    | some r => some r
    | none =>
      match cs with
      | '\\' :: rest =>
        match folded? rest with
        | some rest => longQuoted? fuel rest
        | none => do
          let (c, rest) ← escape? rest
          (longQuoted? fuel rest).map fun (s, rest) => (c :: s, rest)
      | c :: rest =>
        match lineBreak? cs with
        | some rest => (longQuoted? fuel rest).map fun (s, rest) => ('\n' :: s, rest)
        | none =>
          if isPlain c then (longQuoted? fuel rest).map fun (s, rest) => (c :: s, rest) else none
      | [] => none

/-- A string without escapes over several lines, up to its three closing marks. -/
def longLiteral? : Nat → List Char → Option (List Char × List Char)
  | 0, _ => none
  | fuel + 1, cs =>
    match closing? '\x27' cs with
    | some r => some r
    | none =>
      match cs with
      | c :: rest =>
        match lineBreak? cs with
        | some rest => (longLiteral? fuel rest).map fun (s, rest) => ('\n' :: s, rest)
        | none =>
          if isPlain c then (longLiteral? fuel rest).map fun (s, rest) => (c :: s, rest) else none
      | [] => none

/-- What follows a line break directly behind the opening marks. -/
def skipBreak (cs : List Char) : List Char := (lineBreak? cs).getD cs

/-- A string in any spelling, at its opening mark. -/
def string? : List Char → Option (List Char × List Char)
  | '"' :: '"' :: '"' :: cs => longQuoted? (cs.length + 1) (skipBreak cs)
  | '\x27' :: '\x27' :: '\x27' :: cs => longLiteral? (cs.length + 1) (skipBreak cs)
  | '"' :: cs => quoted? (cs.length + 1) cs
  | '\x27' :: cs => literal? cs
  | _ => none

/-- A character of a bare name. -/
def isBare (c : Char) : Bool := c.isAlphanum || c = '_' || c = '-'

/-- A name, bare or in marks. -/
def name? (cs : List Char) : Option (String × List Char) :=
  match cs with
  | '"' :: rest => (quoted? (rest.length + 1) rest).map fun (s, rest) => (String.ofList s, rest)
  | '\x27' :: rest => (literal? rest).map fun (s, rest) => (String.ofList s, rest)
  | cs =>
    let (s, rest) := cs.span isBare
    if s = [] then none else some (String.ofList s, rest)

/-- Names with points between them. -/
def names? : Nat → List Char → Option (List String × List Char)
  | 0, _ => none
  | fuel + 1, cs => do
    let (first, rest) ← name? (skipBlank cs)
    match skipBlank rest with
    | '.' :: rest => (names? fuel rest).map fun (others, rest) => (first :: others, rest)
    | rest => some ([first], rest)

/-- Digits with single underscores between them, without these. -/
def grouped? (isDigit : Char → Bool) : List Char → Option (List Char)
  | [] => none
  | [c] => if isDigit c then some [c] else none
  | c :: '_' :: cs => if isDigit c then (grouped? isDigit cs).map (c :: ·) else none
  | c :: cs => if isDigit c then (grouped? isDigit cs).map (c :: ·) else none

/-- A number in a base of which the digits are the first ones of base sixteen. -/
def based? (base : Nat) (cs : List Char) : Option Int := do
  let below (c : Char) : Bool := (hexDigit? c).any (· < base)
  let ds ← grouped? below cs
  let n : Nat := (ds.filterMap hexDigit?).foldl (fun n d => base * n + d) 0
  return n

/-- Decimal digits without a zero in front of others. -/
def decimal? (cs : List Char) : Option (List Char) := do
  match ← grouped? Char.isDigit cs with
  | '0' :: _ :: _ => none
  | ds => some ds

/-- A whole number of 64 bits. -/
def whole? (cs : List Char) : Option Int :=
  let n : Option Int := match cs with
    | '0' :: 'x' :: ds => based? 16 ds
    | '0' :: 'o' :: ds => based? 8 ds
    | '0' :: 'b' :: ds => based? 2 ds
    | cs =>
      let (negative, ds) := splitSign cs
      (decimal? ds).map fun ds => if negative then -(value ds : Int) else value ds
  n.filter fun n => -2 ^ 63 ≤ n && n < 2 ^ 63

/-- The digits behind a point, if there is one. -/
def fraction? : List Char → Option (List Char)
  | [] => some []
  | '.' :: cs => grouped? Char.isDigit cs
  | _ => none

/-- The exponent behind its mark, if there is one. -/
def exponent? : List Char → Option Int
  | [] => some 0
  | _ :: cs => do
    let (negative, ds) := splitSign cs
    let ds ← grouped? Char.isDigit ds
    return if negative then -(value ds : Int) else value ds

/-- A number with a point, an exponent, or both, or one of the names `inf` and `nan`. -/
def real? (cs : List Char) : Option Binary64 := do
  let (negative, cs) := splitSign cs
  if cs = ['i', 'n', 'f'] then return .infinite negative
  if cs = ['n', 'a', 'n'] then return .nan
  let (mantissa, power) := cs.span fun c => c ≠ 'e' && c ≠ 'E'
  let (whole, fraction) := mantissa.span (· ≠ '.')
  if fraction = [] ∧ power = [] then none
  let whole ← decimal? whole
  let fraction ← fraction? fraction
  let power ← exponent? power
  match Binary64.ofScientific negative (value (whole ++ fraction)) (power - fraction.length) with
  | .infinite _ => none
  | x => some x

/-- A number of exactly two digits up to a greatest one. -/
def twoDigits? (most : Nat) (cs : List Char) : Option Nat :=
  if cs.length = 2 then (natural? cs).filter (· ≤ most) else none

/-- A day, as `year-month-day`. -/
def day? (cs : List Char) : Option (List Char) :=
  (CalendarDay.parse? (String.ofList cs)).map (·.text)

/-- A time of day, as `hour:minute:second` with an optional fraction of up to nine digits that
count. -/
def clock? (cs : List Char) : Option (List Char) := do
  if (cs.drop 2).head? ≠ some ':' ∨ (cs.drop 5).head? ≠ some ':' then none
  else
    let h ← twoDigits? 23 (cs.take 2)
    let m ← twoDigits? 59 ((cs.drop 3).take 2)
    let s ← twoDigits? 60 ((cs.drop 6).take 2)
    let written := padded 2 h ++ ':' :: padded 2 m ++ ':' :: padded 2 s
    match cs.drop 8 with
    | [] => some written
    | '.' :: ds =>
      let _ ← natural? ds
      let shown := ((ds.take 9).reverse.dropWhile (· = '0')).reverse
      some (if shown = [] then written else written ++ '.' :: shown)
    | _ => none

/-- What a time is off the world's time: `Z`, or a sign with `hour:minute`. -/
def offset? : List Char → Option (List Char)
  | ['Z'] | ['z'] => some ['Z']
  | sign :: cs =>
    if sign = '+' ∨ sign = '-' then do
      if (cs.drop 2).head? ≠ some ':' then none
      else
        let h ← twoDigits? 23 (cs.take 2)
        let m ← twoDigits? 59 (cs.drop 3)
        some (sign :: padded 2 h ++ ':' :: padded 2 m)
    else none
  | [] => none

/-- A time of day with or without an offset. -/
def moment? (cs : List Char) : Option (List Char) := do
  let (time, offset) := cs.span fun c => c.isDigit || c = ':' || c = '.'
  let time ← clock? time
  if offset = [] then some time else (offset? offset).map (time ++ ·)

/-- A date, a time of day, or both. -/
def dateTime? (cs : List Char) : Option (List Char) :=
  match day? (cs.take 10), cs.drop 10 with
  | some d, [] => some d
  | some d, c :: rest =>
    if c = 'T' ∨ c = 't' ∨ c = ' ' then (moment? rest).map fun m => d ++ 'T' :: m else none
  | none, _ => clock? cs

/-- A character of a word that is no string. -/
def isWord (c : Char) : Bool := c.isAlphanum || c = '_' || c = '-' || c = '+' || c = '.' || c = ':'

/-- The word at the front. The blank between a date and a time of day belongs to the word. -/
def word (cs : List Char) : List Char × List Char :=
  let (w, rest) := cs.span isWord
  match rest with
  | ' ' :: c :: rest' =>
    if (day? w).isSome ∧ c.isDigit then
      let (time, rest) := (c :: rest').span isWord
      (w ++ ' ' :: time, rest)
    else (w, rest)
  | _ => (w, rest)

/-- The value of a word. -/
def wordValue? (w : List Char) : Option Value :=
  if w = "true".toList then some (.flag true)
  else if w = "false".toList then some (.flag false)
  else
    match whole? w with
    | some n => some (.int n)
    | none =>
      match real? w with
      | some x => some (.real x)
      | none => (dateTime? w).map fun cs => .text (String.ofList cs)

end OrderFlow.Toml
