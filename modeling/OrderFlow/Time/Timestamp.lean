import OrderFlow.Text.Blank
import OrderFlow.Time.Instant

/-!
Times as messages carry them: a day and a time of day in universal time, to the nanosecond, where
the second may be the sixtieth. `text` writes the shortest of none, three, six or nine decimal
places that loses nothing. `parse?` reads that form and looser ones: blanks around the numbers,
one-digit months and days, any number of decimal places (those after the ninth are cut off), and an
offset from universal time with or without a colon.
-/
namespace OrderFlow
open OrderFlow.Text

/-- A time as messages carry it. -/
structure Timestamp where
  day : CalendarDay
  hour : Nat
  minute : Nat
  /-- At most 60: a leap second counts as the sixtieth. -/
  second : Nat
  nanos : Nat
  deriving DecidableEq, Repr, Inhabited

namespace Timestamp

/-- The time of a point in time. -/
def ofInstant (t : Instant) : Timestamp :=
  let ofDay := (t.nanos % 86400000000000).toNat
  let seconds := ofDay / 1000000000
  ⟨t.day, seconds / 3600, seconds / 60 % 60, seconds % 60, ofDay % 1000000000⟩

/-- The decimal places of a second: as few groups of three as show all of them. -/
def fraction (nanos : Nat) : List Char :=
  if nanos = 0 then []
  else if nanos % 1000000 = 0 then '.' :: padded 3 (nanos / 1000000)
  else if nanos % 1000 = 0 then '.' :: padded 6 (nanos / 1000)
  else '.' :: padded 9 nanos

/-- The written form, always in universal time. -/
def chars (t : Timestamp) : List Char :=
  t.day.text ++ 'T' :: padded 2 t.hour ++ ':' :: padded 2 t.minute ++ ':' :: padded 2 t.second ++
    fraction t.nanos ++ ['Z']

/-- The written form as a text. -/
def text (t : Timestamp) : String := String.ofList t.chars

/-- The time `minutes` earlier; the day follows. -/
def minus (t : Timestamp) (minutes : Int) : Timestamp :=
  if minutes = 0 then t
  else
    let total := t.hour * 60 + t.minute - minutes
    let ofDay := (total % 1440).toNat
    let day := .ofNumber (t.day.number + total / 1440)
    { t with day, hour := ofDay / 60, minute := ofDay % 60 }

/-- Digits at the front, at least one and at most `most` of them. -/
def number? (most : Nat) (cs : List Char) : Option (Nat × List Char) :=
  let ds := (cs.take most).takeWhile Char.isDigit
  if ds = [] then none else some (value ds, cs.drop ds.length)

/-- Blanks, then at most two digits. -/
def field? (cs : List Char) : Option (Nat × List Char) := number? 2 (dropBlank cs)

/-- Blanks, then a year: four digits at most, or any number of them behind a sign. -/
def year? (cs : List Char) : Option (Int × List Char) :=
  match dropBlank cs with
  | '-' :: rest => (number? rest.length rest).map fun (n, rest) => (-(n : Int), rest)
  | '+' :: rest => (number? rest.length rest).map fun (n, rest) => ((n : Int), rest)
  | cs => (number? 4 cs).map fun (n, rest) => ((n : Int), rest)

/-- Blanks, then the mark between two numbers. -/
def mark? (c : Char) (cs : List Char) : Option (List Char) :=
  match dropBlank cs with
  | x :: rest => if x = c then some rest else none
  | [] => none

/-- The decimal places of a second, if a point is next: nine of them count. -/
def nanos? : List Char → Option (Nat × List Char)
  | '.' :: rest =>
    let (ds, rest) := spanDigits rest
    if ds = [] then none
    else
      let kept := ds.take 9
      some (value kept * 10 ^ (9 - kept.length), rest)
  | cs => some (0, cs)

/-- An offset from universal time, in minutes. -/
def offset? (cs : List Char) : Option (Int × List Char) :=
  match cs with
  | 'Z' :: rest | 'z' :: rest => some (0, rest)
  | sign :: h₁ :: h₂ :: rest =>
    let negative := sign = '-' ∨ sign = '\u2212'
    if ¬ negative ∧ sign ≠ '+' then none
    else if h₁.isDigit ∧ h₂.isDigit then
      match rest.dropWhile fun c => c = ':' || isBlank c with
      | m₁ :: m₂ :: rest =>
        if m₁.isDigit ∧ m₁ < '6' ∧ m₂.isDigit then
          let minutes : Int := value [h₁, h₂] * 60 + value [m₁, m₂]
          if minutes < 1440 then some (if negative then -minutes else minutes, rest) else none
        else none
      | _ => none
    else none
  | _ => none

/-- The zone behind a time: the letters `UTC` in either case, or an offset. -/
def zone? (cs : List Char) : Option (Int × List Char) :=
  if (cs.take 3).map Char.toUpper = ['U', 'T', 'C'] then some (0, cs.drop 3) else offset? cs

/-- Reads a time. -/
def parse? (s : String) : Option Timestamp := do
  let (year, cs) ← year? s.toList
  let cs ← mark? '-' cs
  let (month, cs) ← field? cs
  let cs ← mark? '-' cs
  let (day, cs) ← field? cs
  let cs ← match cs with
    | 'T' :: rest | 't' :: rest | ' ' :: rest => some rest
    | _ => none
  let (hour, cs) ← field? cs
  let cs ← mark? ':' cs
  let (minute, cs) ← field? cs
  let cs ← mark? ':' cs
  let (second, cs) ← field? cs
  let (nanos, cs) ← nanos? cs
  let (offset, cs) ← zone? (dropBlank cs)
  let day ← CalendarDay.of? year month day
  let inRange (year : Int) : Bool := -262143 ≤ year && year ≤ 262142
  let here ← if hour < 24 ∧ minute < 60 ∧ second ≤ 60 ∧ inRange year then
      some (⟨day, hour, minute, second, nanos⟩ : Timestamp)
    else none
  let universal := here.minus offset
  if dropBlank cs = [] ∧ inRange universal.day.year then some universal else none

end Timestamp

end OrderFlow
