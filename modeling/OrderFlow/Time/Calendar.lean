import OrderFlow.Text.Numerals

/-!
Days of the proleptic Gregorian calendar, and the number of days that a date lies after 1 January
1970. Years count through zero; those outside four digits are written with a sign.
-/
namespace OrderFlow
open OrderFlow.Text

/-- A day of the calendar. -/
structure CalendarDay where
  year : Int
  month : Nat
  day : Nat
  deriving DecidableEq, Repr, Inhabited

namespace CalendarDay

/-- Whether a year has 366 days. -/
def isLeap (year : Int) : Bool := year % 4 = 0 && (year % 100 ≠ 0 || year % 400 = 0)

/-- How many days a month has; none for a number that is no month. -/
def daysIn (year : Int) (month : Nat) : Nat :=
  match month with
  | 2 => if isLeap year then 29 else 28
  | 4 | 6 | 9 | 11 => 30
  | 1 | 3 | 5 | 7 | 8 | 10 | 12 => 31
  | _ => 0

/-- The day of these numbers, if the calendar has it. -/
def of? (year : Int) (month day : Nat) : Option CalendarDay :=
  if 1 ≤ day ∧ day ≤ daysIn year month then some ⟨year, month, day⟩ else none

/-- Days from 1 January 1970. Years are counted from March, so that a leap day is the last of its
year; 400 years have 146097 days. -/
def number (d : CalendarDay) : Int :=
  let y := if d.month ≤ 2 then d.year - 1 else d.year
  let shifted : Int := if d.month ≤ 2 then d.month + 9 else d.month - 3
  let era := y / 400
  let ofEra := y % 400
  let ofYear := (153 * shifted + 2) / 5 + d.day - 1
  era * 146097 + ofEra * 365 + ofEra / 4 - ofEra / 100 + ofYear - 719468

/-- The day that lies `n` days after 1 January 1970. -/
def ofNumber (n : Int) : CalendarDay :=
  let z := n + 719468
  let era := z / 146097
  let rest := z % 146097
  let ofEra := (rest - rest / 1460 + rest / 36524 - rest / 146096) / 365
  let ofYear := rest - (365 * ofEra + ofEra / 4 - ofEra / 100)
  let shifted := (5 * ofYear + 2) / 153
  let day := ofYear - (153 * shifted + 2) / 5 + 1
  let month := if shifted < 10 then shifted + 3 else shifted - 9
  let year := ofEra + era * 400
  ⟨if month ≤ 2 then year + 1 else year, month.toNat, day.toNat⟩

/-- A year: four digits, and a sign as well outside the years 0 to 9999. -/
def yearText (year : Int) : List Char :=
  if 0 ≤ year ∧ year ≤ 9999 then padded 4 year.toNat
  else (if year < 0 then '-' else '+') :: padded 4 year.natAbs

/-- Year, month and day with hyphens between them. -/
def text (d : CalendarDay) : List Char :=
  yearText d.year ++ '-' :: padded 2 d.month ++ '-' :: padded 2 d.day

/-- Year, month and day without anything between them. -/
def compact (d : CalendarDay) : List Char :=
  yearText d.year ++ padded 2 d.month ++ padded 2 d.day

/-- Reads `YYYY-MM-DD`. -/
def parse? (s : String) : Option CalendarDay :=
  match s.splitOn "-" with
  | [y, m, d] => do
    let year ← natural? y.toList
    let month ← natural? m.toList
    let day ← natural? d.toList
    of? year month day
  | _ => none

end CalendarDay

end OrderFlow
