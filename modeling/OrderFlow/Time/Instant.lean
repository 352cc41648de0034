import OrderFlow.Time.Calendar

/-!
Points in time and spans of time, counted in nanoseconds. A span that the program waits for is never
negative. `Span.text` writes a span in the largest unit of which it has at least one.
-/
namespace OrderFlow
open OrderFlow.Text

/-- A span of time in nanoseconds. -/
structure Span where
  nanos : Nat
  deriving DecidableEq, Repr, Inhabited

namespace Span

/-- No time at all. -/
def zero : Span := ⟨0⟩

/-- A span of whole milliseconds. -/
def ofMillis (ms : Nat) : Span := ⟨ms * 1000000⟩

/-- A span of whole seconds. -/
def ofSeconds (s : Nat) : Span := ⟨s * 1000000000⟩

/-- The whole milliseconds of a span. -/
def millis (d : Span) : Nat := d.nanos / 1000000

instance : LE Span := ⟨fun a b => a.nanos ≤ b.nanos⟩

instance (a b : Span) : Decidable (a ≤ b) := inferInstanceAs (Decidable (a.nanos ≤ b.nanos))

instance : Add Span := ⟨fun a b => ⟨a.nanos + b.nanos⟩⟩

/-- The shorter of two spans. -/
def min (a b : Span) : Span := if a ≤ b then a else b

/-- A number of `unit`s with the decimal places it needs. -/
def inUnits (nanos unit places : Nat) : List Char :=
  let fraction := (padded places (nanos % unit)).reverse.dropWhile (· = '0')
  digits (nanos / unit) ++ (if fraction = [] then [] else '.' :: fraction.reverse)

/-- A span in seconds, milliseconds, microseconds or nanoseconds, whichever is the largest unit that
it reaches. -/
def text (d : Span) : String :=
  if 1000000000 ≤ d.nanos then String.ofList (inUnits d.nanos 1000000000 9) ++ "s"
  else if 1000000 ≤ d.nanos then String.ofList (inUnits d.nanos 1000000 6) ++ "ms"
  else if 1000 ≤ d.nanos then String.ofList (inUnits d.nanos 1000 3) ++ "µs"
  else String.ofList (digits d.nanos) ++ "ns"

end Span

/-- A point in time: nanoseconds since the start of 1970, negative before. -/
structure Instant where
  nanos : Int
  deriving DecidableEq, Repr, Inhabited

namespace Instant

instance : LE Instant := ⟨fun a b => a.nanos ≤ b.nanos⟩

instance : LT Instant := ⟨fun a b => a.nanos < b.nanos⟩

instance (a b : Instant) : Decidable (a ≤ b) := inferInstanceAs (Decidable (a.nanos ≤ b.nanos))

instance (a b : Instant) : Decidable (a < b) := inferInstanceAs (Decidable (a.nanos < b.nanos))

/-- The point that lies whole milliseconds after the start of 1970. -/
def ofMillis (ms : Int) : Instant := ⟨ms * 1000000⟩

/-- Whole milliseconds since the start of 1970. -/
def millis (t : Instant) : Int := t.nanos / 1000000

/-- Whole seconds since the start of 1970. -/
def seconds (t : Instant) : Int := t.nanos / 1000000000

/-- The day that a point in time belongs to. -/
def day (t : Instant) : CalendarDay := .ofNumber (t.nanos / 86400000000000)

/-- The point a signed number of nanoseconds later. -/
def shift (t : Instant) (nanos : Int) : Instant := ⟨t.nanos + nanos⟩

/-- The point that lies a span later. -/
def after (t : Instant) (d : Span) : Instant := ⟨t.nanos + d.nanos⟩

/-- The span since an earlier point; nothing if that one is later. -/
def since (t earlier : Instant) : Span := ⟨(t.nanos - earlier.nanos).toNat⟩

/-- The later of two points. -/
def latestOf (a b : Instant) : Instant := if a ≤ b then b else a

/-- The earliest and the latest point of the calendar: its years run from -262143 to 262142. -/
def earliest : Instant := ⟨(CalendarDay.number ⟨-262143, 1, 1⟩) * 86400000000000⟩

/-- See `earliest`. -/
def latest : Instant := ⟨(CalendarDay.number ⟨262143, 1, 1⟩) * 86400000000000 - 1⟩

/-- Whether a point in time lies within the calendar. -/
def inCalendar (t : Instant) : Bool := earliest ≤ t && t ≤ latest

end Instant

end OrderFlow
