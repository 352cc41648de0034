import OrderFlow.Number.Binary64
import OrderFlow.Text.Numerals

/-!
Numbers as JSON text writes them, and the quantity that such a number stands for. A whole number in
the range of 64 bits is kept exactly. Any other becomes a double: its digits are collected into a
64-bit significand until the next one would not fit, the power of ten is worked out from the rest,
and the significand is multiplied or divided by that power, each step rounded.
-/
namespace OrderFlow.Json
open OrderFlow.Text

/-- A number as it is written. -/
structure Numeral where
  negative : Bool
  whole : List Char
  /-- The digits behind the point; none if there is no point. -/
  fraction : List Char
  /-- The sign (true for minus) and the digits of the exponent. -/
  exponent : Option (Bool × List Char)
  deriving DecidableEq, Repr, Inhabited

/-- What a number stands for. -/
inductive Quantity where
  /-- A whole number of at most 64 bits. -/
  | whole (n : Int)
  | real (x : Binary64)
  deriving DecidableEq, Repr, Inhabited

/-- Appends digits to a significand as long as it stays below `2 ^ 64`; the digits left over. -/
def collect : Nat → List Char → Nat × List Char
  | n, [] => (n, [])
  | n, c :: cs =>
    let m := 10 * n + (c.toNat - '0'.toNat)
    if m < 2 ^ 64 then collect m cs else (n, c :: cs)

/-- A power of ten as a double. -/
def powerOfTen (n : Nat) : Binary64 := .ofScientific false 1 n

/-- A significand times a power of ten. Powers below `10 ^ -308` are divided out in several steps.
A result that is too large is no number. -/
def scale? : Nat → Binary64 → Int → Option Binary64
  | 0, x, _ => some x
  | steps + 1, x, power =>
    if 308 < power then (if x = .ofNat 0 then some x else none)
    else if 0 ≤ power then
      match x.mul (powerOfTen power.toNat) with
      | .infinite _ => none
      | y => some y
    else if -308 ≤ power then some (x.div (powerOfTen (-power).toNat))
    else if x = .ofNat 0 then some x
    else scale? steps (x.div (powerOfTen 308)) (power + 308)

/-- The digits of an exponent as a number, none if it does not fit into 31 bits. -/
def exponentValue? (ds : List Char) : Option Nat :=
  if value ds < 2 ^ 31 then some (value ds) else none

/-- The double that a significand, a power of ten and a written exponent stand for. -/
def magnitude? (significand : Nat) (power : Int) : Option (Bool × List Char) → Option Binary64
  | none => scale? 8 (.ofNat significand) power
  | some (negative, ds) =>
    match exponentValue? ds with
    | some e => scale? 8 (.ofNat significand) (if negative then power - e else power + e)
    | none => if negative ∨ significand = 0 then some (.ofNat 0) else none

/-- The quantity of a number, none if it is out of range. -/
def Numeral.quantity? (n : Numeral) : Option Quantity :=
  let (significand, left) := collect 0 n.whole
  if n.fraction = [] ∧ n.exponent = none ∧ left = [] then
    if ¬ n.negative then some (.whole significand)
    else if 1 ≤ significand ∧ significand ≤ 2 ^ 63 then some (.whole (-significand))
    else some (.real (Binary64.ofNat significand).neg)
  else
    let (significand, unread) := collect significand n.fraction
    let power : Int := left.length - (n.fraction.length - unread.length : Nat)
    (magnitude? significand power n.exponent).map fun x =>
      .real (if n.negative then x.neg else x)

end OrderFlow.Json
