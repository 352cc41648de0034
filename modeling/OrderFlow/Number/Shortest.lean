import OrderFlow.Number.Binary64
import OrderFlow.Text.Numerals

/-!
The fewest decimal digits that read back as a given double. For one, two, … seventeen digits the two
neighbours of the value on that decimal grid are tried; the first grid on which one of them reads
back wins, and of two the nearer. `plain` writes the digits without an exponent, `scientific` goes
over to an exponent for very large and very small numbers.
-/
namespace OrderFlow.Binary64
open OrderFlow.Text

/-- The exponent of the leading decimal digit of `num / den`. -/
def leadingPower (num den : Nat) : Int :=
  if den ≤ num then ((digits (num / den)).length : Int) - 1
  else
    let inverse := den / num
    if den = inverse * num ∧ inverse = 10 ^ ((digits inverse).length - 1) then
      -((digits inverse).length - 1 : Nat)
    else -((digits inverse).length : Int)

/-- The neighbours of `num / den` on the grid of multiples of `10 ^ power`, the nearer first. -/
def neighbours (num den : Nat) (power : Int) : List Nat :=
  let n := num * 10 ^ (-power).toNat
  let d := den * 10 ^ power.toNat
  let low := n / d
  if 2 * (n % d) ≤ d then [low, low + 1] else [low + 1, low]

/-- Digits and power of ten of the shortest decimal number that reads back as `x`, a positive finite
number equal to `num / den`. -/
def shortestDigits (x : Binary64) (num den : Nat) : Nat × Int :=
  let lead := leadingPower num den
  let onGrid (count : Nat) : Option (Nat × Int) :=
    let power := lead - count + 1
    ((neighbours num den power).find? fun n => ofScientific false n power == x).map (·, power)
  ((List.range 18).findSome? onGrid).getD (0, 0)

/-- Trailing zeros moved from the digits into the power of ten. -/
def stripZeros : Nat → Nat × Int → Nat × Int
  | 0, x => x
  | fuel + 1, (n, power) =>
    if n ≠ 0 ∧ n % 10 = 0 then stripZeros fuel (n / 10, power + 1) else (n, power)

/-- The shortest digits of a finite number, without its sign, and their power of ten. -/
def shortest (significand : Nat) (exponent : Int) : Nat × Int :=
  if significand = 0 then (0, 0)
  else
    stripZeros 20 <| shortestDigits (.finite false significand exponent)
      (significand * 2 ^ exponent.toNat) (2 ^ (-exponent).toNat)

/-- Digits with a point after the first `whole` of them; zeros fill the gap where the point lies
outside the digits. -/
def withPoint (ds : List Char) (whole : Int) : List Char × List Char :=
  if whole ≤ 0 then (['0'], List.replicate (-whole).toNat '0' ++ ds)
  else
    let n := whole.toNat
    (ds.take n ++ List.replicate (n - ds.length) '0', ds.drop n)

/-- The shortest digits without an exponent and, for a whole number, without a point. -/
def plain : Binary64 → List Char
  | .nan => "NaN".toList
  | .infinite negative => (if negative then "-inf" else "inf").toList
  | .finite negative m e =>
    let (n, power) := shortest m e
    let ds := digits n
    let (whole, fraction) := withPoint ds (ds.length + power)
    (if negative then ['-'] else []) ++ whole ++ (if fraction = [] then [] else '.' :: fraction)

/-- The shortest digits; with a point and at least one digit after it from `1e-5` up to below
`1e16`, with an exponent outside. Numbers that are not finite have no such form. -/
def scientific? : Binary64 → Option (List Char)
  | .finite negative m e =>
    let (n, power) := shortest m e
    let ds := digits n
    let whole := ds.length + power
    let body :=
      if m = 0 then ['0', '.', '0']
      else if -5 < whole ∧ whole ≤ 16 then
        let (before, after) := withPoint ds whole
        before ++ '.' :: (if after = [] then ['0'] else after)
      else
        let mantissa := if ds.length = 1 then ds else ds.take 1 ++ '.' :: ds.drop 1
        mantissa ++ 'e' :: signed (whole - 1)
    some ((if negative then ['-'] else []) ++ body)
  | _ => none

end OrderFlow.Binary64
