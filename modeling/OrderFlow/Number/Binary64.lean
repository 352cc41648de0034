import OrderFlow.Number.Rounding

/-!
Double-precision numbers as exact values. A finite one is a significand below `2 ^ 53` times a power
of two, the power not below `2 ^ -1074`; `ofRatio` is the nearest of them to a quotient, and every
operation is the exact result put through `ofRatio`. A finite number is a whole number of units of
`2 ^ -1074` (`units`), which makes comparing exact as well.
-/
namespace OrderFlow

/-- A double-precision number. -/
inductive Binary64 where
  /-- `significand * 2 ^ exponent`, with the sign in front; zero has either sign. -/
  | finite (negative : Bool) (significand : Nat) (exponent : Int)
  /-- Larger than every finite number, or smaller than each. -/
  | infinite (negative : Bool)
  /-- The result of an operation that has none. -/
  | nan
  deriving DecidableEq, Repr, Inhabited

namespace Binary64
open OrderFlow.Number

/-- The power of two that brings `num / den` into the range from `2 ^ 52` to `2 ^ 53`. -/
def exponentOf (num den : Nat) : Int :=
  let guess : Int := (num.log2 : Int) - den.log2 - 52
  if num * 2 ^ (-guess).toNat / (den * 2 ^ guess.toNat) < 2 ^ 52 then guess - 1 else guess

/-- The double nearest to `num / den`; of two equally near the one with the even significand. -/
def ofRatio (negative : Bool) (num den : Nat) : Binary64 :=
  if num = 0 then .finite negative 0 (-1074)
  else
    let e := max (exponentOf num den) (-1074)
    let q := roundHalfEven (num * 2 ^ (-e).toNat) (den * 2 ^ e.toNat)
    let (q, e) := if q = 2 ^ 53 then (2 ^ 52, e + 1) else (q, e)
    if 971 < e then .infinite negative else .finite negative q e

/-- The double nearest to a natural number. -/
def ofNat (n : Nat) : Binary64 := ofRatio false n 1

/-- The double nearest to a whole number. -/
def ofInt (n : Int) : Binary64 := ofRatio (n < 0) n.natAbs 1

/-- The double nearest to `n * 10 ^ power`. Beyond four hundred powers of ten on top of the digits
the result is zero or infinite whatever the digits are. -/
def ofScientific (negative : Bool) (n : Nat) (power : Int) : Binary64 :=
  if n = 0 then .finite negative 0 (-1074)
  else if 400 < power then .infinite negative
  else if power < -400 - (n.log2 : Int) then .finite negative 0 (-1074)
  else ofRatio negative (n * 10 ^ power.toNat) (10 ^ (-power).toNat)

/-- Whether the sign in front is a minus. -/
def isNegative : Binary64 → Bool
  | .finite negative _ _ | .infinite negative => negative
  | .nan => false

/-- The same number with the other sign. -/
def neg : Binary64 → Binary64
  | .finite negative m e => .finite (!negative) m e
  | .infinite negative => .infinite (!negative)
  | .nan => .nan

/-- A finite number as a count of units of `2 ^ -1074`, without its sign. -/
def magnitude (significand : Nat) (exponent : Int) : Nat :=
  significand * 2 ^ (exponent + 1074).toNat

/-- A finite number as a count of units of `2 ^ -1074`. -/
def units : Binary64 → Int
  | .finite negative m e => if negative then -(magnitude m e : Int) else magnitude m e
  | _ => 0

/-- The exact sum of two finite numbers, rounded. -/
def add : Binary64 → Binary64 → Binary64
  | .nan, _ | _, .nan => .nan
  | .infinite a, .infinite b => if a = b then .infinite a else .nan
  | .infinite a, .finite .. => .infinite a
  | .finite .., .infinite b => .infinite b
  | x@(.finite a _ _), y@(.finite b _ _) =>
    let sum := x.units + y.units
    ofRatio (if sum = 0 then a && b else sum < 0) sum.natAbs (2 ^ 1074)

/-- The exact product, rounded. -/
def mul : Binary64 → Binary64 → Binary64
  | .nan, _ | _, .nan => .nan
  | .infinite a, .infinite b => .infinite (a != b)
  | .infinite a, .finite b m _ | .finite b m _, .infinite a =>
    if m = 0 then .nan else .infinite (a != b)
  | .finite a m e, .finite b n f =>
    ofRatio (a != b) (m * n * 2 ^ (e + f).toNat) (2 ^ (-(e + f)).toNat)

/-- The exact quotient, rounded. -/
def div : Binary64 → Binary64 → Binary64
  | .nan, _ | _, .nan => .nan
  | .infinite _, .infinite _ => .nan
  | .infinite a, .finite b _ _ => .infinite (a != b)
  | .finite a _ _, .infinite b => .finite (a != b) 0 (-1074)
  | .finite a m e, .finite b n f =>
    if n = 0 then (if m = 0 then .nan else .infinite (a != b))
    else ofRatio (a != b) (m * 2 ^ (e - f).toNat) (n * 2 ^ (f - e).toNat)

/-- Repeated squaring: the factors of `x ^ n` are multiplied from the lowest binary digit of `n` up,
each product rounded. -/
def pow (x : Binary64) (n : Nat) : Binary64 :=
  go n n x (ofNat 1)
where
  go : Nat → Nat → Binary64 → Binary64 → Binary64
    | 0, _, _, acc => acc
    | fuel + 1, n, x, acc =>
      let acc := if n % 2 = 1 then acc.mul x else acc
      if n / 2 = 0 then acc else go fuel (n / 2) (x.mul x) acc

/-- Whether the first number is at most the second; never so with `nan`. -/
def le : Binary64 → Binary64 → Bool
  | .nan, _ | _, .nan => false
  | .infinite true, _ | _, .infinite false => true
  | .infinite false, _ | _, .infinite true => false
  | x, y => x.units ≤ y.units

/-- Whether the first number is below the second; never so with `nan`. -/
def lt : Binary64 → Binary64 → Bool
  | .nan, _ | _, .nan => false
  | .infinite a, .infinite b => a && !b
  | .infinite a, .finite .. => a
  | .finite .., .infinite b => !b
  | x, y => x.units < y.units

/-- The smaller of two numbers, the other one where one is `nan`. -/
def min (x y : Binary64) : Binary64 :=
  if x = .nan then y else if y = .nan then x else if y.lt x then y else x

/-- The number brought into a range; `nan` stays. -/
def clamp (x low high : Binary64) : Binary64 :=
  if x.lt low then low else if high.lt x then high else x

/-- The whole part of a number, cut to the range from zero to `bound`; `nan` counts as zero. -/
def toNatUpTo (bound : Nat) : Binary64 → Nat
  | .nan | .infinite true | .finite true .. => 0
  | .infinite false => bound
  | .finite false m e => Nat.min bound (magnitude m e / 2 ^ 1074)

/-- The exact quotient of a nonnegative finite number: numerator and denominator. -/
def ratio? : Binary64 → Option (Nat × Nat)
  | .finite negative m e =>
    if negative ∧ m ≠ 0 then none else some (m * 2 ^ e.toNat, 2 ^ (-e).toNat)
  | _ => none

end Binary64

/-- A number drawn at random, from zero to one. -/
structure Draw where
  number : Binary64
  within : ((Binary64.ofNat 0).le number && number.le (.ofNat 1)) = true

/-- The middle of what can be drawn. -/
def Draw.half : Draw := ⟨.ofScientific false 5 (-1), by decide +kernel⟩

instance : Inhabited Draw := ⟨.half⟩

end OrderFlow
