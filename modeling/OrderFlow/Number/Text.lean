import OrderFlow.Number.Binary64
import OrderFlow.Text.Numerals

/-!
Numbers as people write them into settings: whole numbers with an optional sign, and doubles with an
optional point and exponent, or by name.
-/
namespace OrderFlow.Number
open OrderFlow.Text

/-- A text in lower case, as far as it is ASCII. -/
def lower (cs : List Char) : List Char := cs.map Char.toLower

/-- A sign in front, true for a minus, and what follows it. -/
def splitSign : List Char → Bool × List Char
  | '-' :: cs => (true, cs)
  | '+' :: cs => (false, cs)
  | cs => (false, cs)

/-- A whole number in front of which a sign may stand. -/
def integer? (cs : List Char) : Option Int :=
  let (negative, ds) := splitSign cs
  (natural? ds).map fun n => if negative then -(n : Int) else n

/-- A number without a minus sign; a plus sign may stand in front. -/
def unsigned? : List Char → Option Nat
  | '+' :: cs => natural? cs
  | cs => natural? cs

/-- The exponent behind its mark; no exponent counts as nothing. -/
def exponent? : List Char → Option Int
  | [] => some 0
  | c :: cs => if c = 'e' ∨ c = 'E' then integer? cs else none

/-- A double without its sign: digits with a point among them, at least one digit in all, and an
optional exponent. -/
def magnitude? (negative : Bool) (cs : List Char) : Option Binary64 :=
  let (whole, cs) := spanDigits cs
  let (fraction, cs) := match cs with
    | '.' :: cs => spanDigits cs
    | cs => ([], cs)
  if whole ++ fraction = [] then none
  else (exponent? cs).map fun e =>
    .ofScientific negative (value (whole ++ fraction)) (e - fraction.length)

/-- A double, by its digits or by name. -/
def real? (cs : List Char) : Option Binary64 :=
  let (negative, cs) := splitSign cs
  if lower cs = "inf".toList ∨ lower cs = "infinity".toList then some (.infinite negative)
  else if lower cs = "nan".toList then some .nan
  else magnitude? negative cs

/-- The nearest whole number, a half away from zero, cut to a range; `nan` counts as zero. -/
def nearest (low high : Int) : Binary64 → Int
  | .nan => 0
  | .infinite negative => if negative then low else high
  | .finite negative m e =>
    let n : Nat := (2 * Binary64.magnitude m e + 2 ^ 1074) / 2 ^ 1075
    max low (min high (if negative then -(n : Int) else n))

end OrderFlow.Number
