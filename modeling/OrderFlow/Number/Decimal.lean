import OrderFlow.Number.Rounding
import OrderFlow.Text.Numerals

/-!
Money amounts: a whole number of at most 96 bits with up to 28 decimal places. The number of places
is part of the amount and shows in its text. Sums and multiples are exact where the result fits
(`fit_of_lt`); otherwise as few places as needed are dropped, the last one kept being rounded to
nearest with a half going to the even digit, and a result that has too many digits before the point
is refused.
-/
namespace OrderFlow

/-- A decimal amount: `unscaled / 10 ^ scale`. -/
structure Decimal where
  unscaled : Int
  scale : Nat
  unscaled_lt : unscaled.natAbs < 2 ^ 96
  scale_le : scale ≤ 28
  deriving DecidableEq, Repr

namespace Decimal
open OrderFlow.Number OrderFlow.Text

/-- The amount with these digits and places, if it is in range. -/
def of? (unscaled : Int) (scale : Nat) : Option Decimal :=
  if h : unscaled.natAbs < 2 ^ 96 ∧ scale ≤ 28 then some ⟨unscaled, scale, h.1, h.2⟩ else none

/-- A small whole amount. -/
def ofNat (n : Nat) (h : n < 2 ^ 96 := by decide) : Decimal :=
  ⟨n, 0, by simpa using h, by decide⟩

/-- Nothing, without places. -/
def zero : Decimal := ofNat 0

/-- The largest amount. -/
def greatest : Decimal := ofNat (2 ^ 96 - 1)

instance : Inhabited Decimal := ⟨zero⟩

/-- The magnitude `n` with `drop` of its decimal places rounded away. -/
def dropPlaces (n drop : Nat) : Nat := roundHalfEven n (10 ^ drop)

/-- The amount `n / 10 ^ scale`, with no more places dropped than its digits need to fit. -/
def fit (n : Int) (scale : Nat) : Option Decimal :=
  let drops := (List.range (scale + 1)).filter fun drop => scale ≤ drop + 28
  (drops.find? fun drop => dropPlaces n.natAbs drop < 2 ^ 96).bind fun drop =>
    let magnitude : Int := dropPlaces n.natAbs drop
    of? (if n < 0 then -magnitude else magnitude) (scale - drop)

/-- The unscaled value of an amount as if it had `places` decimal places. -/
def atScale (d : Decimal) (places : Nat) : Int := d.unscaled * 10 ^ (places - d.scale)

/-- The sum of two amounts, `none` if it is too large. An amount without value leaves the other one
as it is. -/
def add (a b : Decimal) : Option Decimal :=
  if a.unscaled = 0 then
    some b
  else if b.unscaled = 0 then
    some a
  else
    let places := max a.scale b.scale
    fit (a.atScale places + b.atScale places) places

/-- A whole multiple of an amount, `none` if it is too large. Without value it has no places. -/
def times (d : Decimal) (n : Int) : Option Decimal :=
  if d.unscaled = 0 ∨ n = 0 then some zero else fit (d.unscaled * n) d.scale

/-- The sum of amounts from the left, starting from nothing; `none` as soon as it is too large. -/
def sum (amounts : List Decimal) : Option Decimal :=
  amounts.foldlM add zero

/-- Whether two amounts have the same value; the number of places does not count. -/
def sameValue (a b : Decimal) : Bool :=
  a.atScale (max a.scale b.scale) = b.atScale (max a.scale b.scale)

/-- Whether an amount is above zero. -/
def isPositive (d : Decimal) : Bool := 0 < d.unscaled

/-- An amount whose places are cut to those that its value needs. -/
def normalize (d : Decimal) : Decimal :=
  if d.unscaled = 0 then zero
  else
    let drop := (List.range (d.scale + 1)).reverse.find? fun k => d.unscaled % 10 ^ k = 0
    ((drop.bind fun k => of? (d.unscaled / 10 ^ k) (d.scale - k))).getD d

theorem of?_eq_some {n : Int} {scale : Nat} (hn : n.natAbs < 2 ^ 96) (hs : scale ≤ 28) :
    of? n scale = some ⟨n, scale, hn, hs⟩ :=
  dif_pos ⟨hn, hs⟩

/-- What fits is kept as it is. -/
theorem fit_of_lt {n : Int} {scale : Nat} (hn : n.natAbs < 2 ^ 96) (hs : scale ≤ 28) :
    fit n scale = some ⟨n, scale, hn, hs⟩ := by
  have hrange : List.range (scale + 1) = 0 :: (List.range scale).map (· + 1) := by
    rw [List.range_succ_eq_map]
  have hfirst : dropPlaces n.natAbs 0 = n.natAbs := by simp [dropPlaces]
  have hsign : (if n < 0 then -(n.natAbs : Int) else n.natAbs) = n := by
    split <;> omega
  rw [fit, hrange, List.filter_cons_of_pos (by simpa using hs), List.find?_cons_of_pos (by
    simpa [hfirst] using hn)]
  simp only [Option.bind_some, hfirst, hsign, Nat.sub_zero]
  exact of?_eq_some hn hs

end Decimal

end OrderFlow
