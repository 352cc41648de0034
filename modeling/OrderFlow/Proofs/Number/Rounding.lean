import Mathlib.Algebra.Order.Field.Rat
import Mathlib.Algebra.Order.Ring.Abs
import Mathlib.Data.Rat.Cast.Order
import Mathlib.Tactic.FieldSimp
import Mathlib.Tactic.Linarith
import Mathlib.Tactic.Positivity
import Mathlib.Tactic.Ring
import OrderFlow.Number.Rounding

/-!
What `roundHalfEven` gives, said without a division: the nearest whole number, of two that are
equally near the even one. There is one such number only (`IsNearest.unique`), a whole number is
its own (`IsNearest.eq`), and a smaller quotient is not rounded to a larger number
(`IsNearest.le`).
-/
namespace OrderFlow.Number

/-- The whole number `m` is nearest to `x`, and even where another one is just as near. -/
structure IsNearest (x : ℚ) (m : ℤ) : Prop where
  near : |x - m| ≤ 1 / 2
  even : |x - m| = 1 / 2 → m % 2 = 0

namespace IsNearest
variable {x y : ℚ} {m k : ℤ}

theorem self (m : ℤ) : IsNearest m m := by
  constructor <;> norm_num

theorem neg (nearest : IsNearest x m) : IsNearest (-x) (-m) := by
  have distance : |-x - ((-m : ℤ) : ℚ)| = |x - m| := by
    rw [← abs_neg]
    congr 1
    push_cast
    ring
  refine ⟨distance ▸ nearest.near, fun tie => ?_⟩
  have even := nearest.even (distance ▸ tie)
  omega

/-- Rounding does not change the order of two numbers. -/
theorem le (nearest : IsNearest x m) (nearest' : IsNearest y k) (le : x ≤ y) : m ≤ k := by
  by_contra lt
  have above : (k : ℚ) + 1 ≤ m := by exact_mod_cast Int.not_le.mp lt
  have upper := (abs_le.mp nearest.near).1
  have lower := (abs_le.mp nearest'.near).2
  -- Both numbers can only lie half way, and then two neighbours would both be even.
  have even := nearest.even (by rw [abs_of_nonpos (by linarith)]; linarith)
  have even' := nearest'.even (by rw [abs_of_nonneg (by linarith)]; linarith)
  have next : (m : ℚ) = ((k + 1 : ℤ) : ℚ) := by
    push_cast
    linarith
  have next : m = k + 1 := by exact_mod_cast next
  omega

theorem unique (nearest : IsNearest x m) (nearest' : IsNearest x k) : m = k :=
  le_antisymm (nearest.le nearest' le_rfl) (nearest'.le nearest le_rfl)

/-- A whole number stays as it is. -/
theorem eq (nearest : IsNearest k m) : m = k :=
  nearest.unique (self k)

end IsNearest

/-- Half the divisor that is left over or missing goes with an even result. -/
theorem even_roundHalfEven {n d : Nat} (h : 0 < d)
    (tie : 2 * (d * roundHalfEven n d) = 2 * n + d ∨ 2 * n = 2 * (d * roundHalfEven n d) + d) :
    roundHalfEven n d % 2 = 0 := by
  have hn := Nat.div_add_mod n d
  have hr := Nat.mod_lt n h
  simp only [roundHalfEven] at tie ⊢
  split at tie
  · next up =>
    rw [if_pos up]
    rw [Nat.mul_add] at tie
    omega
  · next down =>
    rw [if_neg down]
    omega

/-- **`roundHalfEven` gives the nearest whole number, a half going to the even one.** -/
theorem isNearest_roundHalfEven (n : Nat) {d : Nat} (h : 0 < d) :
    IsNearest (n / d) (roundHalfEven n d) := by
  have upper := roundHalfEven_le (n := n) h
  have lower := le_roundHalfEven (n := n) h
  have even := even_roundHalfEven (n := n) h
  generalize roundHalfEven n d = m at *
  have positive : (0 : ℚ) < d := by exact_mod_cast h
  have upper : 2 * ((d : ℚ) * m) ≤ 2 * n + d := by exact_mod_cast upper
  have lower : 2 * (n : ℚ) ≤ 2 * (d * m) + d := by exact_mod_cast lower
  have distance : (n : ℚ) / d - ((m : ℤ) : ℚ) = (n - d * m) / d := by
    push_cast
    field_simp
  refine ⟨?_, fun tie => ?_⟩
  · rw [distance, abs_div, abs_of_pos positive, div_le_iff₀ positive, abs_le]
    constructor <;> linarith
  · rw [distance, abs_div, abs_of_pos positive, div_eq_iff positive.ne'] at tie
    have tie : 2 * (d * m) = 2 * n + d ∨ 2 * n = 2 * (d * m) + d := by
      rcases abs_choice ((n : ℚ) - d * m) with same | flipped
      · right
        exact_mod_cast (by linarith : 2 * (n : ℚ) = 2 * (d * m) + d)
      · left
        exact_mod_cast (by linarith : 2 * ((d : ℚ) * m) = 2 * n + d)
    have even := even tie
    omega

end OrderFlow.Number
