import Mathlib.Algebra.Order.Field.Power
import Mathlib.Tactic.NormNum
import OrderFlow.Number.Binary64
import OrderFlow.Proofs.Number.Rounding

/-!
What double-precision numbers stand for. Rounding to a double is rounding to a whole number at the
exponent that leaves 53 binary digits (`RoundedAt`); it does not change the order of two numbers
(`IsRounded.le`), leaves alone what can be written (`IsRounded.eq`) and is off by half a unit at
most (`IsRounded.error_le`). Sums, products and quotients are the exact ones, rounded.
-/
namespace OrderFlow
namespace Number

/-- `m * 2 ^ e` is the number `x`, which is not negative, rounded to 53 binary digits; `2 ^ -1074`
is the smallest unit. -/
structure RoundedAt (e m : ℤ) (x : ℚ) : Prop where
  least : -1074 ≤ e
  above : e = -1074 ∨ 2 ^ 52 * 2 ^ e ≤ x
  below : x < 2 ^ 53 * 2 ^ e
  nearest : IsNearest (x / 2 ^ e) m

/-- `v` is the number `x`, which is not negative, rounded to a double. -/
def IsRounded (x v : ℚ) : Prop := ∃ e m : ℤ, RoundedAt e m x ∧ v = m * 2 ^ e

/-- A number that is a double as it is. -/
def IsDouble (v : ℚ) : Prop := ∃ e k : ℤ, -1074 ≤ e ∧ 0 ≤ k ∧ k < 2 ^ 53 ∧ v = k * 2 ^ e

theorem two_zpow_pos (e : ℤ) : (0 : ℚ) < 2 ^ e := zpow_pos (by norm_num) e

theorem two_zpow_succ (e : ℤ) : (2 : ℚ) ^ (e + 1) = 2 * 2 ^ e := by
  rw [zpow_add_one₀ (by norm_num), mul_comm]

theorem two_zpow_le {e f : ℤ} (le : e ≤ f) : (2 : ℚ) ^ e ≤ 2 ^ f :=
  zpow_le_zpow_right₀ (by norm_num) le

/-- A power of two is a whole number of 53 binary digits. -/
theorem two_zpow_digits (n : ℤ) : (2 : ℚ) ^ n = ((2 ^ 52 : ℤ) : ℚ) * 2 ^ (n - 52) := by
  rw [Int.cast_pow, Int.cast_ofNat, ← zpow_natCast, ← zpow_add₀ (by norm_num)]
  congr 1
  omega

/-- A power of two as a quotient of natural powers. -/
theorem two_zpow_split (e : ℤ) : (2 : ℚ) ^ e = 2 ^ e.toNat / 2 ^ (-e).toNat := by
  rw [eq_div_iff (by positivity), ← zpow_natCast, ← zpow_natCast, ← zpow_add₀ (by norm_num)]
  congr 1
  omega

namespace RoundedAt
variable {e f m k : ℤ} {x y : ℚ}

theorem nonneg_of (nonneg : 0 ≤ x) (rounded : RoundedAt e m x) : 0 ≤ m := by
  have zero : IsNearest 0 0 := by exact_mod_cast IsNearest.self 0
  exact zero.le rounded.nearest (div_nonneg nonneg (two_zpow_pos e).le)

/-- At most 53 binary digits, or the number that comes after them. -/
theorem le_max (rounded : RoundedAt e m x) : m ≤ 2 ^ 53 := by
  refine rounded.nearest.le (IsNearest.self (2 ^ 53)) ?_
  rw [div_le_iff₀ (two_zpow_pos e)]
  exact_mod_cast rounded.below.le

/-- All 53 binary digits, unless the unit is the smallest. -/
theorem min_le (rounded : RoundedAt e m x) (normal : e ≠ -1074) : 2 ^ 52 ≤ m := by
  refine (IsNearest.self (2 ^ 52)).le rounded.nearest ?_
  rw [le_div_iff₀ (two_zpow_pos e)]
  exact_mod_cast rounded.above.resolve_left normal

theorem exponent_le (rounded : RoundedAt e m x) (rounded' : RoundedAt f k y) (le : x ≤ y) :
    e ≤ f := by
  by_contra lt
  have above := rounded.above.resolve_left (by have := rounded'.least; omega)
  have step : (2 : ℚ) ^ (f + 1) ≤ 2 ^ e := two_zpow_le (by omega)
  rw [two_zpow_succ] at step
  have below := rounded'.below
  linarith

/-- Below a power of two the unit is small. -/
theorem exponent_le_of_lt {n : ℤ} (rounded : RoundedAt e m x) (normal : -1021 ≤ n)
    (lt : x < 2 ^ n) : e ≤ n - 53 := by
  rcases rounded.above with least | above
  · omega
  · by_contra high
    have step : (2 : ℚ) ^ n ≤ 2 ^ (52 + e) := two_zpow_le (by omega)
    rw [zpow_add₀ (by norm_num)] at step
    have step : (2 : ℚ) ^ n ≤ 2 ^ 52 * 2 ^ e := by exact_mod_cast step
    linarith

/-- Nothing is rounded to nothing. -/
theorem zero : RoundedAt (-1074) 0 0 := by
  refine ⟨le_rfl, .inl rfl, mul_pos (by norm_num) (two_zpow_pos _), ?_⟩
  rw [zero_div]
  exact_mod_cast IsNearest.self 0

/-- Rounding does not change the order of two numbers. -/
theorem le (rounded : RoundedAt e m x) (rounded' : RoundedAt f k y) (le : x ≤ y) :
    (m : ℚ) * 2 ^ e ≤ k * 2 ^ f := by
  rcases (rounded.exponent_le rounded' le).eq_or_lt with rfl | lt
  · have digits : m ≤ k := rounded.nearest.le rounded'.nearest
      (div_le_div_of_nonneg_right le (two_zpow_pos e).le)
    exact mul_le_mul_of_nonneg_right (by exact_mod_cast digits) (two_zpow_pos e).le
  · have upper : (m : ℚ) ≤ 2 ^ 53 := by exact_mod_cast rounded.le_max
    have lower : (2 : ℚ) ^ 52 ≤ k := by
      exact_mod_cast rounded'.min_le (by have := rounded.least; omega)
    calc (m : ℚ) * 2 ^ e ≤ 2 ^ 53 * 2 ^ e :=
          mul_le_mul_of_nonneg_right upper (two_zpow_pos e).le
      _ = 2 ^ 52 * 2 ^ (e + 1) := by rw [two_zpow_succ]; ring
      _ ≤ 2 ^ 52 * 2 ^ f := mul_le_mul_of_nonneg_left (two_zpow_le lt) (by norm_num)
      _ ≤ k * 2 ^ f := mul_le_mul_of_nonneg_right lower (two_zpow_pos f).le

/-- A power of two is a double. -/
theorem pow {n : ℤ} (normal : -1022 ≤ n) : RoundedAt (n - 52) (2 ^ 52) (2 ^ n) := by
  have positive := two_zpow_pos (n - 52)
  have digits := two_zpow_digits n
  refine ⟨by omega, .inr (by exact_mod_cast digits.ge), ?_, ?_⟩
  · rw [digits]
    push_cast
    linarith
  · rw [digits, mul_div_cancel_right₀ _ positive.ne']
    exact .self _

end RoundedAt

namespace IsRounded
variable {x y v w : ℚ} {n : ℤ}

theorem le (rounded : IsRounded x v) (rounded' : IsRounded y w) (le : x ≤ y) : v ≤ w := by
  obtain ⟨e, m, at_e, rfl⟩ := rounded
  obtain ⟨f, k, at_f, rfl⟩ := rounded'
  exact at_e.le at_f le

theorem nonneg (rounded : IsRounded x v) (nonneg : 0 ≤ x) : 0 ≤ v := by
  obtain ⟨e, m, at_e, rfl⟩ := rounded
  exact mul_nonneg (by exact_mod_cast at_e.nonneg_of nonneg) (two_zpow_pos e).le

theorem le_pow (rounded : IsRounded x v) (normal : -1022 ≤ n) (le : x ≤ 2 ^ n) : v ≤ 2 ^ n :=
  rounded.le ⟨_, _, .pow normal, two_zpow_digits n⟩ le

theorem le_two_pow (rounded : IsRounded x v) {k : Nat} (le : x ≤ 2 ^ k) : v ≤ 2 ^ k := by
  rw [← zpow_natCast] at le ⊢
  exact rounded.le_pow (by omega) le

/-- What is a double stays as it is. -/
theorem eq (rounded : IsRounded x v) (double : IsDouble x) : v = x := by
  obtain ⟨f, m, at_f, rfl⟩ := rounded
  obtain ⟨e, k, least, nonneg, bound, rfl⟩ := double
  have lower : f ≤ e := by
    by_contra lt
    have above := at_f.above.resolve_left (by omega)
    have step : (2 : ℚ) ^ (e + 1) ≤ 2 ^ f := two_zpow_le (by omega)
    have bound : (k : ℚ) < 2 ^ 53 := by exact_mod_cast bound
    have below := mul_lt_mul_of_pos_right bound (two_zpow_pos e)
    rw [two_zpow_succ] at step
    linarith
  have whole : (k : ℚ) * 2 ^ e / 2 ^ f = ((k * 2 ^ (e - f).toNat : ℤ) : ℚ) := by
    rw [mul_div_assoc, ← zpow_sub₀ (by norm_num), ← Int.toNat_of_nonneg (by omega : 0 ≤ e - f),
      zpow_natCast, Int.toNat_natCast]
    push_cast
    rfl
  have digits := at_f.nearest
  rw [whole] at digits
  rw [digits.eq, ← whole, div_mul_cancel₀ _ (two_zpow_pos f).ne']

/-- What comes out is a double. -/
theorem isDouble (rounded : IsRounded x v) (nonneg : 0 ≤ x) : IsDouble v := by
  obtain ⟨e, m, at_e, rfl⟩ := rounded
  rcases at_e.le_max.eq_or_lt with full | below
  · refine ⟨e + 1, 2 ^ 52, by have := at_e.least; omega, by norm_num, by norm_num, ?_⟩
    rw [full, two_zpow_succ]
    push_cast
    ring
  · exact ⟨e, m, at_e.least, at_e.nonneg_of nonneg, below, rfl⟩

/-- A number below `2 ^ n` is rounded by `2 ^ (n - 54)` at most. -/
theorem error_le (rounded : IsRounded x v) (normal : -1021 ≤ n) (lt : x < 2 ^ n) :
    |v - x| ≤ 2 ^ (n - 54) := by
  obtain ⟨e, m, at_e, rfl⟩ := rounded
  have positive := two_zpow_pos e
  have exponent := at_e.exponent_le_of_lt normal lt
  have distance : |(m : ℚ) * 2 ^ e - x| = |x / 2 ^ e - m| * 2 ^ e := by
    rw [abs_sub_comm, ← abs_of_pos positive, ← abs_mul, abs_of_pos positive, sub_mul,
      div_mul_cancel₀ _ positive.ne']
  calc |(m : ℚ) * 2 ^ e - x| ≤ 1 / 2 * 2 ^ e := by
        rw [distance]
        exact mul_le_mul_of_nonneg_right at_e.nearest.near positive.le
    _ ≤ 1 / 2 * 2 ^ (n - 54 + 1) := by
        refine mul_le_mul_of_nonneg_left (two_zpow_le ?_) (by norm_num)
        omega
    _ = 2 ^ (n - 54) := by
        rw [two_zpow_succ]
        ring

end IsRounded

/-- What is not above a moderate power of two is not beyond all doubles. -/
theorem lt_top {x : ℚ} {k : Nat} (le : x ≤ 2 ^ k) (moderate : k < 1023) : x < 2 ^ (1023 : ℤ) := by
  rw [← zpow_natCast] at le
  exact le.trans_lt (zpow_lt_zpow_right₀ (by norm_num) (by omega))

theorem isDouble_natCast {n : Nat} (small : n ≤ 2 ^ 53) : IsDouble n := by
  rcases small.eq_or_lt with rfl | below
  · exact ⟨1, 2 ^ 52, by norm_num, by norm_num, by norm_num, by norm_num⟩
  · exact ⟨0, n, by norm_num, by omega, by exact_mod_cast below, by simp⟩

theorem isDouble_zero : IsDouble 0 := by
  exact_mod_cast isDouble_natCast (n := 0) (by norm_num)

/-- A quotient with a power of two brought in, as `ofRatio` writes it. -/
theorem quotient_at (num den : Nat) (e : ℤ) :
    ((num * 2 ^ (-e).toNat : Nat) : ℚ) / (den * 2 ^ e.toNat : Nat) = num / den / 2 ^ e := by
  push_cast
  rw [mul_div_mul_comm, two_zpow_split e, div_eq_mul_inv ((num : ℚ) / den), inv_div]

end Number

namespace Binary64
open Number

/-- A finite number. -/
def isFinite : Binary64 → Bool
  | .finite .. => true
  | _ => false

/-- A finite number with an exponent that a double can have. -/
def IsProper : Binary64 → Prop
  | .finite _ _ e => -1074 ≤ e
  | _ => False

/-- The number that a finite double stands for. -/
def value (x : Binary64) : ℚ := x.units * 2 ^ (-1074 : ℤ)

variable {negative : Bool} {num den m n : Nat} {e : ℤ} {x y low high : Binary64}

theorem exists_finite (finite_ : x.isFinite = true) : ∃ a m e, x = .finite a m e := by
  cases x with
  | finite a m e => exact ⟨a, m, e, rfl⟩
  | infinite | nan => cases finite_

theorem IsProper.exists_finite (proper : x.IsProper) :
    ∃ a m e, x = .finite a m e ∧ -1074 ≤ e := by
  cases x with
  | finite a m e => exact ⟨a, m, e, rfl, proper⟩
  | infinite | nan => exact proper.elim

theorem IsProper.isFinite (proper : x.IsProper) : x.isFinite = true := by
  cases x <;> first | rfl | exact proper.elim

theorem value_finite (negative : Bool) (m : Nat) (proper : -1074 ≤ e) :
    (finite negative m e).value = (if negative then -1 else 1) * (m * 2 ^ e) := by
  have shift : (2 : ℚ) ^ (e + 1074).toNat * 2 ^ (-1074 : ℤ) = 2 ^ e := by
    rw [← zpow_natCast, ← zpow_add₀ (by norm_num)]
    congr 1
    omega
  have size : ((magnitude m e : ℤ) : ℚ) * 2 ^ (-1074 : ℤ) = m * 2 ^ e := by
    rw [magnitude, ← shift, ← mul_assoc, Int.cast_natCast, Nat.cast_mul, Nat.cast_pow,
      Nat.cast_ofNat]
  cases negative with
  | false => exact size.trans (one_mul _).symm
  | true =>
    rw [if_pos rfl, neg_one_mul, ← size, ← neg_mul, ← Int.cast_neg]
    rfl

/-- A number that is not negative. -/
theorem value_of_nonneg (proper : -1074 ≤ e) (nonneg : 0 ≤ (finite negative m e).value) :
    (finite negative m e).value = m * 2 ^ e ∧ (negative = true → m = 0) := by
  rw [value_finite negative m proper] at nonneg ⊢
  have positive := two_zpow_pos e
  cases negative with
  | false => simp
  | true =>
    simp only [if_true, neg_mul, one_mul] at nonneg ⊢
    have zero : (m : ℚ) * 2 ^ e = 0 := le_antisymm (by linarith) (by positivity)
    have zero : m = 0 := by
      exact_mod_cast (mul_eq_zero.mp zero).resolve_right positive.ne'
    simp [zero]

/-! ## Rounding -/

/-- The exponent leaves 53 binary digits in front. -/
theorem exponentOf_spec (hn : 0 < num) (hd : 0 < den) :
    2 ^ 52 * 2 ^ exponentOf num den ≤ (num : ℚ) / den ∧
      (num : ℚ) / den < 2 ^ 53 * 2 ^ exponentOf num den := by
  have positive : (0 : ℚ) < den := by exact_mod_cast hd
  have numLow : (2 : ℚ) ^ num.log2 ≤ num := by exact_mod_cast Nat.log2_self_le hn.ne'
  have numHigh : (num : ℚ) < 2 ^ (num.log2 + 1) := by exact_mod_cast Nat.lt_log2_self
  have denLow : (2 : ℚ) ^ den.log2 ≤ den := by exact_mod_cast Nat.log2_self_le hd.ne'
  have denHigh : (den : ℚ) < 2 ^ (den.log2 + 1) := by exact_mod_cast Nat.lt_log2_self
  unfold exponentOf
  dsimp only
  generalize guessed : (num.log2 : ℤ) - den.log2 - 52 = guess
  -- The first guess is off by one binary digit at most.
  have digits (k : Nat) : (2 : ℚ) ^ k * 2 ^ guess * 2 ^ (den.log2 + 52) = 2 ^ (num.log2 + k) := by
    rw [← zpow_natCast, ← zpow_natCast, ← zpow_natCast, ← zpow_add₀ (by norm_num),
      ← zpow_add₀ (by norm_num)]
    congr 1
    push_cast
    omega
  have scale := two_zpow_pos guess
  have lower : 2 ^ 51 * 2 ^ guess ≤ (num : ℚ) / den := by
    rw [le_div_iff₀ positive]
    have exactly := digits 51
    rw [pow_add] at exactly denHigh
    rw [pow_add] at exactly
    nlinarith
  have upper : (num : ℚ) / den < 2 ^ 53 * 2 ^ guess := by
    rw [div_lt_iff₀ positive]
    have exactly := digits 53
    rw [pow_add] at exactly numHigh
    rw [pow_add] at exactly
    nlinarith
  have divisor : 0 < den * 2 ^ guess.toNat := Nat.mul_pos hd (Nat.two_pow_pos _)
  have test : num * 2 ^ (-guess).toNat / (den * 2 ^ guess.toNat) < 2 ^ 52 ↔
      (num : ℚ) / den < 2 ^ 52 * 2 ^ guess := by
    rw [Nat.div_lt_iff_lt_mul divisor, ← div_lt_iff₀ scale, ← quotient_at,
      div_lt_iff₀ (by exact_mod_cast divisor)]
    exact_mod_cast Iff.rfl
  split
  · next below =>
    have below := test.mp below
    have step := two_zpow_succ (guess - 1)
    rw [sub_add_cancel] at step
    rw [step] at lower below
    constructor <;> linarith
  · next above => exact ⟨not_lt.mp (mt test.mpr above), upper⟩

/-- Where a quotient is not beyond all doubles, `ofRatio` rounds it. -/
theorem ofRatio_rounds (negative : Bool) (hd : 0 < den) (small : (num : ℚ) / den < 2 ^ (1023 : ℤ)) :
    ∃ m e, ofRatio negative num den = .finite negative m e ∧ -1074 ≤ e ∧
      IsRounded (num / den) (m * 2 ^ e) := by
  unfold ofRatio
  split
  · next zero =>
    rw [zero, Nat.cast_zero, zero_div]
    exact ⟨0, -1074, rfl, le_rfl, -1074, 0, .zero, by simp⟩
  · next nonzero =>
    obtain ⟨above, below⟩ := exponentOf_spec (Nat.pos_of_ne_zero nonzero) hd
    dsimp only
    generalize highest : max (exponentOf num den) (-1074) = e
    have least : -1074 ≤ e := highest ▸ le_max_right _ _
    have above : e = -1074 ∨ 2 ^ 52 * 2 ^ e ≤ (num : ℚ) / den := by
      rcases max_choice (exponentOf num den) (-1074) with same | same
      · rw [← highest, same]
        exact .inr above
      · exact .inl (highest.symm.trans same)
    have rounded : RoundedAt e
        (roundHalfEven (num * 2 ^ (-e).toNat) (den * 2 ^ e.toNat)) (num / den) := by
      refine ⟨least, above, below.trans_le ?_, ?_⟩
      · exact mul_le_mul_of_nonneg_left (two_zpow_le (highest ▸ le_max_left _ _)) (by norm_num)
      · rw [← quotient_at]
        exact isNearest_roundHalfEven _ (Nat.mul_pos hd (Nat.two_pow_pos _))
    have finite : e ≤ 970 := rounded.exponent_le_of_lt (by norm_num) small
    generalize roundHalfEven (num * 2 ^ (-e).toNat) (den * 2 ^ e.toNat) = q at rounded
    by_cases full : q = 2 ^ 53
    · rw [if_pos full]
      dsimp only
      rw [if_neg (by omega)]
      refine ⟨2 ^ 52, e + 1, rfl, by omega, e, q, rounded, ?_⟩
      rw [full, two_zpow_succ]
      push_cast
      ring
    · rw [if_neg full]
      dsimp only
      rw [if_neg (by omega)]
      exact ⟨q, e, rfl, least, e, q, rounded, by push_cast; rfl⟩

/-- What `ofRatio` gives is infinite or has an exponent that a double can have. -/
theorem ofRatio_cases (negative : Bool) (num den : Nat) :
    ofRatio negative num den = .infinite negative ∨ (ofRatio negative num den).IsProper := by
  unfold ofRatio
  dsimp only
  have least : -1074 ≤ max (exponentOf num den) (-1074) := le_max_right _ _
  split_ifs <;> first | exact .inl rfl | exact .inr (le_refl _) | skip
  all_goals
    refine .inr ?_
    simp only [IsProper]
    omega

theorem ofRatio_ne_nan (negative : Bool) (num den : Nat) : ofRatio negative num den ≠ .nan := by
  rcases ofRatio_cases negative num den with shape | proper
  · simp [shape]
  · intro nan
    rw [nan] at proper
    exact proper

/-- A quotient that is not negative is rounded. -/
theorem ofRatio_value (hd : 0 < den) (small : (num : ℚ) / den < 2 ^ (1023 : ℤ))
    (sign : negative = true → num = 0) : (ofRatio negative num den).IsProper ∧
      IsRounded (num / den) (ofRatio negative num den).value := by
  obtain ⟨m, e, shape, proper, rounded⟩ := ofRatio_rounds negative hd small
  rw [shape]
  refine ⟨proper, ?_⟩
  rw [value_finite negative m proper]
  cases negative with
  | false => simpa using rounded
  | true =>
    rw [sign rfl, Nat.cast_zero, zero_div] at rounded ⊢
    have zero := rounded.eq isDouble_zero
    rw [zero] at rounded ⊢
    rwa [mul_zero]

end Binary64

end OrderFlow
