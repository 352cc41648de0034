import OrderFlow.Proofs.Number.Binary64

/-!
Arithmetic with doubles. A sum, product or quotient that is not negative and not beyond all doubles
is the exact one, rounded (`add_rounds`, `mul_rounds`, `div_rounds`); comparing is exact (`le_iff`,
`lt_iff`), and `clamp` brings every number into its range (`clamp_cases`).
-/
namespace OrderFlow.Binary64
open Number

variable {negative : Bool} {m n : Nat} {e : ℤ} {x y low high : Binary64}

theorem isDouble_one : IsDouble 1 := by
  exact_mod_cast isDouble_natCast (n := 1) (by norm_num)

theorem ofNat_rounds (small : (n : ℚ) < 2 ^ (1023 : ℤ)) :
    (ofNat n).IsProper ∧ IsRounded n (ofNat n).value := by
  have rounded : (ofRatio false n 1).IsProper ∧
      IsRounded (n / (1 : Nat)) (ofRatio false n 1).value :=
    ofRatio_value one_pos (by simpa using small) (by simp)
  simpa [ofNat] using rounded

/-- A natural number of 53 binary digits is a double. -/
theorem ofNat_exact (small : n ≤ 2 ^ 53) : (ofNat n).IsProper ∧ (ofNat n).value = n := by
  have bound : (n : ℚ) ≤ 2 ^ 53 := by exact_mod_cast small
  obtain ⟨proper, rounded⟩ := ofNat_rounds (lt_top bound (by norm_num))
  exact ⟨proper, rounded.eq (isDouble_natCast small)⟩

theorem value_one : (ofNat 1).value = 1 := by
  exact_mod_cast (ofNat_exact (n := 1) (by norm_num)).2

theorem value_zero : (ofNat 0).value = 0 := by
  exact_mod_cast (ofNat_exact (n := 0) (by norm_num)).2

theorem isFinite_neg (x : Binary64) : x.neg.isFinite = x.isFinite := by
  cases x <;> rfl

theorem value_neg (x : Binary64) : x.neg.value = -x.value := by
  have units : x.neg.units = -x.units := by
    cases x with
    | nan | infinite => rfl
    | finite negative m e => cases negative <;> simp [neg, Binary64.units]
  rw [value, value, units, Int.cast_neg, neg_mul]

/-- A count of units, as a quotient. -/
theorem units_quotient {units : ℤ} (nonneg : 0 ≤ units) (k : Nat) :
    (units.natAbs : ℚ) / (2 ^ k : Nat) = units * 2 ^ (-k : ℤ) := by
  rw [zpow_neg, zpow_natCast, ← div_eq_mul_inv, Nat.cast_natAbs, abs_of_nonneg nonneg, Nat.cast_pow,
    Nat.cast_ofNat]

/-- A sum is the exact one, rounded. -/
theorem add_rounds (hx : x.isFinite = true) (hy : y.isFinite = true)
    (nonneg : 0 ≤ x.value + y.value) (small : x.value + y.value < 2 ^ (1023 : ℤ)) :
    (x.add y).IsProper ∧ IsRounded (x.value + y.value) (x.add y).value := by
  obtain ⟨a, m, e, rfl⟩ := exists_finite hx
  obtain ⟨b, n, f, rfl⟩ := exists_finite hy
  have unit := two_zpow_pos (-1074)
  have sum : (finite a m e).value + (finite b n f).value =
      ((finite a m e).units + (finite b n f).units : ℤ) * 2 ^ (-1074 : ℤ) := by
    rw [value, value, ← add_mul, Int.cast_add]
  rw [sum] at nonneg small ⊢
  simp only [add]
  generalize (finite a m e).units + (finite b n f).units = units at nonneg small ⊢
  have nonneg : 0 ≤ units := by
    rw [← Int.cast_nonneg_iff (R := ℚ)]
    exact nonneg_of_mul_nonneg_left nonneg unit
  have quotient := units_quotient nonneg 1074
  rw [Nat.cast_ofNat] at quotient
  rw [← quotient] at small ⊢
  refine ofRatio_value (Nat.two_pow_pos 1074) small fun sign => ?_
  split at sign
  · next zero => rw [zero, Int.natAbs_zero]
  · exact absurd (of_decide_eq_true sign) (not_lt.mpr nonneg)

/-- A sum that is finite has an exponent that a double can have. -/
theorem add_proper (finite_ : (x.add y).isFinite = true) : (x.add y).IsProper := by
  cases x with
  | nan => cases finite_
  | infinite a =>
    cases y with
    | nan | finite => cases finite_
    | infinite b =>
      simp only [add] at finite_
      split at finite_ <;> cases finite_
  | finite a m e =>
    cases y with
    | nan | infinite => cases finite_
    | finite b n f =>
      simp only [add] at finite_ ⊢
      refine (ofRatio_cases _ _ _).resolve_left fun infinite_ => ?_
      rw [infinite_] at finite_
      cases finite_

/-- A finite number and any number have a sum. -/
theorem add_ne_nan (hx : x.isFinite = true) (number : y ≠ .nan) : x.add y ≠ .nan := by
  obtain ⟨a, m, e, rfl⟩ := exists_finite hx
  cases y with
  | nan => exact absurd rfl number
  | infinite b => nofun
  | finite b n f =>
    simp only [add]
    exact ofRatio_ne_nan _ _ _

/-- Two finite numbers have a product. -/
theorem mul_ne_nan (hx : x.isFinite = true) (hy : y.isFinite = true) : x.mul y ≠ .nan := by
  obtain ⟨a, m, e, rfl⟩ := exists_finite hx
  obtain ⟨b, n, f, rfl⟩ := exists_finite hy
  exact ofRatio_ne_nan _ _ _

/-- A product is the exact one, rounded. -/
theorem mul_rounds (hx : x.IsProper) (hy : y.IsProper) (nonneg : 0 ≤ x.value)
    (nonneg' : 0 ≤ y.value) (small : x.value * y.value < 2 ^ (1023 : ℤ)) :
    (x.mul y).IsProper ∧ IsRounded (x.value * y.value) (x.mul y).value := by
  obtain ⟨a, m, e, rfl, hx⟩ := hx.exists_finite
  obtain ⟨b, n, f, rfl, hy⟩ := hy.exists_finite
  obtain ⟨sizeX, signX⟩ := value_of_nonneg hx nonneg
  obtain ⟨sizeY, signY⟩ := value_of_nonneg hy nonneg'
  have product : ((m * n * 2 ^ (e + f).toNat : Nat) : ℚ) / (2 ^ (-(e + f)).toNat : Nat) =
      (finite a m e).value * (finite b n f).value := by
    rw [sizeX, sizeY, mul_mul_mul_comm, ← zpow_add₀ (by norm_num), two_zpow_split (e + f)]
    push_cast
    rw [mul_div_assoc]
  rw [← product] at small ⊢
  refine ofRatio_value (Nat.two_pow_pos _) small fun sign => ?_
  have either : m = 0 ∨ n = 0 := by
    cases a with
    | true => exact .inl (signX rfl)
    | false =>
      cases b with
      | true => exact .inr (signY rfl)
      | false => cases sign
  rcases either with rfl | rfl <;> simp

/-- A quotient is the exact one, rounded. -/
theorem div_rounds (hx : x.IsProper) (hy : y.IsProper) (nonneg : 0 ≤ x.value)
    (positive : 0 < y.value) (small : x.value / y.value < 2 ^ (1023 : ℤ)) :
    (x.div y).IsProper ∧ IsRounded (x.value / y.value) (x.div y).value := by
  obtain ⟨a, m, e, rfl, hx⟩ := hx.exists_finite
  obtain ⟨b, n, f, rfl, hy⟩ := hy.exists_finite
  obtain ⟨sizeX, signX⟩ := value_of_nonneg hx nonneg
  obtain ⟨sizeY, signY⟩ := value_of_nonneg hy positive.le
  have nonzero : n ≠ 0 := by
    rintro rfl
    rw [sizeY] at positive
    simp at positive
  have quotient : ((m * 2 ^ (e - f).toNat : Nat) : ℚ) / (n * 2 ^ (f - e).toNat : Nat) =
      (finite a m e).value / (finite b n f).value := by
    rw [sizeX, sizeY, mul_div_mul_comm, ← zpow_sub₀ (by norm_num), two_zpow_split (e - f), neg_sub]
    push_cast
    rw [mul_div_mul_comm]
  rw [← quotient] at small ⊢
  simp only [div, if_neg nonzero]
  refine ofRatio_value (Nat.mul_pos (Nat.pos_of_ne_zero nonzero) (Nat.two_pow_pos _)) small
    fun sign => ?_
  cases a with
  | true => rw [signX rfl, Nat.zero_mul]
  | false =>
    cases b with
    | true => exact absurd (signY rfl) nonzero
    | false => cases sign

/-- The exact quotient of a number that is not negative. -/
theorem ratio?_of_nonneg (hx : x.IsProper) (nonneg : 0 ≤ x.value) :
    ∃ num den, x.ratio? = some (num, den) ∧ 0 < den ∧ (num : ℚ) / den = x.value := by
  obtain ⟨a, m, e, rfl, hx⟩ := hx.exists_finite
  obtain ⟨size, sign⟩ := value_of_nonneg hx nonneg
  refine ⟨m * 2 ^ e.toNat, 2 ^ (-e).toNat, ?_, Nat.two_pow_pos _, ?_⟩
  · exact if_neg fun both => both.2 (sign both.1)
  · rw [size, two_zpow_split e, ← mul_div_assoc]
    push_cast
    rfl

/-! ## Comparing -/

theorem le_iff (hx : x.isFinite = true) (hy : y.isFinite = true) :
    x.le y = true ↔ x.value ≤ y.value := by
  obtain ⟨a, m, e, rfl⟩ := exists_finite hx
  obtain ⟨b, n, f, rfl⟩ := exists_finite hy
  rw [value, value, mul_le_mul_iff_left₀ (two_zpow_pos _), Int.cast_le]
  exact decide_eq_true_iff

theorem lt_iff (hx : x.isFinite = true) (hy : y.isFinite = true) :
    x.lt y = true ↔ x.value < y.value := by
  obtain ⟨a, m, e, rfl⟩ := exists_finite hx
  obtain ⟨b, n, f, rfl⟩ := exists_finite hy
  rw [value, value, mul_lt_mul_iff_left₀ (two_zpow_pos _), Int.cast_lt]
  exact decide_eq_true_iff

/-- A finite number that does not reach a bound is below it. -/
theorem lt_eq_not_le (hx : x.isFinite = true) (number : y ≠ .nan) : x.lt y = !y.le x := by
  obtain ⟨a, m, e, rfl⟩ := exists_finite hx
  cases y with
  | finite b n f => exact (Bool.decide_congr Int.not_le.symm).trans (decide_not ..)
  | infinite b => cases b <;> rfl
  | nan => exact absurd rfl number

theorem le_of_value_le (hx : x.isFinite = true) (hy : y.isFinite = true)
    (more : x.value ≤ y.value) (le : low.le x = true) : low.le y = true := by
  cases low with
  | finite b n f =>
    rw [le_iff rfl hx] at le
    rw [le_iff rfl hy]
    exact le.trans more
  | infinite b =>
    obtain ⟨a, m, e, rfl⟩ := exists_finite hx
    obtain ⟨a', m', e', rfl⟩ := exists_finite hy
    cases b with
    | true => rfl
    | false => cases le
  | nan =>
    obtain ⟨a, m, e, rfl⟩ := exists_finite hx
    cases le

theorem clamp_nan (low high : Binary64) : nan.clamp low high = .nan := by
  cases low <;> cases high <;> rfl

/-- A number that is brought into a range lies in it, and is one of the ends unless it has lain
there before. -/
theorem clamp_cases (number : x ≠ .nan) (hlow : low.isFinite = true) (hhigh : high.isFinite = true)
    (le : low.value ≤ high.value) :
    (x.clamp low high = low ∨ x.clamp low high = high ∨
        x.clamp low high = x ∧ x.isFinite = true) ∧
      low.value ≤ (x.clamp low high).value ∧ (x.clamp low high).value ≤ high.value := by
  unfold clamp
  split
  · exact ⟨.inl rfl, le_rfl, le⟩
  · next above =>
    split
    · exact ⟨.inr (.inl rfl), le, le_rfl⟩
    · next below =>
      have finite : x.isFinite = true := by
        cases x with
        | finite => rfl
        | nan => exact absurd rfl number
        | infinite negative =>
          obtain ⟨_, _, _, rfl⟩ := exists_finite hlow
          obtain ⟨_, _, _, rfl⟩ := exists_finite hhigh
          cases negative
          · exact absurd rfl below
          · exact absurd rfl above
      refine ⟨.inr (.inr ⟨rfl, finite⟩), ?_, ?_⟩
      · exact not_lt.mp (mt (lt_iff finite hlow).mpr above)
      · exact not_lt.mp (mt (lt_iff hhigh finite).mpr below)

/-- Cutting a number to a whole one does not take it above what it was not above. -/
theorem toNatUpTo_le (finite : x.isFinite = true) (le : x.value ≤ n) (bound : Nat) :
    x.toNatUpTo bound ≤ n := by
  cases x with
  | nan | infinite => cases finite
  | finite negative m e =>
    cases negative with
    | true => exact Nat.zero_le n
    | false =>
      refine (Nat.min_le_right _ _).trans (Nat.div_le_of_le_mul ?_)
      have quotient := units_quotient (Int.natCast_nonneg (magnitude m e)) 1074
      rw [Nat.cast_ofNat] at quotient
      have le := quotient.le.trans le
      rw [Int.natAbs_natCast, div_le_iff₀ (Nat.cast_pos.mpr (Nat.two_pow_pos _)), mul_comm,
        ← Nat.cast_mul, Nat.cast_le] at le
      exact le

/-- The smaller of a number and a natural number of 53 binary digits, cut to a whole number, is not
above the natural number. -/
theorem toNatUpTo_min_le (small : n ≤ 2 ^ 53) (x : Binary64) (bound : Nat) :
    (x.min (ofNat n)).toNatUpTo bound ≤ n := by
  obtain ⟨proper, exactly⟩ := ofNat_exact small
  generalize ofNat n = y at proper exactly
  unfold min
  split
  · exact toNatUpTo_le proper.isFinite exactly.le bound
  · next number =>
    split
    · next lost =>
      rw [lost] at proper
      exact proper.elim
    · split
      · exact toNatUpTo_le proper.isFinite exactly.le bound
      · next above =>
        cases x with
        | nan => exact absurd rfl number
        | finite =>
          have le := not_lt.mp (mt (lt_iff proper.isFinite rfl).mpr above)
          exact toNatUpTo_le rfl (exactly ▸ le) bound
        | infinite negative =>
          cases negative with
          | true => exact Nat.zero_le n
          | false =>
            obtain ⟨_, _, _, rfl⟩ := exists_finite proper.isFinite
            exact absurd rfl above

end OrderFlow.Binary64
