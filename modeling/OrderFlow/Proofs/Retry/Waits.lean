import OrderFlow.Proofs.Number.Arithmetic
import OrderFlow.Retry.Policy

/-!
How long a retry policy waits. A span times a factor does not get longer where the factor gets
smaller (`scaled_le`), and is the span itself where the factor is one and the span is not longer
than some weeks (`scaled_one`). The factor of a wait lies in the range of the spread, whatever is
drawn (`factor_range`), so every wait can be drawn (`canDraw_of_isSpread`), and none is longer than
the greatest one (`backoff_le`).
-/
namespace OrderFlow.RetryPolicy
open OrderFlow.Number Binary64

/-- A span short enough for its seconds to be counted; every span of `delayFor` is. -/
def IsCountable (d : Span) : Prop := d.nanos / 1000000000 ≤ 2 ^ 55

variable {p : RetryPolicy} {d : Span} {f g : Binary64} {retries : Nat}

theorem min_le_min {a b : Span} (le : a ≤ b) (c : Span) : a.min c ≤ b.min c := by
  have le : a.nanos ≤ b.nanos := le
  unfold Span.min
  split
  · next first =>
    have first : a.nanos ≤ c.nanos := first
    split
    · exact le
    · exact first
  · next first =>
    have second : ¬ b ≤ c := fun second => first (le.trans second)
    rw [if_neg second]
    exact Nat.le_refl _

theorem min_le_right (a b : Span) : a.min b ≤ b := by
  unfold Span.min
  split
  · assumption
  · exact Nat.le_refl _

/-! ## Spans as doubles -/

/-- The seconds of a span are the sum of two doubles, rounded: the whole seconds and the rest. -/
theorem seconds_rounds (countable : IsCountable d) : ∃ whole rest : ℚ,
    (IsRounded (d.nanos / 1000000000 : Nat) whole ∧ 0 ≤ whole ∧ whole ≤ 2 ^ 55) ∧
      (IsRounded ((d.nanos % 1000000000 : Nat) / 1000000000) rest ∧ 0 ≤ rest ∧ rest ≤ 2 ^ 0) ∧
      (seconds d).IsProper ∧ IsRounded (whole + rest) (seconds d).value := by
  have countable : ((d.nanos / 1000000000 : Nat) : ℚ) ≤ 2 ^ 55 := by exact_mod_cast countable
  have below : d.nanos % 1000000000 < 1000000000 := Nat.mod_lt _ (by norm_num)
  unfold seconds
  generalize d.nanos / 1000000000 = s at countable ⊢
  generalize d.nanos % 1000000000 = n at below ⊢
  have share : (n : ℚ) / 1000000000 ≤ 2 ^ 0 := by
    rw [pow_zero, div_le_one (by norm_num)]
    exact_mod_cast below.le
  obtain ⟨properS, roundedS⟩ := ofNat_rounds (lt_top countable (by norm_num))
  obtain ⟨properN, exactN⟩ := ofNat_exact (n := n) (by omega)
  obtain ⟨properD, exactD⟩ := ofNat_exact (n := 1000000000) (by norm_num)
  rw [Nat.cast_ofNat] at exactD
  have quotient := div_rounds properN properD (by rw [exactN]; exact Nat.cast_nonneg n)
    (by rw [exactD]; norm_num) (by rw [exactN, exactD]; exact lt_top share (by norm_num))
  rw [exactN, exactD] at quotient
  obtain ⟨properQ, roundedQ⟩ := quotient
  have lowerS := roundedS.nonneg (Nat.cast_nonneg s)
  have lowerQ := roundedQ.nonneg (div_nonneg (Nat.cast_nonneg n) (by norm_num))
  have upperS := roundedS.le_two_pow countable
  have upperQ := roundedQ.le_two_pow share
  have sum := add_rounds properS.isFinite properQ.isFinite (add_nonneg lowerS lowerQ)
    (lt_top (k := 56) (by linarith) (by norm_num))
  exact ⟨_, _, ⟨roundedS, lowerS, upperS⟩, ⟨roundedQ, lowerQ, upperQ⟩, sum.1, sum.2⟩

theorem seconds_range (countable : IsCountable d) :
    (seconds d).IsProper ∧ 0 ≤ (seconds d).value ∧ (seconds d).value ≤ 2 ^ 56 := by
  obtain ⟨whole, rest, ⟨-, lowerW, upperW⟩, ⟨-, lowerR, upperR⟩, proper, rounded⟩ :=
    seconds_rounds countable
  exact ⟨proper, rounded.nonneg (add_nonneg lowerW lowerR), rounded.le_two_pow (by linarith)⟩

/-- The seconds of a span times a factor: the product of doubles, rounded. -/
theorem product_rounds (countable : IsCountable d) (proper : f.IsProper) (nonneg : 0 ≤ f.value)
    (le : f.value ≤ 2) : ((seconds d).mul f).IsProper ∧ 0 ≤ ((seconds d).mul f).value ∧
      IsRounded ((seconds d).value * f.value) ((seconds d).mul f).value := by
  obtain ⟨properS, lower, upper⟩ := seconds_range countable
  have bound : (seconds d).value * f.value ≤ 2 ^ 57 :=
    (mul_le_mul upper le nonneg (by norm_num)).trans (by norm_num)
  obtain ⟨properP, rounded⟩ :=
    mul_rounds properS proper lower nonneg (lt_top bound (by norm_num))
  exact ⟨properP, rounded.nonneg (mul_nonneg lower nonneg), rounded⟩

/-- A span times a factor: the product of doubles, rounded, then rounded to nanoseconds. -/
theorem scaled_rounds (countable : IsCountable d) (proper : f.IsProper) (nonneg : 0 ≤ f.value)
    (le : f.value ≤ 2) : ∃ product : ℚ, IsRounded ((seconds d).value * f.value) product ∧
      IsNearest (product * 1000000000) (scaled d f).nanos := by
  obtain ⟨properP, nonnegP, rounded⟩ := product_rounds countable proper nonneg le
  obtain ⟨num, den, ratio, positive, exactly⟩ := ratio?_of_nonneg properP nonnegP
  have nanos : (scaled d f).nanos = roundHalfEven (num * 1000000000) den := by
    simp only [scaled, ratio]
  have nearest := isNearest_roundHalfEven (num * 1000000000) positive
  refine ⟨_, rounded, ?_⟩
  rw [nanos, ← exactly, div_mul_eq_mul_div]
  exact_mod_cast nearest

/-- **A smaller factor does not make a span longer.** -/
theorem scaled_le (countable : IsCountable d) (hf : f.IsProper) (hg : g.IsProper)
    (nonneg : 0 ≤ f.value) (le : f.value ≤ g.value) (bound : g.value ≤ 2) :
    scaled d f ≤ scaled d g := by
  obtain ⟨a, roundedA, nearestA⟩ := scaled_rounds countable hf nonneg (le.trans bound)
  obtain ⟨b, roundedB, nearestB⟩ := scaled_rounds countable hg (nonneg.trans le) bound
  have lower := (seconds_range countable).2.1
  have products : a ≤ b := roundedA.le roundedB (mul_le_mul_of_nonneg_left le lower)
  have nanos := nearestA.le nearestB (mul_le_mul_of_nonneg_right products (by norm_num))
  exact Int.ofNat_le.mp nanos

theorem scaled_congr (countable : IsCountable d) (hf : f.IsProper) (hg : g.IsProper)
    (nonneg : 0 ≤ f.value) (same : f.value = g.value) (bound : g.value ≤ 2) :
    scaled d f = scaled d g := by
  have le := scaled_le countable hf hg nonneg same.le bound
  have ge := scaled_le countable hg hf (same ▸ nonneg) same.ge (same ▸ bound)
  exact congrArg Span.mk (Nat.le_antisymm le ge)

/-- What is no number makes a span nothing. -/
theorem scaled_nan (d : Span) : scaled d .nan = .zero := by
  unfold scaled
  cases seconds d <;> rfl

/-- **The factor one leaves a span of some weeks as it is.** -/
theorem scaled_one (short : d.nanos < 2 ^ 22 * 1000000000) : scaled d (ofNat 1) = d := by
  have weeks : d.nanos / 1000000000 < 2 ^ 22 := Nat.div_lt_of_lt_mul (by omega)
  have countable : IsCountable d := by
    unfold IsCountable
    omega
  have one := (ofNat_exact (n := 1) (by norm_num)).1
  obtain ⟨whole, rest, ⟨roundedW, -, -⟩, ⟨roundedR, lowerR, upperR⟩, proper, rounded⟩ :=
    seconds_rounds countable
  obtain ⟨product, roundedP, nearest⟩ := scaled_rounds countable one
    (by rw [value_one]; norm_num) (by rw [value_one]; norm_num)
  have parts : (d.nanos : ℚ) = (d.nanos / 1000000000 : Nat) * 1000000000 +
      (d.nanos % 1000000000 : Nat) := by
    exact_mod_cast (Nat.div_add_mod' d.nanos 1000000000).symm
  have below : d.nanos % 1000000000 < 1000000000 := Nat.mod_lt _ (by norm_num)
  have share : ((d.nanos % 1000000000 : Nat) : ℚ) / 1000000000 < 2 ^ (0 : ℤ) := by
    rw [zpow_zero, div_lt_one (by norm_num)]
    exact_mod_cast below
  generalize d.nanos % 1000000000 = n at *
  generalize d.nanos / 1000000000 = s at *
  -- The whole seconds are exact, the product is the sum; the rest and the sum are rounded.
  have exactW : whole = s := roundedW.eq (isDouble_natCast (by omega))
  have weeks : (s : ℚ) ≤ 2 ^ 22 := by exact_mod_cast weeks.le
  rw [exactW] at rounded
  rw [value_one, mul_one] at roundedP
  have exactP := roundedP.eq (rounded.isDouble (add_nonneg (Nat.cast_nonneg s) lowerR))
  rw [← exactP] at rounded
  have offR := abs_le.mp (roundedR.error_le (by norm_num) share)
  have offS := abs_le.mp (rounded.error_le (n := 23) (by norm_num) (by norm_num; linarith))
  have off : |product * 1000000000 - ((d.nanos : ℤ) : ℚ)| < 1 / 2 := by
    norm_num at offR offS
    rw [abs_lt, Int.cast_natCast, parts]
    constructor <;> linarith
  have nanos := nearest.unique ⟨off.le, fun tie => absurd tie off.ne⟩
  cases d
  exact congrArg Span.mk (Int.ofNat.inj nanos)

/-! ## The waits of a policy -/

/-- A spread is none at all or lies between nothing and the whole. -/
def IsSpread (j : Binary64) : Prop := j = .nan ∨ j.isFinite = true ∧ 0 ≤ j.value ∧ j.value ≤ 1

theorem withJitter_isSpread (p : RetryPolicy) (jitter : Binary64) :
    IsSpread (p.withJitter jitter).jitter := by
  show IsSpread (jitter.clamp (ofNat 0) (ofNat 1))
  by_cases number : jitter = .nan
  · rw [number, clamp_nan]
    exact .inl rfl
  · have zero := (ofNat_exact (n := 0) (by norm_num)).1.isFinite
    have one := (ofNat_exact (n := 1) (by norm_num)).1.isFinite
    obtain ⟨shape, lower, upper⟩ :=
      clamp_cases number zero one (by rw [value_zero, value_one]; norm_num)
    rw [value_zero] at lower
    rw [value_one] at upper
    refine .inr ⟨?_, lower, upper⟩
    rcases shape with same | same | ⟨same, finite⟩ <;> rw [same] <;> assumption

theorem delayFor_isCountable (p : RetryPolicy) (retries : Nat) :
    IsCountable (p.delayFor retries) := by
  have bound (x : Binary64) : x.toNatUpTo (2 ^ 64 - 1) ≤ 2 ^ 64 - 1 := by
    unfold toNatUpTo
    split <;> first | exact Nat.zero_le _ | exact le_refl _ | exact Nat.min_le_left _ _
  have millis := bound (((ofNat p.initialDelay.millis).mul
    (p.multiplier.pow (Nat.min retries (2 ^ 31 - 1)))).min (ofNat p.maxDelay.millis))
  unfold IsCountable delayFor Span.ofMillis
  dsimp only
  omega

/-- **No wait is longer than the greatest one**, as long as that one has 53 binary digits. -/
theorem delayFor_le (small : p.maxDelay.millis ≤ 2 ^ 53) (retries : Nat) :
    p.delayFor retries ≤ p.maxDelay := by
  have millis := toNatUpTo_min_le small ((ofNat p.initialDelay.millis).mul
    (p.multiplier.pow (Nat.min retries (2 ^ 31 - 1)))) (2 ^ 64 - 1)
  show _ * 1000000 ≤ p.maxDelay.nanos
  exact (Nat.mul_le_mul_right _ millis).trans (Nat.div_mul_le_self _ _)

/-- Where the waits are not spread, each is itself when it is taken once. -/
def IsExact (p : RetryPolicy) : Prop :=
  ∀ n < p.maxRetries, p.jitter.le (ofNat 0) = true →
    scaled (p.delayFor n) (ofNat 1) = p.delayFor n

/-- Where the waits are not spread, none is longer than the greatest one. -/
def IsCapped (p : RetryPolicy) : Prop :=
  ∀ n < p.maxRetries, p.jitter.le (ofNat 0) = true → p.delayFor n ≤ p.maxDelay

instance (p : RetryPolicy) : Decidable p.IsExact :=
  inferInstanceAs (Decidable (∀ n < p.maxRetries, p.jitter.le (ofNat 0) = true →
    scaled (p.delayFor n) (ofNat 1) = p.delayFor n))

instance (p : RetryPolicy) : Decidable p.IsCapped :=
  inferInstanceAs (Decidable (∀ n < p.maxRetries, p.jitter.le (ofNat 0) = true →
    p.delayFor n ≤ p.maxDelay))

theorem isCapped_of_le (small : p.maxDelay.millis ≤ 2 ^ 53) : p.IsCapped :=
  fun n _ _ => delayFor_le small n

theorem isExact_of_lt (short : p.maxDelay.nanos < 2 ^ 22 * 1000000000) : p.IsExact := by
  intro n _ _
  have small : p.maxDelay.millis ≤ 2 ^ 53 := by
    unfold Span.millis
    omega
  exact scaled_one (Nat.lt_of_le_of_lt (delayFor_le small n) short)

/-- The ends of the range of a spread. -/
theorem range_ends (finite_ : p.jitter.isFinite = true) (nonneg : 0 ≤ p.jitter.value)
    (le : p.jitter.value ≤ 1) :
    (((ofNat 1).add p.jitter.neg).IsProper ∧ 0 ≤ ((ofNat 1).add p.jitter.neg).value) ∧
      (((ofNat 1).add p.jitter).IsProper ∧ ((ofNat 1).add p.jitter).value ≤ 2) ∧
      ((ofNat 1).add p.jitter.neg).value ≤ ((ofNat 1).add p.jitter).value := by
  have one := (ofNat_exact (n := 1) (by norm_num)).1.isFinite
  have finiteN := (isFinite_neg p.jitter).trans finite_
  have valueN := value_neg p.jitter
  obtain ⟨properH, roundedH⟩ := add_rounds one finite_ (by rw [value_one]; linarith)
    (lt_top (k := 1) (by rw [value_one]; linarith) (by norm_num))
  obtain ⟨properL, roundedL⟩ := add_rounds one finiteN (by rw [value_one, valueN]; linarith)
    (lt_top (k := 1) (by rw [value_one, valueN]; linarith) (by norm_num))
  rw [value_one, valueN] at roundedL
  rw [value_one] at roundedH
  have upperH := roundedH.le_two_pow (k := 1) (by linarith)
  exact ⟨⟨properL, roundedL.nonneg (by linarith)⟩, ⟨properH, upperH.trans (by norm_num)⟩,
    roundedL.le roundedH (by linarith)⟩

/-- **The factor of a wait lies in the range of the spread**, whatever is drawn. -/
theorem factor_range (finite_ : p.jitter.isFinite = true) (nonneg : 0 ≤ p.jitter.value)
    (le : p.jitter.value ≤ 1) (draw : Binary64) :
    ((ofNat 1).add p.jitter).IsProper ∧ ((ofNat 1).add p.jitter).value ≤ 2 ∧
      (p.factor draw = .nan ∨ (p.factor draw).IsProper ∧ 0 ≤ (p.factor draw).value ∧
        (p.factor draw).value ≤ ((ofNat 1).add p.jitter).value) := by
  obtain ⟨⟨properL, lowerL⟩, ⟨properH, upperH⟩, order⟩ := range_ends finite_ nonneg le
  refine ⟨properH, upperH, ?_⟩
  unfold factor
  dsimp only
  generalize (ofNat 1).add p.jitter.neg = low at *
  generalize (ofNat 1).add p.jitter = high at *
  by_cases number : low.add ((high.add low.neg).mul draw) = .nan
  · rw [number, clamp_nan]
    exact .inl rfl
  · right
    obtain ⟨shape, lower, upper⟩ := clamp_cases number properL.isFinite properH.isFinite order
    refine ⟨?_, lowerL.trans lower, upper⟩
    rcases shape with same | same | ⟨same, finite_⟩
    · rwa [same]
    · rwa [same]
    · rw [same]
      exact add_proper finite_

/-- What is drawn is a number, and so is the factor. -/
theorem factor_ne_nan (finite_ : p.jitter.isFinite = true) (nonneg : 0 ≤ p.jitter.value)
    (le : p.jitter.value ≤ 1) {draw : Binary64} (drawn : draw.isFinite = true) :
    p.factor draw ≠ .nan := by
  obtain ⟨⟨properL, lowerL⟩, ⟨properH, upperH⟩, order⟩ := range_ends finite_ nonneg le
  unfold factor
  dsimp only
  generalize (ofNat 1).add p.jitter.neg = low at *
  generalize (ofNat 1).add p.jitter = high at *
  have finiteN := (isFinite_neg low).trans properL.isFinite
  have valueN := value_neg low
  have width := (add_rounds properH.isFinite finiteN (by rw [valueN]; linarith)
    (lt_top (k := 1) (by rw [valueN]; linarith) (by norm_num))).1
  have number := add_ne_nan properL.isFinite (mul_ne_nan width.isFinite drawn)
  obtain ⟨shape, -, -⟩ := clamp_cases number properL.isFinite properH.isFinite order
  intro nan
  rcases shape with same | same | ⟨same, -⟩ <;> rw [same] at nan
  · rw [nan] at properL
    exact properL
  · rw [nan] at properH
    exact properH
  · exact number nan

/-- Where the spread is no number, no factor is. -/
theorem factor_nan (nan : p.jitter = .nan) (draw : Binary64) : p.factor draw = .nan := by
  have add_nan (x : Binary64) : x.add .nan = .nan := by
    cases x <;> rfl
  have low : (ofNat 1).add p.jitter.neg = .nan := by
    rw [nan]
    exact add_nan _
  unfold factor
  rw [low]
  exact clamp_nan _ _

/-- **Every wait can be drawn** where the spread is a number. -/
theorem canDraw_of_isSpread (spread : IsSpread p.jitter) (number : p.jitter ≠ .nan)
    {draw : Binary64} (drawn : draw.isFinite = true) (retries : Nat) :
    p.canDraw retries draw = true := by
  obtain ⟨finite_, nonneg, le⟩ := spread.resolve_left number
  obtain ⟨-, upper, range⟩ := factor_range finite_ nonneg le draw
  obtain ⟨proper, lower, within⟩ := range.resolve_left (factor_ne_nan finite_ nonneg le drawn)
  obtain ⟨properP, nonnegP, -⟩ :=
    product_rounds (delayFor_isCountable p retries) proper lower (within.trans upper)
  obtain ⟨num, den, ratio, -⟩ := ratio?_of_nonneg properP nonnegP
  simp [canDraw, ratio]

/-- Every wait before a try that the policy allows can be drawn. -/
def IsDrawable (p : RetryPolicy) : Prop :=
  ∀ n < p.maxRetries, ∀ draw : Draw, p.canDraw n draw.number = true

/-- What is drawn is finite: neither the infinities nor `nan` are between zero and one. -/
theorem isFinite_of_draw (draw : Draw) : draw.number.isFinite = true := by
  obtain ⟨number, within⟩ := draw
  rw [Bool.and_eq_true] at within
  cases number with
  | finite => rfl
  | nan => cases within.2
  | infinite negative =>
    cases negative with
    | false => exact absurd within.2 (by decide)
    | true => exact absurd within.1 (by decide)

theorem isDrawable_of_unspread (unspread : p.jitter.le (ofNat 0) = true) : p.IsDrawable :=
  fun n _ draw => by simp [canDraw, unspread]

theorem isDrawable_of_isSpread (spread : IsSpread p.jitter) (number : p.jitter ≠ .nan) :
    p.IsDrawable :=
  fun n _ draw => canDraw_of_isSpread spread number (isFinite_of_draw draw) n

/-- Where the spread is no number, only a wait of no length can be drawn. -/
theorem canDraw_nan (nan : p.jitter = .nan) (retries : Nat) (draw : Binary64) :
    p.canDraw retries draw = decide (p.delayFor retries = .zero) := by
  have product (x : Binary64) : (x.mul .nan).ratio? = none := by
    cases x <;> rfl
  have le : p.jitter.le (ofNat 0) = false := by
    rw [nan]
    rfl
  simp [canDraw, le, factor_nan nan, product]

/-- **No wait is longer than the greatest one**, as long as that one has 53 binary digits or the
waits are spread. -/
theorem backoff_le (small : p.jitter.le (ofNat 0) = true → p.maxDelay.millis ≤ 2 ^ 53)
    (retries : Nat) (draw : Binary64) : p.backoff retries draw ≤ p.maxDelay := by
  unfold backoff
  dsimp only
  split
  · next short =>
    by_cases none : p.jitter.le (ofNat 0) = true
    · exact delayFor_le (small none) retries
    · rw [short.resolve_left none]
      exact Nat.zero_le _
  · exact min_le_right _ _

end OrderFlow.RetryPolicy
