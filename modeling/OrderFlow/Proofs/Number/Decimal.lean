import OrderFlow.Number.Decimal
import OrderFlow.Proofs.Number.Rounding

/-!
Amounts as the numbers that they stand for. Multiples and sums of amounts are exact wherever the
result can be written as an amount. Where it cannot, the result has as many places as there is room
for, and with these places it is the nearest one, a half going to the even digit
(`rounds_times`, `rounds_add`). A multiple or sum that can be written is never refused
(`times_of_isAmount`, `add_of_isAmount`), nor is a longer sum all of whose partial sums can be
written (`exists_sum`).
-/
namespace OrderFlow.Decimal
open OrderFlow.Number

/-- The number that an amount stands for. -/
def value (d : Decimal) : ℚ := d.unscaled / (10 ^ d.scale : Nat)

/-- A number that can be written as an amount. -/
def IsAmount (q : ℚ) : Prop := ∃ d : Decimal, d.value = q

private theorem tens_pos (k : Nat) : (0 : ℚ) < (10 ^ k : Nat) := by
  exact_mod_cast Nat.pow_pos (by decide)

private theorem tens_split {k n : Nat} (le : k ≤ n) :
    ((10 ^ n : Nat) : ℚ) = (10 ^ (n - k) : Nat) * (10 ^ k : Nat) := by
  rw [← Nat.cast_mul, ← Nat.pow_add, Nat.sub_add_cancel le]

theorem value_mul_tens (d : Decimal) : d.value * (10 ^ d.scale : Nat) = d.unscaled :=
  div_mul_cancel₀ _ (tens_pos _).ne'

/-- The digits of an amount at more places than it has. -/
theorem value_mul_atScale {d : Decimal} {places : Nat} (enough : d.scale ≤ places) :
    d.value * (10 ^ places : Nat) = d.atScale places := by
  rw [tens_split enough, mul_left_comm, value_mul_tens, atScale]
  push_cast
  ring

/-- More places do not change the value of an amount. -/
theorem value_eq_atScale {d : Decimal} {places : Nat} (enough : d.scale ≤ places) :
    d.value = d.atScale places / (10 ^ places : Nat) :=
  eq_div_of_mul_eq (tens_pos _).ne' (value_mul_atScale enough)

theorem sameValue_iff {a b : Decimal} : a.sameValue b = true ↔ a.value = b.value := by
  rw [value_eq_atScale (le_max_left a.scale b.scale),
    value_eq_atScale (le_max_right a.scale b.scale), div_left_inj' (tens_pos _).ne', Int.cast_inj, sameValue, decide_eq_true_iff]

theorem isPositive_iff {d : Decimal} : d.isPositive = true ↔ 0 < d.value := by
  rw [isPositive, decide_eq_true_iff, value, div_pos_iff_of_pos_right (tens_pos _), Int.cast_pos]

theorem value_eq_zero_iff {d : Decimal} : d.value = 0 ↔ d.unscaled = 0 := by
  rw [value, div_eq_zero_iff, or_iff_left (tens_pos _).ne', Int.cast_eq_zero]

@[simp] theorem value_zero : zero.value = 0 := value_eq_zero_iff.mpr rfl

/-- Of the numbers with as many places, the amount is nearest to `q`. -/
def Approximates (d : Decimal) (q : ℚ) : Prop := IsNearest (q * (10 ^ d.scale : Nat)) d.unscaled

theorem Approximates.of_eq {d : Decimal} {q : ℚ} (same : d.value = q) : d.Approximates q := by
  rw [Approximates, ← same, value_mul_tens]
  exact .self _

/-- An amount that does not have fewer places than `a` can only be nearest to `a` by being equal to
it. -/
theorem Approximates.eq_value {d a : Decimal} (nearest : d.Approximates a.value)
    (places : a.scale ≤ d.scale) : d.value = a.value := by
  rw [Approximates, value_mul_atScale places] at nearest
  rw [value_eq_atScale places, value, nearest.eq]

/-- The amount `d` stands for the number `q`, which has at most `places` places, as well as an
amount can. -/
structure Rounds (d : Decimal) (q : ℚ) (places : Nat) : Prop where
  /-- No place is added. -/
  within : d.scale ≤ places
  /-- With the places that it has, it is nearest to the number, a half going to the even digit. -/
  nearest : d.Approximates q
  /-- If it is not the number, then there is no room for a further place. -/
  most : d.value ≠ q → ∀ a : Decimal, a.scale ≤ places → a.Approximates q → a.scale ≤ d.scale
  /-- If the number can be written, then the amount is that number. -/
  exact : IsAmount q → d.value = q

theorem Rounds.of_eq {d : Decimal} {q : ℚ} {places : Nat} (same : d.value = q)
    (within : d.scale ≤ places) : d.Rounds q places :=
  ⟨within, .of_eq same, fun differs => absurd same differs, fun _ => same⟩

/-- What is left of `n` when places are dropped, with its sign. -/
def dropped (n : Int) (drop : Nat) : Int :=
  if n < 0 then -(dropPlaces n.natAbs drop : Int) else dropPlaces n.natAbs drop

@[simp] theorem natAbs_dropped (n : Int) (drop : Nat) :
    (dropped n drop).natAbs = dropPlaces n.natAbs drop := by
  unfold dropped
  split <;> simp

theorem isNearest_dropped (n : Int) (drop : Nat) :
    IsNearest (n / (10 ^ drop : Nat)) (dropped n drop) := by
  have nearest := isNearest_roundHalfEven n.natAbs (Nat.pow_pos (by decide) : 0 < 10 ^ drop)
  unfold dropped dropPlaces
  split
  · next negative =>
    have sign : (n : ℚ) = -((n.natAbs : Int) : ℚ) := by
      rw [← Int.cast_neg, Int.cast_inj]
      omega
    rw [sign, Int.cast_natCast, neg_div]
    exact nearest.neg
  · next positive =>
    have sign : (n : ℚ) = ((n.natAbs : Int) : ℚ) := by
      rw [Int.cast_inj]
      omega
    rwa [sign, Int.cast_natCast]

/-- What `fit` has made of a number: it has dropped places, and no fewer would have done. -/
structure Fits (n : Int) (places : Nat) (d : Decimal) : Prop where
  within : d.scale ≤ places
  unscaled : d.unscaled = dropped n (places - d.scale)
  most : ∀ k, d.scale < k → k ≤ places → k ≤ 28 → 2 ^ 96 ≤ dropPlaces n.natAbs (places - k)

theorem of?_eq_some_iff {n : Int} {scale : Nat} {d : Decimal} :
    of? n scale = some d ↔ d.unscaled = n ∧ d.scale = scale := by
  unfold of?
  by_cases room : n.natAbs < 2 ^ 96 ∧ scale ≤ 28
  · rw [dif_pos room]
    constructor
    · rintro ⟨⟩
      exact ⟨rfl, rfl⟩
    · rintro ⟨rfl, rfl⟩
      rfl
  · rw [dif_neg room]
    refine iff_of_false (by simp) ?_
    rintro ⟨rfl, rfl⟩
    exact room ⟨d.unscaled_lt, d.scale_le⟩

theorem fit_eq_some {n : Int} {places : Nat} {d : Decimal} (fits : fit n places = some d) :
    Fits n places d := by
  obtain ⟨drop, found, made⟩ := Option.bind_eq_some_iff.mp fits
  rw [List.find?_filter, List.find?_range_eq_some] at found
  obtain ⟨-, inside, first⟩ := found
  have inside := Nat.le_of_lt_succ (List.mem_range.mp inside)
  obtain ⟨unscaled, scale⟩ := of?_eq_some_iff.mp made
  refine ⟨by omega, ?_, fun k more within room => ?_⟩
  · rw [unscaled, scale, Nat.sub_sub_self inside]
    rfl
  · have refused := first (places - k) (by omega)
    have room : places ≤ places - k + 28 := by omega
    simpa [room] using refused

/-- What can be made to fit by dropping places is not refused. -/
theorem exists_fit {n : Int} {places k : Nat} (within : k ≤ places) (room : k ≤ 28)
    (fits : dropPlaces n.natAbs (places - k) < 2 ^ 96) : ∃ d, fit n places = some d := by
  cases found : ((List.range (places + 1)).filter fun drop => places ≤ drop + 28).find?
      fun drop => dropPlaces n.natAbs drop < 2 ^ 96 with
  | none =>
    have refused := List.find?_eq_none.mp found (places - k)
      (List.mem_filter.mpr ⟨List.mem_range.mpr (by omega), by simp; omega⟩)
    simp [fits] at refused
  | some drop =>
    have chosen := List.find?_some found
    have enough := (List.mem_filter.mp (List.mem_of_find?_eq_some found)).2
    simp only [decide_eq_true_eq] at chosen enough
    let made : Decimal :=
      ⟨dropped n drop, places - drop, by rwa [natAbs_dropped], by omega⟩
    refine ⟨made, ?_⟩
    rw [fit]
    simp only [found, Option.bind_some]
    exact of?_eq_some made.unscaled_lt made.scale_le

section Fit
variable {n : Int} {places : Nat} {d a : Decimal}

/-- The digits of an amount that is nearest to `n / 10 ^ places` are what is left of `n`. -/
theorem Approximates.unscaled_eq (nearest : a.Approximates (n / (10 ^ places : Nat)))
    (within : a.scale ≤ places) : a.unscaled = dropped n (places - a.scale) := by
  have places : (n : ℚ) / (10 ^ places : Nat) * (10 ^ a.scale : Nat) =
      n / (10 ^ (places - a.scale) : Nat) := by
    rw [tens_split within]
    have left := (tens_pos (places - a.scale)).ne'
    have right := (tens_pos a.scale).ne'
    field_simp
  rw [Approximates, places] at nearest
  exact nearest.unique (isNearest_dropped _ _)

/-- A number with at most 28 places that can be written can be written with its own places. -/
theorem exists_within (amount : IsAmount (n / (10 ^ places : Nat))) (room : places ≤ 28) :
    ∃ a : Decimal, a.value = n / (10 ^ places : Nat) ∧ a.scale ≤ places := by
  obtain ⟨a, same⟩ := amount
  rcases Nat.le_total a.scale places with within | more
  · exact ⟨a, same, within⟩
  · -- The digits of `a` are those of `n` with zeros behind them.
    have digits : a.unscaled = n * (10 ^ (a.scale - places) : Nat) := by
      have digits := value_mul_tens a
      rw [same, tens_split more, div_mul_eq_mul_div, mul_div_assoc, mul_div_assoc,
        div_self (tens_pos places).ne', mul_one] at digits
      exact_mod_cast digits.symm
    have least : n.natAbs ≤ a.unscaled.natAbs := by
      rw [digits, Int.natAbs_mul, Int.natAbs_natCast]
      exact Nat.le_mul_of_pos_right _ (Nat.pow_pos (by decide))
    exact ⟨⟨n, places, least.trans_lt a.unscaled_lt, room⟩, rfl, le_rfl⟩

theorem Fits.approximates (fits : Fits n places d) : d.Approximates (n / (10 ^ places : Nat)) := by
  have places : (n : ℚ) / (10 ^ places : Nat) * (10 ^ d.scale : Nat) =
      n / (10 ^ (places - d.scale) : Nat) := by
    rw [tens_split fits.within]
    have left := (tens_pos (places - d.scale)).ne'
    have right := (tens_pos d.scale).ne'
    field_simp
  rw [Approximates, places, fits.unscaled]
  exact isNearest_dropped _ _

/-- There is no room for a place that was dropped. -/
theorem Fits.scale_le (fits : Fits n places d) (within : a.scale ≤ places)
    (nearest : a.Approximates (n / (10 ^ places : Nat))) : a.scale ≤ d.scale := by
  by_contra more
  have full := fits.most a.scale (by omega) within a.scale_le
  rw [← natAbs_dropped, ← nearest.unscaled_eq within] at full
  exact absurd a.unscaled_lt (by omega)

theorem Fits.rounds (fits : Fits n places d) (room : places ≤ 28) :
    d.Rounds (n / (10 ^ places : Nat)) places where
  within := fits.within
  nearest := fits.approximates
  most _ _ within nearest := fits.scale_le within nearest
  exact amount := by
    obtain ⟨a, same, within⟩ := exists_within amount room
    have places := fits.scale_le within (.of_eq same)
    rw [← same]
    exact (same ▸ fits.approximates).eq_value places

theorem fit_of_isAmount (amount : IsAmount (n / (10 ^ places : Nat))) (room : places ≤ 28) :
    ∃ d, fit n places = some d := by
  obtain ⟨a, same, within⟩ := exists_within amount room
  refine exists_fit within a.scale_le ?_
  rw [← natAbs_dropped, ← (Approximates.of_eq same).unscaled_eq within]
  exact a.unscaled_lt

end Fit

section Times
variable {d t : Decimal} {n : Int}

private theorem value_mul (d : Decimal) (n : Int) :
    d.value * n = (d.unscaled * n : Int) / (10 ^ d.scale : Nat) := by
  rw [value, Int.cast_mul, div_mul_eq_mul_div]

/-- **A multiple of an amount is rounded only as far as it has to be.** -/
theorem rounds_times (product : d.times n = some t) : t.Rounds (d.value * n) d.scale := by
  unfold times at product
  split at product
  · next nothing =>
    cases product
    refine .of_eq ?_ (Nat.zero_le _)
    rcases nothing with nothing | nothing
    · rw [value_zero, value_eq_zero_iff.mpr nothing, zero_mul]
    · rw [value_zero, nothing, Int.cast_zero, mul_zero]
  · rw [value_mul]
    exact (fit_eq_some product).rounds d.scale_le

theorem times_of_isAmount (amount : IsAmount (d.value * n)) :
    ∃ t, d.times n = some t ∧ t.value = d.value * n := by
  have defined : ∃ t, d.times n = some t := by
    unfold times
    split
    · exact ⟨_, rfl⟩
    · exact fit_of_isAmount (value_mul d n ▸ amount) d.scale_le
  obtain ⟨t, product⟩ := defined
  exact ⟨t, product, (rounds_times product).exact amount⟩

end Times

section Add
variable {a b t : Decimal}

private theorem value_add (a b : Decimal) :
    a.value + b.value = (a.atScale (max a.scale b.scale) + b.atScale (max a.scale b.scale) : Int) /
      (10 ^ max a.scale b.scale : Nat) := by
  rw [Int.cast_add, add_div, ← value_eq_atScale (le_max_left a.scale b.scale),
    ← value_eq_atScale (le_max_right a.scale b.scale)]

/-- **A sum of two amounts is rounded only as far as it has to be.** -/
theorem rounds_add (sum : a.add b = some t) :
    t.Rounds (a.value + b.value) (max a.scale b.scale) := by
  unfold add at sum
  split at sum
  · next nothing =>
    cases sum
    exact .of_eq (by rw [value_eq_zero_iff.mpr nothing, zero_add]) (le_max_right _ _)
  · split at sum
    · next nothing =>
      cases sum
      exact .of_eq (by rw [value_eq_zero_iff.mpr nothing, add_zero]) (le_max_left _ _)
    · rw [value_add]
      exact (fit_eq_some sum).rounds (Nat.max_le.mpr ⟨a.scale_le, b.scale_le⟩)

theorem add_of_isAmount (amount : IsAmount (a.value + b.value)) :
    ∃ t, a.add b = some t ∧ t.value = a.value + b.value := by
  have defined : ∃ t, a.add b = some t := by
    unfold add
    split
    · exact ⟨_, rfl⟩
    · split
      · exact ⟨_, rfl⟩
      · exact fit_of_isAmount (value_add a b ▸ amount) (Nat.max_le.mpr ⟨a.scale_le, b.scale_le⟩)
  obtain ⟨t, sum⟩ := defined
  exact ⟨t, sum, (rounds_add sum).exact amount⟩

end Add

/-- `total` comes out when amounts are added to `start` one after the other, where each sum is
rounded only as far as it has to be. -/
inductive Adds : Decimal → List Decimal → Decimal → Prop
  | done {start : Decimal} : Adds start [] start
  | next {start a sum total : Decimal} {rest : List Decimal}
      (first : sum.Rounds (start.value + a.value) (max start.scale a.scale))
      (later : Adds sum rest total) : Adds start (a :: rest) total

/-- Every sum that comes up when numbers are added to `start` one after the other can be written as
an amount. -/
def SumsAreAmounts (start : ℚ) (numbers : List ℚ) : Prop :=
  ∀ part, part <+: numbers → IsAmount (start + part.sum)

theorem SumsAreAmounts.next {start q : ℚ} {numbers : List ℚ}
    (sums : SumsAreAmounts start (q :: numbers)) :
    IsAmount (start + q) ∧ SumsAreAmounts (start + q) numbers := by
  constructor
  · simpa using sums [q] (List.prefix_append [q] numbers)
  · intro part starts
    have sum := sums (q :: part) (List.cons_prefix_cons.mpr ⟨rfl, starts⟩)
    rwa [List.sum_cons, ← add_assoc] at sum

theorem adds_of_sum {start total : Decimal} {amounts : List Decimal}
    (sum : amounts.foldlM add start = some total) : Adds start amounts total := by
  induction amounts generalizing start with
  | nil =>
    cases sum
    exact .done
  | cons a rest ih =>
    obtain ⟨next, first, later⟩ := Option.bind_eq_some_iff.mp sum
    exact .next (rounds_add first) (ih later)

/-- As long as every sum can be written, nothing is rounded. -/
theorem Adds.exact {start total : Decimal} {amounts : List Decimal}
    (adds : Adds start amounts total) (sums : SumsAreAmounts start.value (amounts.map value)) :
    total.value = start.value + (amounts.map value).sum := by
  induction adds with
  | done => simp
  | next first _ ih =>
    obtain ⟨amount, sums⟩ := sums.next
    have exact := first.exact amount
    rw [ih (exact ▸ sums), exact, List.map_cons, List.sum_cons, add_assoc]

theorem exists_sum {start : Decimal} {amounts : List Decimal}
    (sums : SumsAreAmounts start.value (amounts.map value)) :
    ∃ total, amounts.foldlM add start = some total := by
  induction amounts generalizing start with
  | nil => exact ⟨start, rfl⟩
  | cons a rest ih =>
    obtain ⟨amount, sums⟩ := sums.next
    obtain ⟨next, first, exact⟩ := add_of_isAmount amount
    obtain ⟨total, later⟩ := ih (exact ▸ sums)
    exact ⟨total, Option.bind_eq_some_iff.mpr ⟨next, first, later⟩⟩

end OrderFlow.Decimal
