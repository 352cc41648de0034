import OrderFlow.Email
import OrderFlow.Proofs.Event.Rules
import OrderFlow.Proofs.Number.Decimal
import OrderFlow.Samples

/-!
The amounts of an order's event, as numbers. An event passes its check only with prices above zero,
with lines that cost what their price and quantity come to, and with a subtotal that is the sum of
its lines. Both are exact as far as amounts can be: a product or a partial sum that needs more
digits than an amount has is rounded to the nearest amount, and the check compares with that one.
-/
namespace OrderFlow
open Decimal

/-- What a line comes to as a number. -/
def LineItem.product (i : LineItem) : ℚ := i.price.value * i.quantity.toInt

/-- A line with a price above zero, and with the amount that price and quantity come to as well as
an amount can. -/
structure LineItem.IsPriced (i : LineItem) : Prop where
  positive : 0 < i.price.value
  amount : ∃ total : Decimal,
    total.Rounds i.product i.price.scale ∧ i.subtotal.value = total.value
  exact : IsAmount i.product → i.subtotal.value = i.product

theorem LineItem.isPriced_of_check {i : LineItem} (checked : i.checkAmount = .ok ()) :
    i.IsPriced := by
  obtain ⟨positive, total, times, same⟩ := checkAmount_eq_ok_iff.mp checked
  have rounds : total.Rounds i.product i.price.scale := rounds_times times
  have same := sameValue_iff.mp same
  exact ⟨isPositive_iff.mp positive, ⟨total, rounds, same.symm⟩,
    fun amount => same.symm.trans (rounds.exact amount)⟩

theorem LineItem.check_of_exact {i : LineItem} (positive : 0 < i.price.value)
    (exact : i.subtotal.value = i.product) : i.checkAmount = .ok () := by
  obtain ⟨total, times, value⟩ :=
    times_of_isAmount (d := i.price) (n := i.quantity.toInt) ⟨i.subtotal, exact⟩
  have same : total.value = i.subtotal.value := value.trans exact.symm
  exact checkAmount_eq_ok_iff.mpr
    ⟨isPositive_iff.mpr positive, total, times, sameValue_iff.mpr same⟩

namespace OrderCreated

/-- The amounts of the lines. -/
def amounts (e : OrderCreated) : List Decimal := e.items.map (·.subtotal)

/-- An event whose lines are priced and whose subtotal is the sum of theirs, each as well as an
amount can. -/
structure IsBalanced (e : OrderCreated) : Prop where
  lines : ∀ i ∈ e.items, i.IsPriced
  subtotal : ∃ total : Decimal, Adds zero e.amounts total ∧ e.subtotal.value = total.value
  exact : SumsAreAmounts 0 (e.amounts.map value) → e.subtotal.value = (e.amounts.map value).sum

/-- An event whose amounts are the exact ones. -/
structure IsExact (e : OrderCreated) : Prop where
  positive : ∀ i ∈ e.items, 0 < i.price.value
  lines : ∀ i ∈ e.items, i.subtotal.value = i.product
  subtotal : e.subtotal.value = (e.amounts.map value).sum

/-- **The amounts of an event that passes its check are exact wherever that is possible, and an
event with exact amounts passes wherever they can be computed.** -/
theorem check_amounts [EmailCheck] (e : OrderCreated) :
    (e.check = .ok () → e.IsBalanced) ∧
    (e.IsProper → e.kind = .orderCreated → e.IsExact →
      SumsAreAmounts 0 (e.amounts.map value) → e.check = .ok ()) := by
  refine ⟨fun checked => ?_, fun proper kind amounts sums => ?_⟩
  · obtain ⟨-, -, lines, total, sum, same⟩ := check_eq_ok_iff.mp checked
    have adds : Adds zero e.amounts total := adds_of_sum sum
    have same := (sameValue_iff.mp same).symm
    refine ⟨fun i member => LineItem.isPriced_of_check (lines i member), ⟨total, adds, same⟩,
      fun sums => ?_⟩
    rw [same, adds.exact (by rwa [value_zero]), value_zero, zero_add]
  · have sums : SumsAreAmounts zero.value (e.amounts.map value) := by rwa [value_zero]
    obtain ⟨total, sum⟩ := exists_sum sums
    have exact := (adds_of_sum sum).exact sums
    rw [value_zero, zero_add, ← amounts.subtotal] at exact
    exact check_eq_ok_iff.mpr ⟨proper, kind,
      fun i member => LineItem.check_of_exact (amounts.positive i member) (amounts.lines i member),
      total, sum, sameValue_iff.mpr exact⟩

/-- An event with one line of this price, quantity and amount. -/
def sample (price : Decimal) (quantity : Int32) (amount : Decimal) : OrderCreated :=
  ⟨.ofNat 1, .orderCreated, "1.0", ⟨⟨2025, 1, 1⟩, 10, 0, 0, 0⟩, "checkout-1", .ofNat 2,
    Samples.number, Samples.customer,
    [⟨.ofNat 3, "SKU-001", "Mechanical Keyboard", quantity, price, amount⟩], amount, .ofNat 4⟩

/-- Two keyboards and three stickers: the amounts of the lines, which have different numbers of
places, add up. -/
theorem check_two_keyboards :
    let keyboards : LineItem :=
      ⟨.ofNat 3, "SKU-001", "Mechanical Keyboard", 2, Samples.price, Samples.amount⟩
    let stickers : LineItem :=
      ⟨.ofNat 5, "SKU-002", "Sticker", 3, ⟨5, 1, by decide, by decide⟩,
        ⟨15, 1, by decide, by decide⟩⟩
    let total : Decimal := ⟨6148, 2, by decide, by decide⟩
    let e := { sample Samples.price 2 total with items := [keyboards, stickers] }
    e.check = .ok () ∧ e.IsBalanced := by
  intro keyboards stickers total e
  have two : (2 : Int32).toInt = 2 := rfl
  have three : (3 : Int32).toInt = 3 := rfl
  have amounts : e.IsExact := by
    refine ⟨?_, ?_, ?_⟩
    · simp [e, keyboards, stickers, value, Samples.price]
    · norm_num [e, keyboards, stickers, LineItem.product, value, Samples.amount, Samples.price, two,
        three]
    · norm_num [e, keyboards, stickers, total, sample, OrderCreated.amounts, value, Samples.amount]
  have sums : SumsAreAmounts 0 (e.amounts.map value) := by
    intro part starts
    have listed : part = [] ∨ part = [keyboards.subtotal.value] ∨
        part = [keyboards.subtotal.value, stickers.subtotal.value] := by
      simp only [e, OrderCreated.amounts, List.map_cons, List.map_nil, List.prefix_cons_iff,
        List.prefix_nil] at starts
      grind
    rcases listed with rfl | rfl | rfl
    · exact ⟨zero, by simp⟩
    · exact ⟨Samples.amount, by simp [keyboards]⟩
    · exact ⟨total, by norm_num [keyboards, stickers, total, value, Samples.amount]⟩
  have proper : e.IsProper := violations_eq_nil_iff.mp (by decide +kernel)
  have checked := (check_amounts e).2 proper rfl amounts sums
  exact ⟨checked, (check_amounts e).1 checked⟩

/-- Three times this price has 29 places that count, one more than an amount has. The event with the
rounded amount passes, although the line does not cost exactly what its price and quantity come to.
-/
theorem check_passes_rounded_line :
    let e := sample ⟨79228162514264337593543950333, 28, by decide, by decide⟩ 3
      ⟨23768448754279301278063185100, 27, by decide, by decide⟩
    e.check = .ok () ∧ ∃ i ∈ e.items, i.subtotal.value ≠ i.product := by
  intro e
  refine ⟨by decide +kernel, _, List.mem_singleton.mpr rfl, ?_⟩
  have three : (3 : Int32).toInt = 3 := rfl
  norm_num [value, LineItem.product, three]

end OrderCreated

end OrderFlow
