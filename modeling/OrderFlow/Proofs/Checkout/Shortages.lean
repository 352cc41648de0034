import OrderFlow.Email
import OrderFlow.Proofs.Checkout.Commitments

/-!
Drafts that want more than there is. As long as the sum of every product can be held in 32 bits, the
draft is refused for the least product that is short. A sum that cannot be held is not compared with
the stock at all: the draft is abandoned while its lines are being added up, with an overflow where
the shortage should be named. Either way the ledger stays as it is.
-/
namespace OrderFlow
open Ledger

variable {l : Ledger} {d : CheckoutDraft} {eventId : Uuid} {now : Instant}

namespace CheckoutDraft

/-- Every line of a draft wants at least one piece. -/
def IsPositive (d : CheckoutDraft) : Prop := ∀ line ∈ d.lines, 1 ≤ line.quantity.toInt

theorem IsPositive.amounts (positive : d.IsPositive) : ∀ a ∈ d.amounts, 0 < a.2 := by
  intro a member
  obtain ⟨line, listed, rfl⟩ := List.mem_map.mp member
  exact positive line listed

end CheckoutDraft

namespace Ledger

/-- Among the products that are short one is the least. -/
theorem Lacks.exists_first {product : Uuid} (lacks : l.Lacks d product)
    (fits : RunsFit d.amounts) : ∃ least, l.LacksFirst d least := by
  obtain ⟨wanted, reserved⟩ := Option.isSome_iff_exists.mp (d.reservations?_isSome.mpr fits)
  have totals := CheckoutDraft.reservations?_totals reserved
  cases short : l.shortage? wanted with
  | none => exact absurd lacks ((shortage?_eq_none totals).mp short product)
  | some least => exact ⟨_, (shortage?_some totals short).1⟩

/-- **A shortage is refused unless a sum is too large to be held.** The reservations are the exact
sums, in rising order, and they exist exactly when every sum is below 2³¹. A draft that wants more
than there is changes nothing; it is told the least product that is short if the sums can be held,
and is abandoned with an overflow if one cannot. -/
theorem shortage_or_overflow [EmailCheck] (positive : d.IsPositive)
    (counts : -2 ^ 31 ≤ l.lastNumber now.day) :
    (d.reservations?.isSome ↔ ∀ product, amountOf product d.amounts < 2 ^ 31) ∧
      (∀ wanted, d.reservations? = some wanted → Totals d.amounts wanted) ∧
      (l.IsOpen d now → ∀ product, l.Lacks d product →
        ((∀ other, amountOf other d.amounts < 2 ^ 31) → ∃ least, l.LacksFirst d least ∧
          l.commit d eventId now = (.refused
            (.insufficientStock least (amountOf least d.amounts) (l.available least)), l)) ∧
        ((∃ other, 2 ^ 31 ≤ amountOf other d.amounts) →
          l.commit d eventId now = (.refused (.shared .overflow), l))) := by
  have held : d.reservations?.isSome ↔ ∀ product, amountOf product d.amounts < 2 ^ 31 :=
    d.reservations?_isSome.trans (runsFit_iff positive.amounts)
  refine ⟨held, fun wanted => CheckoutDraft.reservations?_totals, fun opened product lacks => ?_⟩
  have next : CheckoutDraft.fits32 (l.lastNumber now.day + 1) := by
    have left := opened.left
    simp only [CheckoutDraft.fits32, Bool.and_eq_true, decide_eq_true_eq]
    unfold lastOfDay at left
    omega
  constructor
  · intro small
    have fits := (runsFit_iff positive.amounts).mpr small
    obtain ⟨least, first⟩ := lacks.exists_first fits
    exact ⟨least, first, commit_short opened next fits first⟩
  · rintro ⟨other, large⟩
    refine commit_overflows opened next (Option.not_isSome_iff_eq_none.mp fun reserved => ?_)
    exact Int.not_lt.mpr large (held.mp reserved other)

/-- Six pieces in two lines, where there are five. -/
theorem sixth_piece_short :
    let draft := Samples.draft [5, 1]
    let l : Ledger := { stock := [(default, 5)] }
    draft.IsPositive ∧ -2 ^ 31 ≤ l.lastNumber ⟨1970, 1, 1⟩ ∧ l.IsOpen draft ⟨0⟩ ∧
      l.Lacks draft default ∧ (∀ other, amountOf other draft.amounts < 2 ^ 31) ∧
      (l.commit draft default ⟨0⟩).1 = .refused (.insufficientStock default 6 5) := by
  intro draft l
  have positive : draft.IsPositive := by
    simp [CheckoutDraft.IsPositive, draft, Samples.draft]
  have counts : -2 ^ 31 ≤ l.lastNumber (Instant.mk 0).day := by decide +kernel
  have opened : l.IsOpen draft ⟨0⟩ := ⟨(fun _ found => by cases found), by decide +kernel⟩
  have lacks : l.Lacks draft default := ⟨by decide +kernel, by decide +kernel⟩
  obtain ⟨held, -, refused⟩ := @shortage_or_overflow l draft default ⟨0⟩ _ positive counts
  have small := held.mp (by decide +kernel)
  obtain ⟨least, first, answer⟩ := (refused opened default lacks).1 small
  have named : default = least := by
    have member := first.lacks.1
    simpa [draft, Samples.draft, CheckoutDraft.amounts, eq_comm] using member
  cases named
  refine ⟨positive, by decide +kernel, opened, lacks, small, ?_⟩
  rw [answer]
  decide +kernel

/-- Two lines want 2³¹ pieces of a product of which there are five, and the shortage is not named:
adding the lines up overflows. -/
theorem sum_overflows_before_shortage :
    let draft := Samples.draft [2147483647, 1]
    let l : Ledger := { stock := [(default, 5)] }
    (∀ product, 0 ≤ l.available product) ∧ draft.IsPositive ∧ l.IsOpen draft ⟨0⟩ ∧
      l.Lacks draft default ∧ amountOf default draft.amounts = 2147483648 ∧
      draft.reservations? = none ∧
      (l.commit draft default ⟨0⟩).1 = .refused (.shared .overflow) ∧
      ∀ product requested available,
        (l.commit draft default ⟨0⟩).1 ≠
          .refused (.insufficientStock product requested available) := by
  intro draft l
  have answer : (l.commit draft default ⟨0⟩).1 = .refused (.shared .overflow) := by decide +kernel
  have stocked (product : Uuid) : 0 ≤ l.available product := by
    simp only [available, l, Assoc.find?]
    split <;> decide
  have positive : draft.IsPositive := by
    simp [CheckoutDraft.IsPositive, draft, Samples.draft]
  have opened : l.IsOpen draft ⟨0⟩ := ⟨(fun _ found => by cases found), by decide +kernel⟩
  have lacks : l.Lacks draft default := ⟨by decide +kernel, by decide +kernel⟩
  refine ⟨stocked, positive, opened, lacks, by decide +kernel, by decide +kernel, answer, ?_⟩
  intro product requested available refused
  cases answer.symm.trans refused

end Ledger

end OrderFlow
