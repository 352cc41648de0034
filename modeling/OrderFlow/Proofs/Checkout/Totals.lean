import Mathlib.Data.List.Induction
import OrderFlow.Proofs.Checkout.Reservations

/-!
The reservations of a draft, product by product. They rise strictly, hold the products of the lines
and no others, and give each its whole sum (`CheckoutDraft.reservations?_totals`). There are none
exactly when a running sum leaves the range of 32 bits (`CheckoutDraft.reservations?_isSome`); where
every line wants something this is to say that some product is wanted too often
(`CheckoutDraft.runsFit_iff`).
-/
namespace OrderFlow

variable {product : Uuid} {quantity : Int} {lines totals totals' : List (Uuid × Int)}

/-- The totals name the products of the lines in rising order, each with its whole sum. -/
structure Totals (lines totals : List (Uuid × Int)) : Prop where
  rising : totals.Pairwise fun a b => a.1.bits < b.1.bits
  products : ∀ product, product ∈ totals.map (·.1) ↔ product ∈ lines.map (·.1)
  sums : ∀ t ∈ totals, t.2 = amountOf t.1 lines

/-- Every running sum of the lines fits into 32 bits. -/
def RunsFit (lines : List (Uuid × Int)) : Prop :=
  ∀ part, part <+: lines → ∀ product, CheckoutDraft.fits32 (amountOf product part)

/-- One more line changes the running sum of its own product only. -/
theorem runsFit_snoc :
    RunsFit (lines ++ [(product, quantity)]) ↔
      RunsFit lines ∧ CheckoutDraft.fits32 (amountOf product lines + quantity) := by
  have last (p : Uuid) : amountOf p (lines ++ [(product, quantity)]) =
      amountOf p lines + if product = p then quantity else 0 := by
    simp
  constructor
  · intro fits
    refine ⟨fun part front => fits part (front.trans (List.prefix_append _ _)), ?_⟩
    have whole := fits _ List.prefix_rfl product
    rwa [last, if_pos rfl] at whole
  · rintro ⟨fits, whole⟩ part front p
    rcases List.prefix_concat_iff.mp front with rfl | front
    · rw [last]
      split
      · next same => rwa [← same]
      · rw [Int.add_zero]
        exact fits _ List.prefix_rfl p
    · exact fits part front p

theorem amountOf_nonneg (positive : ∀ a ∈ lines, 0 < a.2) : 0 ≤ amountOf product lines := by
  induction lines with
  | nil => exact Int.le_refl 0
  | cons a lines ih =>
    obtain ⟨first, rest⟩ := List.forall_mem_cons.mp positive
    have least := ih rest
    rw [amountOf_cons]
    split <;> omega

/-- Where every line wants something, the whole sums are the greatest. -/
theorem runsFit_iff (positive : ∀ a ∈ lines, 0 < a.2) :
    RunsFit lines ↔ ∀ product, amountOf product lines < 2 ^ 31 := by
  constructor
  · intro fits product
    have whole := fits lines List.prefix_rfl product
    simp only [CheckoutDraft.fits32, Bool.and_eq_true, decide_eq_true_eq] at whole
    exact whole.2
  · rintro small part ⟨rest, rfl⟩ product
    have least : 0 ≤ amountOf product part :=
      amountOf_nonneg fun a member => positive a (List.mem_append_left _ member)
    have more : 0 ≤ amountOf product rest :=
      amountOf_nonneg fun a member => positive a (List.mem_append_right _ member)
    have whole := small product
    rw [amountOf_append] at whole
    simp only [CheckoutDraft.fits32, Bool.and_eq_true, decide_eq_true_eq]
    omega

namespace CheckoutDraft

/-- A product is added unless its total gets too large. -/
theorem addTo_isSome (apart : (totals.map (·.1)).Nodup) (fits : fits32 quantity) :
    (addTo product quantity totals).isSome ↔ fits32 (amountOf product totals + quantity) := by
  induction totals with
  | nil => simpa [addTo] using fits
  | cons t totals ih =>
    obtain ⟨p, total⟩ := t
    obtain ⟨new, apart⟩ := List.nodup_cons.mp apart
    simp only [addTo, amountOf_cons]
    split
    · next same =>
      subst same
      rw [amountOf_eq_zero new, Int.add_zero]
      split <;> simp_all
    · rw [Option.isSome_map, Int.zero_add]
      exact ih apart

theorem mem_addTo (added : addTo product quantity totals = some totals') (p : Uuid) :
    p ∈ totals'.map (·.1) ↔ p ∈ totals.map (·.1) ∨ p = product := by
  induction totals generalizing totals' with
  | nil =>
    cases added
    simp
  | cons t totals ih =>
    obtain ⟨q, total⟩ := t
    simp only [addTo] at added
    split at added
    · next same =>
      split at added
      · cases added
        simp only [List.map_cons, List.mem_cons, same]
        tauto
      · cases added
    · obtain ⟨_, grown, rfl⟩ := Option.map_eq_some_iff.mp added
      simp only [List.map_cons, List.mem_cons, ih grown, or_assoc]

/-- The totals of lines, in the order in which their products come. -/
def tally (lines : List (Uuid × Int)) : Option (List (Uuid × Int)) :=
  lines.foldlM (fun totals l => addTo l.1 l.2 totals) []

theorem tally_snoc (lines : List (Uuid × Int)) (product : Uuid) (quantity : Int) :
    tally (lines ++ [(product, quantity)]) = (tally lines).bind (addTo product quantity) := by
  simp [tally, List.foldlM_append]

theorem reservations?_eq (d : CheckoutDraft) :
    d.reservations? = (tally d.amounts).map fun ts => ts.mergeSort fun a b => a.1 ≤ b.1 := by
  rw [reservations?, tally, amounts, List.foldlM_map]

/-- The totals of lines hold every product once, with its sum. -/
theorem tally_tallied (tallied : tally lines = some totals) :
    Tallied lines totals ∧ ∀ p, p ∈ totals.map (·.1) ↔ p ∈ lines.map (·.1) := by
  induction lines using List.reverseRecOn generalizing totals with
  | nil =>
    cases tallied
    exact ⟨⟨.nil, fun _ => rfl, fun _ _ member => nomatch member⟩, fun _ => .rfl⟩
  | append_singleton lines l ih =>
    rw [tally_snoc] at tallied
    obtain ⟨before, first, added⟩ := Option.bind_eq_some_iff.mp tallied
    obtain ⟨tallied, products⟩ := ih first
    refine ⟨tallied.addTo added, fun p => ?_⟩
    rw [mem_addTo added, products]
    simp

theorem tally_isSome (fits : ∀ l ∈ lines, fits32 l.2) :
    (tally lines).isSome ↔ RunsFit lines := by
  induction lines using List.reverseRecOn with
  | nil =>
    refine iff_of_true rfl fun part front product => ?_
    rw [List.prefix_nil.mp front]
    rfl
  | append_singleton lines l ih =>
    have last : fits32 l.2 := fits l (by simp)
    have before := ih fun l member => fits l (List.mem_append_left _ member)
    rw [runsFit_snoc, ← before, tally_snoc]
    cases tallied : tally lines with
    | none => simp
    | some totals =>
      obtain ⟨whole, -⟩ := tally_tallied tallied
      rw [Option.bind_some, addTo_isSome whole.apart last, whole.amounts]
      simp

theorem fits32_quantity (d : CheckoutDraft) : ∀ a ∈ d.amounts, fits32 a.2 := by
  intro a member
  obtain ⟨l, -, rfl⟩ := List.mem_map.mp member
  have least := l.quantity.le_toInt
  have most := l.quantity.toInt_lt
  simp only [fits32, Bool.and_eq_true, decide_eq_true_eq]
  omega

/-- **There are reservations as long as no running sum is too large.** -/
theorem reservations?_isSome (d : CheckoutDraft) :
    d.reservations?.isSome ↔ RunsFit d.amounts := by
  rw [reservations?_eq, Option.isSome_map, tally_isSome d.fits32_quantity]

/-- **The reservations are the totals of the lines.** -/
theorem reservations?_totals {d : CheckoutDraft} {wanted : List (Uuid × Int)}
    (reserved : d.reservations? = some wanted) : Totals d.amounts wanted := by
  obtain ⟨apart, amounts, -⟩ := tallied reserved
  rw [reservations?_eq] at reserved
  obtain ⟨totals, tallied, rfl⟩ := Option.map_eq_some_iff.mp reserved
  have perm := totals.mergeSort_perm fun a b => decide (a.1 ≤ b.1)
  have sorted : (totals.mergeSort fun a b => decide (a.1 ≤ b.1)).Pairwise
      fun a b => decide (a.1 ≤ b.1) = true :=
    List.pairwise_mergeSort
      (fun a b c first second => by
        rw [decide_eq_true_eq] at first second ⊢
        exact Fin.le_trans first second)
      (fun a b => by
        rw [Bool.or_eq_true, decide_eq_true_eq, decide_eq_true_eq]
        exact Fin.le_total a.1.bits b.1.bits)
      totals
  refine ⟨?_, fun p => ?_, fun t member => ?_⟩
  · refine sorted.imp₂ (fun a b below distinct => ?_) (List.pairwise_map.mp apart)
    have below : a.1.bits ≤ b.1.bits := decide_eq_true_eq.mp below
    refine Nat.lt_of_le_of_ne below fun same => distinct ?_
    exact congrArg Uuid.mk (Fin.ext same)
  · rw [(perm.map _).mem_iff]
    exact (tally_tallied tallied).2 p
  · rw [← amounts]
    exact (amountOf_eq apart member).symm

end CheckoutDraft

end OrderFlow
