import Mathlib.Algebra.BigOperators.Group.List.Basic
import Mathlib.Algebra.Ring.Int.Defs
import OrderFlow.Checkout.Ledger

/-!
What a draft takes out of the stock. The reservations of a draft hold every product once, with all
that the lines want of it (`CheckoutDraft.tallied`), and what is taken out is there
(`Ledger.available_takeOut`), so that the stock of no product falls below nothing.
-/
namespace OrderFlow

section
variable {κ : Type} [DecidableEq κ] {product : κ} {quantity : Int}
  {amounts amounts' : List (κ × Int)}

/-- How much of a product is in a list. -/
def amountOf (product : κ) (amounts : List (κ × Int)) : Int :=
  (amounts.map fun a => if a.1 = product then a.2 else 0).sum

@[simp] theorem amountOf_nil (product : κ) : amountOf product [] = 0 := rfl

@[simp] theorem amountOf_cons (product : κ) (a : κ × Int) (amounts : List (κ × Int)) :
    amountOf product (a :: amounts) =
      (if a.1 = product then a.2 else 0) + amountOf product amounts := by
  simp [amountOf]

@[simp] theorem amountOf_append (product : κ) (amounts more : List (κ × Int)) :
    amountOf product (amounts ++ more) = amountOf product amounts + amountOf product more := by
  simp [amountOf]

theorem amountOf_perm (perm : amounts.Perm amounts') :
    amountOf product amounts = amountOf product amounts' :=
  (perm.map _).sum_eq

theorem amountOf_eq_zero (absent : product ∉ amounts.map (·.1)) :
    amountOf product amounts = 0 := by
  induction amounts with
  | nil => rfl
  | cons a amounts ih =>
    simp only [List.map_cons, List.mem_cons, not_or] at absent
    rw [amountOf_cons, if_neg (Ne.symm absent.1), ih absent.2, Int.add_zero]

theorem amountOf_eq (apart : (amounts.map (·.1)).Nodup) (member : (product, quantity) ∈ amounts) :
    amountOf product amounts = quantity := by
  induction amounts with
  | nil => cases member
  | cons a amounts ih =>
    obtain ⟨new, apart⟩ := List.nodup_cons.mp apart
    rw [amountOf_cons]
    rcases List.mem_cons.mp member with rfl | later
    · rw [if_pos rfl, amountOf_eq_zero new, Int.add_zero]
    · have other : a.1 ≠ product := by
        rintro rfl
        exact new (List.mem_map.mpr ⟨_, later, rfl⟩)
      rw [if_neg other, ih apart later, Int.zero_add]

/-- Products may go by other names as long as the names tell them apart. -/
theorem amountOf_renamed {ν : Type} [DecidableEq ν] {name : κ → ν} (apart : name.Injective)
    (amounts : List (κ × Int)) :
    amountOf (name product) (amounts.map fun a => (name a.1, a.2)) = amountOf product amounts := by
  simp [amountOf, Function.comp_def, apart.eq_iff]

end

variable {product : Uuid} {quantity : Int} {lines totals totals' : List (Uuid × Int)}

/-- The totals hold every product once, with all that the lines want of it. -/
structure Tallied (lines totals : List (Uuid × Int)) : Prop where
  apart : (totals.map (·.1)).Nodup
  amounts : ∀ product, amountOf product totals = amountOf product lines
  positive : (∀ l ∈ lines, 0 < l.2) → ∀ t ∈ totals, 0 < t.2

namespace CheckoutDraft

/-- The products and quantities of the lines. -/
def amounts (d : CheckoutDraft) : List (Uuid × Int) :=
  d.lines.map fun l => (l.productId, l.quantity.toInt)

/-- A total grows by what is added to it, and the others stay. -/
theorem addTo_spec (added : addTo product quantity totals = some totals') :
    (∀ p, amountOf p totals' = amountOf p totals + if product = p then quantity else 0) ∧
      (∀ p ∈ totals'.map (·.1), p ∈ totals.map (·.1) ∨ p = product) ∧
      ((totals.map (·.1)).Nodup → (totals'.map (·.1)).Nodup) ∧
      (0 < quantity → (∀ t ∈ totals, 0 < t.2) → ∀ t ∈ totals', 0 < t.2) := by
  induction totals generalizing totals' with
  | nil =>
    cases added
    simp
  | cons t totals ih =>
    obtain ⟨p, total⟩ := t
    simp only [addTo] at added
    split at added
    · next same =>
      subst same
      split at added
      · cases added
        refine ⟨fun q => ?_, fun q member => .inl member, id, fun more all => ?_⟩
        · simp only [amountOf_cons]
          split <;> omega
        · obtain ⟨first, rest⟩ := List.forall_mem_cons.mp all
          exact List.forall_mem_cons.mpr ⟨Int.add_pos first more, rest⟩
      · cases added
    · next other =>
      obtain ⟨_, grown, rfl⟩ := Option.map_eq_some_iff.mp added
      obtain ⟨amounts, keys, apart, positive⟩ := ih grown
      refine ⟨fun q => ?_, fun q member => ?_, fun distinct => ?_, fun more all => ?_⟩
      · rw [amountOf_cons, amountOf_cons, amounts, Int.add_assoc]
      · rcases List.mem_cons.mp member with first | later
        · exact .inl (first ▸ List.mem_cons_self)
        · exact (keys q later).imp_left (List.mem_cons_of_mem _)
      · obtain ⟨new, distinct⟩ := List.nodup_cons.mp distinct
        exact List.nodup_cons.mpr ⟨fun old => (keys p old).elim new other, apart distinct⟩
      · obtain ⟨first, rest⟩ := List.forall_mem_cons.mp all
        exact List.forall_mem_cons.mpr ⟨first, positive more rest⟩

end CheckoutDraft

theorem Tallied.addTo (tallied : Tallied lines totals)
    (added : CheckoutDraft.addTo product quantity totals = some totals') :
    Tallied (lines ++ [(product, quantity)]) totals' := by
  obtain ⟨amounts, _, apart, positive⟩ := CheckoutDraft.addTo_spec added
  refine ⟨apart tallied.apart, fun p => ?_, fun all => ?_⟩
  · rw [amounts, tallied.amounts]
    simp
  · exact positive (all (product, quantity) (by simp))
      (tallied.positive fun l member => all l (List.mem_append_left _ member))

namespace CheckoutDraft

/-- **The reservations of a draft are what its lines want.** -/
theorem tallied {d : CheckoutDraft} {wanted : List (Uuid × Int)}
    (reserved : d.reservations? = some wanted) : Tallied d.amounts wanted := by
  have folded (more : List CartLine) (lines totals totals' : List (Uuid × Int))
      (tallied : Tallied lines totals)
      (added : more.foldlM (fun ts l => addTo l.productId l.quantity.toInt ts) totals =
        some totals') :
      Tallied (lines ++ more.map fun l => (l.productId, l.quantity.toInt)) totals' := by
    induction more generalizing lines totals with
    | nil =>
      cases added
      simpa using tallied
    | cons l more ih =>
      rw [List.foldlM_cons] at added
      obtain ⟨next, first, rest⟩ := Option.bind_eq_some_iff.mp added
      simpa using ih _ _ (tallied.addTo first) rest
  obtain ⟨totals, added, rfl⟩ := Option.map_eq_some_iff.mp reserved
  have tallied : Tallied d.amounts totals :=
    folded d.lines [] [] totals ⟨.nil, fun _ => rfl, fun _ _ member => nomatch member⟩ added
  have perm := totals.mergeSort_perm fun a b => decide (a.1 ≤ b.1)
  refine ⟨(perm.map _).nodup_iff.mpr tallied.apart, fun p => ?_, fun all t member => ?_⟩
  · rw [amountOf_perm perm, tallied.amounts]
  · exact tallied.positive all t (perm.mem_iff.mp member)

end CheckoutDraft

namespace Ledger

theorem find?_takeOut (stock : Assoc Uuid Int) (wanted : List (Uuid × Int)) (product : Uuid) :
    (takeOut stock wanted).find? product =
      (stock.find? product).map (· - amountOf product wanted) := by
  induction wanted generalizing stock with
  | nil => simp [takeOut]
  | cons w wanted ih =>
    have rest := ih (stock.modify w.1 (· - w.2))
    simp only [takeOut, List.foldl_cons] at rest ⊢
    rw [rest, Assoc.find?_modify]
    split
    · next same => simp [same, Option.map_map, Function.comp_def, Int.sub_sub]
    · next other => rw [amountOf_cons, if_neg other, Int.zero_add]

/-- **What is taken out is there**: no product of which too much is wanted is ever touched. -/
theorem available_takeOut {l l' : Ledger} {wanted : List (Uuid × Int)}
    (tallied : Tallied lines wanted) (positive : ∀ a ∈ lines, 0 < a.2)
    (stocked : l.shortage? wanted = none) (taken : l'.stock = takeOut l.stock wanted)
    (product : Uuid) :
    l'.available product = l.available product - amountOf product lines ∧
      (0 ≤ l.available product → 0 ≤ l'.available product) := by
  have left : l'.available product =
      ((l.stock.find? product).map (· - amountOf product wanted)).getD 0 := by
    rw [available, taken, find?_takeOut]
  rw [left, ← tallied.amounts]
  by_cases wants : product ∈ wanted.map (·.1)
  · obtain ⟨⟨p, quantity⟩, member, rfl⟩ := List.mem_map.mp wants
    have enough : quantity ≤ l.available p := by
      simpa using List.find?_eq_none.mp stocked (p, quantity) member
    have some_ : 0 < quantity := tallied.positive positive (p, quantity) member
    rw [amountOf_eq tallied.apart member]
    simp only [available] at enough ⊢
    cases held : l.stock.find? p with
    | none =>
      rw [held, Option.getD_none] at enough
      omega
    | some count =>
      rw [held, Option.getD_some] at enough
      exact ⟨rfl, fun _ => Int.sub_nonneg_of_le enough⟩
  · rw [amountOf_eq_zero wants]
    simp only [available]
    cases l.stock.find? product <;> simp

end Ledger

end OrderFlow
