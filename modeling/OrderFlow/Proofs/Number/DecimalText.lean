import Mathlib.Tactic.Linarith
import OrderFlow.Number.Decimal.Text

/-!
The text of an amount reads back as the same amount, places included (`parse?_text`).
-/
namespace OrderFlow.Decimal
open OrderFlow OrderFlow.Text

/-- The number that digits write grows from digit to digit. -/
private theorem le_ofDigitChars (ds : List Char) (n : Nat) : n ≤ Nat.ofDigitChars 10 ds n := by
  rw [Nat.ofDigitChars_eq_ofDigitChars_zero]
  have grows : 1 ≤ 10 ^ ds.length := Nat.one_le_pow _ _ (by decide)
  nlinarith

/-- Digits in front of the point extend the magnitude. -/
private theorem read_whole (ds : List Char) (all : ∀ c ∈ ds, c.isDigit = true) (r : Draft)
    (whole : r.pointed = false) (small : Nat.ofDigitChars 10 ds r.magnitude < 2 ^ 96)
    (rest : List Char) :
    r.read (ds ++ rest) =
      Draft.read { r with magnitude := Nat.ofDigitChars 10 ds r.magnitude,
                          begun := r.begun || !ds.isEmpty } rest := by
  induction ds generalizing r with
  | nil => simp
  | cons c ds ih =>
    have digit := all c List.mem_cons_self
    rw [Nat.ofDigitChars_cons, Nat.mul_comm] at small
    have first : ¬ 2 ^ 96 ≤ r.magnitude * 10 + (c.toNat - '0'.toNat) :=
      Nat.not_le.2 (Nat.lt_of_le_of_lt (le_ofDigitChars ds _) small)
    rw [List.cons_append, Draft.read, if_pos digit]
    simp only [first, if_false, whole, Bool.false_eq_true, false_and]
    rw [ih (fun d member => all d (List.mem_cons_of_mem c member)) _ rfl small]
    simp [Nat.ofDigitChars_cons, Nat.mul_comm]

/-- Digits behind the point extend the magnitude and the places, as long as there is room. -/
private theorem read_fraction (ds : List Char) (all : ∀ c ∈ ds, c.isDigit = true) (r : Draft)
    (pointed : r.pointed = true) (begun : r.begun = true)
    (small : Nat.ofDigitChars 10 ds r.magnitude < 2 ^ 96) (room : r.places + ds.length ≤ 28) :
    r.read ds =
      Draft.finish { r with magnitude := Nat.ofDigitChars 10 ds r.magnitude,
                            places := r.places + ds.length } := by
  induction ds generalizing r with
  | nil => simp [Draft.read]
  | cons c ds ih =>
    have digit := all c List.mem_cons_self
    rw [Nat.ofDigitChars_cons, Nat.mul_comm] at small
    have first : ¬ 2 ^ 96 ≤ r.magnitude * 10 + (c.toNat - '0'.toNat) :=
      Nat.not_le.2 (Nat.lt_of_le_of_lt (le_ofDigitChars ds _) small)
    rw [Draft.read, if_pos digit]
    simp only [first, if_false, pointed, if_true, true_and]
    rw [List.length_cons] at room
    by_cases full : 28 ≤ r.places + 1
    · have last : ds = [] := List.eq_nil_of_length_eq_zero (by omega)
      subst last
      simp [full, Nat.ofDigitChars_cons, Nat.mul_comm, begun]
    · rw [if_neg full, ih (fun d member => all d (List.mem_cons_of_mem c member)) _ rfl rfl small
        (by simp only; omega)]
      simp [Nat.ofDigitChars_cons, Nat.mul_comm, begun, Nat.add_assoc, Nat.add_comm 1]

private theorem ofDigitChars_digits (n : Nat) : Nat.ofDigitChars 10 (digits n) 0 = n :=
  value_digits n

/-- The magnitude of an amount is read back behind its sign. -/
private theorem read_magnitude (negative : Bool) (m scale : Nat) (small : m < 2 ^ 96)
    (places : scale ≤ 28) :
    Draft.read { negative } (digits (m / 10 ^ scale) ++
        if scale = 0 then [] else '.' :: padded scale (m % 10 ^ scale)) =
      Draft.finish ⟨negative, m, scale, decide (scale ≠ 0), true⟩ := by
  have begun : (!(digits (m / 10 ^ scale)).isEmpty) = true := by simp [digits_ne_nil]
  have whole : m / 10 ^ scale < 2 ^ 96 := Nat.lt_of_le_of_lt (Nat.div_le_self _ _) small
  rw [read_whole _ (fun _ => isDigit_of_mem_digits) _ rfl
    (by simpa [ofDigitChars_digits] using whole)]
  simp only [ofDigitChars_digits, begun, Bool.or_true]
  by_cases integral : scale = 0
  · subst integral
    simp [Draft.read]
  · have length : (padded scale (m % 10 ^ scale)).length = scale :=
      length_padded (Nat.pos_of_ne_zero integral) (Nat.mod_lt _ (Nat.pow_pos (by decide)))
    have total : Nat.ofDigitChars 10 (padded scale (m % 10 ^ scale)) (m / 10 ^ scale) = m := by
      have fraction : Nat.ofDigitChars 10 (padded scale (m % 10 ^ scale)) 0 = m % 10 ^ scale :=
        value_padded _ _
      rw [Nat.ofDigitChars_eq_ofDigitChars_zero, fraction, length]
      exact Nat.div_add_mod _ _
    rw [if_neg integral, Draft.read, if_neg (by decide), if_pos (by simp)]
    rw [read_fraction _ (fun _ => isDigit_of_mem_padded) _ rfl rfl (by simpa [total] using small)
      (by simp only [length]; omega)]
    simp [total, length, integral]

/-- **The text of an amount reads back.** -/
theorem parse?_text (d : Decimal) : parse? d.text = some d := by
  obtain ⟨unscaled, scale, small, places⟩ := d
  have read (negative : Bool) := read_magnitude negative unscaled.natAbs scale small places
  have plain : ofText? (Decimal.text ⟨unscaled, scale, small, places⟩) =
      some ⟨unscaled, scale, small, places⟩ := by
    by_cases negative : unscaled < 0
    · have value : -(unscaled.natAbs : Int) = unscaled := by omega
      have finish := of?_eq_some small places
      simp only [text, negative, if_true, List.cons_append, List.nil_append, ofText?, read,
        Draft.finish, value, finish]
    · have value : (unscaled.natAbs : Int) = unscaled := by omega
      have finish := of?_eq_some small places
      obtain ⟨c, ds, shape⟩ := List.exists_cons_of_ne_nil
        (digits_ne_nil (unscaled.natAbs / 10 ^ scale))
      have digit : c.isDigit = true := isDigit_of_mem_digits (n := unscaled.natAbs / 10 ^ scale)
        (by rw [shape]; exact List.mem_cons_self)
      have unsigned := read false
      simp only [text, negative, if_false, List.nil_append, shape, List.cons_append] at unsigned ⊢
      unfold ofText?
      split
      · rename_i minus
        rw [(List.cons.inj minus).1] at digit
        exact absurd digit (by decide)
      · rename_i plus
        rw [(List.cons.inj plus).1] at digit
        exact absurd digit (by decide)
      · simp [unsigned, Draft.finish, value, finish]
  simp [parse?, plain]

end OrderFlow.Decimal
