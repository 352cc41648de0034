/-!
Rounding a quotient to a whole number, a half going to the even neighbour. The result is never
further than half a unit from the quotient (`roundHalfEven_le`, `le_roundHalfEven`), and a quotient
that is whole stays as it is (`roundHalfEven_mul`).
-/
namespace OrderFlow

-- A bound such as `2 ^ 96` in a definition and the same bound in a statement about it are to be one
-- expression, whether or not a library with powers of its own is in sight. A default instance
-- cannot be scoped.
attribute [scoped instance (2000)] instNatPowNat Int.instNatPow instPowNat
attribute [default_instance 20000] instPowNat

namespace Number

/-- `n / d` to the nearest whole number; a half goes to the even neighbour. -/
def roundHalfEven (n d : Nat) : Nat :=
  let q := n / d
  let r := n % d
  if d < 2 * r ∨ (2 * r = d ∧ q % 2 = 1) then q + 1 else q

theorem roundHalfEven_mul (n : Nat) {d : Nat} (h : 0 < d) : roundHalfEven (n * d) d = n := by
  simp [roundHalfEven, Nat.mul_div_cancel n h]
  omega

@[simp] theorem roundHalfEven_one (n : Nat) : roundHalfEven n 1 = n := by
  simp [roundHalfEven, Nat.mod_one]

theorem roundHalfEven_le {n d : Nat} (h : 0 < d) : 2 * (d * roundHalfEven n d) ≤ 2 * n + d := by
  have hn := Nat.div_add_mod n d
  have hr := Nat.mod_lt n h
  simp only [roundHalfEven]
  split
  · rw [Nat.mul_add]
    omega
  · omega

theorem le_roundHalfEven {n d : Nat} (h : 0 < d) : 2 * n ≤ 2 * (d * roundHalfEven n d) + d := by
  have hn := Nat.div_add_mod n d
  have hr := Nat.mod_lt n h
  simp only [roundHalfEven]
  split
  · rw [Nat.mul_add]
    omega
  · omega

end Number

end OrderFlow
