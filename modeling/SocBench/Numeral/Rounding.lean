/-!
# Rounding a quotient to a whole number

The two rules the project needs: a tie goes to the even neighbour when a number is cut down to the
53 bits of a double, and a tie goes up when a rate is turned into a whole number of clock edges.
Main statements: a whole quotient is its own rounding, and rounding half up moves a quotient by at
most half a unit.
-/

namespace SocBench

/-- `num / den` to the nearest natural number, a tie to the even neighbour. -/
def roundEven (num den : Nat) : Nat :=
  let quotient := num / den
  let twice := 2 * (num % den)
  if twice < den then quotient
  else if den < twice then quotient + 1
  else quotient + quotient % 2

/-- `num / den` to the nearest natural number, a tie to the larger neighbour. -/
def roundHalfUp (num den : Nat) : Nat :=
  (2 * num + den) / (2 * den)

/-- A quotient that is whole is its own rounding. -/
theorem roundEven_mul_left (n den : Nat) (h : 0 < den) : roundEven (den * n) den = n := by
  simp [roundEven, Nat.mul_div_cancel_left n h, h]

/-- Rounding half up keeps a whole quotient. -/
theorem roundHalfUp_mul_left (n den : Nat) (h : 0 < den) : roundHalfUp (den * n) den = n := by
  unfold roundHalfUp
  have key : 2 * (den * n) + den = den + 2 * den * n := by
    rw [Nat.mul_assoc]; omega
  rw [key, Nat.add_mul_div_left _ _ (by omega : 0 < 2 * den), Nat.div_eq_of_lt (by omega)]
  omega

/-- The value `p` rounded half up has `(2p - 1) · den ≤ 2 · num < (2p + 1) · den`. -/
theorem roundHalfUp_bounds (num den : Nat) (h : 0 < den) :
    2 * den * roundHalfUp num den ≤ 2 * num + den ∧
      2 * num + den < 2 * den * (roundHalfUp num den + 1) := by
  unfold roundHalfUp
  exact ⟨Nat.mul_div_le _ _, Nat.lt_mul_div_succ _ (by omega)⟩

end SocBench
