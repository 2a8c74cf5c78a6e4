import Mathlib.Tactic.Ring
import SocBench.Frequency.Reading

/-!
# Whole numbers as doubles

A natural number below `2 ^ 53` has a double of exactly its value, and as long as the results stay
below `2 ^ 53` nothing is lost: reading the digits, converting a scale, multiplying the two and
rounding the product to hertz all compute what natural numbers compute.

A double does not have one form for a value (`v · 2 ^ k` at the exponent `-k`, for one of many
`k`), so the statements are about `IsNat`, which is the value alone.
-/

namespace SocBench

namespace Binary64

/-- The double is the natural number `v`, without an error. -/
def IsNat (x : Binary64) (v : ℕ) : Prop :=
  ∃ k : ℕ, x = .finite false (v * 2 ^ k) (-k)

/-! ## The exact quotient -/

lemma log2_mul_two_pow {v : ℕ} (hv : v ≠ 0) (k : ℕ) : (v * 2 ^ k).log2 = v.log2 + k := by
  have hne : v * 2 ^ k ≠ 0 := Nat.mul_ne_zero hv (Nat.two_pow_pos k).ne'
  rw [Nat.log2_eq_iff hne]
  constructor
  · rw [pow_add]
    exact Nat.mul_le_mul_right _ (Nat.log2_self_le hv)
  · rw [show v.log2 + k + 1 = v.log2 + 1 + k by omega, pow_add]
    exact Nat.mul_lt_mul_of_pos_right Nat.lt_log2_self (Nat.two_pow_pos k)

lemma ratioLog_one {num : ℕ} (h : num ≠ 0) : ratioLog num 1 = num.log2 := by
  have hle : 2 ^ num.log2 ≤ num := Nat.log2_self_le h
  have hone : Nat.log2 1 = 0 := by decide
  rcases Nat.eq_zero_or_pos num.log2 with hzero | hpos
  · simp [ratioLog, scaled, hone, hzero, Nat.one_le_iff_ne_zero, h]
  · simp [ratioLog, scaled, hone, hpos.ne', hle]

/-- Moving `v · 2 ^ k` by `j - k` binary places leaves a quotient whose value is `v · 2 ^ j`. -/
lemma exists_scaled_eq (v k j : ℕ) :
    ∃ den, 0 < den ∧ scaled (v * 2 ^ k) 1 ((j : ℤ) - k) = (den * (v * 2 ^ j), den) := by
  rcases Nat.lt_or_ge j k with hlt | hge
  · refine ⟨2 ^ (k - j), Nat.two_pow_pos _, ?_⟩
    have hneg : ¬ (0 : ℤ) ≤ (j : ℤ) - k := by omega
    have hplaces : (-((j : ℤ) - k)).toNat = k - j := by omega
    have hsplit : v * 2 ^ k = 2 ^ (k - j) * (v * 2 ^ j) := by
      rw [show k = k - j + j by omega, pow_add, Nat.add_sub_cancel]
      ring
    rw [scaled, if_neg hneg, hplaces, hsplit, Nat.pow_eq, one_mul]
  · refine ⟨1, Nat.one_pos, ?_⟩
    have hplaces : ((j : ℤ) - k).toNat = j - k := by omega
    rw [scaled, if_pos (by omega), hplaces, Nat.pow_eq, mul_assoc, ← pow_add,
      Nat.add_sub_cancel' hge, one_mul]

/-! ## Operations that lose nothing -/

lemma isNat_zero : IsNat (.finite false 0 minExponent) 0 :=
  ⟨1074, by rw [zero_mul]; rfl⟩

/-- The number fills the 53 bits after a shift by `52 - log2 v`, and that shift is exact. -/
lemma isNat_round {v : ℕ} (hv : v < 2 ^ 53) (k : ℕ) : IsNat (round false (v * 2 ^ k) 1 (-k)) v := by
  rcases Nat.eq_zero_or_pos v with rfl | hpos
  · rw [zero_mul, round, if_pos rfl]
    exact isNat_zero
  have hlog : v.log2 < 53 := (Nat.log2_lt hpos.ne').mpr hv
  obtain ⟨j, hj⟩ : ∃ j, v.log2 + j = 52 := ⟨52 - v.log2, by omega⟩
  have hne : v * 2 ^ k ≠ 0 := Nat.mul_ne_zero hpos.ne' (Nat.two_pow_pos k).ne'
  have hexponent : max minExponent (ratioLog (v * 2 ^ k) 1 + -(k : ℤ) - 52) = -(j : ℤ) := by
    rw [ratioLog_one hne, log2_mul_two_pow hpos.ne', minExponent]
    push_cast
    omega
  have hbits : v * 2 ^ j < 2 ^ 53 := by
    calc v * 2 ^ j < 2 ^ (v.log2 + 1) * 2 ^ j :=
          Nat.mul_lt_mul_of_pos_right Nat.lt_log2_self (Nat.two_pow_pos j)
      _ = 2 ^ 53 := by rw [← pow_add, show v.log2 + 1 + j = 53 by omega]
  obtain ⟨den, hden, hscaled⟩ := exists_scaled_eq v k j
  have hshift : -(k : ℤ) - -(j : ℤ) = (j : ℤ) - k := by ring
  refine ⟨j, ?_⟩
  simp only [round, if_neg hne, hexponent, hshift, hscaled, roundEven_mul_left _ _ hden, Nat.pow_eq]
  rw [if_neg hbits.ne, pack, if_neg (by simp only [maxExponent]; omega)]

lemma isNat_ofNat {v : ℕ} (hv : v < 2 ^ 53) : IsNat (ofNat v) v := by
  simpa [ofNat] using isNat_round hv 0

lemma IsNat.mul {x y : Binary64} {v w : ℕ} (hx : x.IsNat v) (hy : y.IsNat w)
    (h : v * w < 2 ^ 53) : (x.mul y).IsNat (v * w) := by
  obtain ⟨k, rfl⟩ := hx
  obtain ⟨l, rfl⟩ := hy
  have hproduct : v * 2 ^ k * (w * 2 ^ l) = v * w * 2 ^ (k + l) := by
    rw [pow_add]
    ring
  have hexponent : -(k : ℤ) + -(l : ℤ) = -((k + l : ℕ) : ℤ) := by
    push_cast
    ring
  rw [Binary64.mul, hproduct, hexponent]
  exact isNat_round h (k + l)

/-- Seventeen digits are far from the 310 where a decimal becomes infinite. -/
lemma isNat_ofDecimal {v : ℕ} (hv : v < 2 ^ 53) : IsNat (ofDecimal false v 0) v := by
  rcases Nat.eq_zero_or_pos v with rfl | hpos
  · exact isNat_zero
  have hlength : (Nat.toDigits 10 v).length ≤ 17 :=
    (Nat.length_toDigits_le_iff (by decide) (by decide)).mpr (hv.trans (by decide))
  rw [ofDecimal, if_neg hpos.ne']
  simp only [add_zero]
  rw [if_neg (by omega), if_neg (by omega), if_pos le_rfl]
  simpa using isNat_round hv 0

lemma IsNat.ofBinary64? {x : Binary64} {v : ℕ} (hx : x.IsNat v) (hv : v < UInt64.size) :
    Frequency.ofBinary64? x = some ⟨UInt64.ofNat v⟩ := by
  obtain ⟨k, rfl⟩ := hx
  obtain ⟨den, hden, hscaled⟩ := exists_scaled_eq v k 0
  have hhertz : roundMagnitude (v * 2 ^ k) (-k) = v := by
    rw [Nat.cast_zero, zero_sub, pow_zero, mul_one] at hscaled
    simp only [roundMagnitude, hscaled]
    exact roundHalfUp_mul_left v den hden
  have hfits : ¬ UInt64.size < v := by omega
  have hmin : min v (UInt64.size - 1) = v := by omega
  simp only [Frequency.ofBinary64?, hhertz, hfits, hmin]
  simp

end Binary64

end SocBench
