/-
The values of numbers as rational numbers, and what the comparisons with a bound mean.
-/
import Mathlib
import TripCards.Number

namespace TripCards

namespace Binary64

/-- The number as it is, without rounding. -/
def value (x : Binary64) : ℚ :=
  (if x.negative then -1 else 1) * (x.mantissa * 2 ^ x.exponent)

theorem timesPowerOfTwo_pos {num den : Nat} (exponent : Int) (h : 0 < den) :
    0 < (timesPowerOfTwo num den exponent).2 := by
  rw [timesPowerOfTwo]
  split
  · exact h
  · rw [Nat.shiftLeft_eq]
    positivity

theorem timesPowerOfTwo_eq (num den : Nat) (exponent : Int) :
    ((timesPowerOfTwo num den exponent).1 : ℚ) / (timesPowerOfTwo num den exponent).2 =
      num / den * 2 ^ exponent := by
  rw [timesPowerOfTwo]
  split
  · rename_i h
    have power : (2 : ℚ) ^ exponent = 2 ^ exponent.toNat := by
      rw [← zpow_natCast, Int.toNat_of_nonneg h]
    rw [Nat.shiftLeft_eq, power]
    push_cast
    ring
  · rename_i h
    have power : (2 : ℚ) ^ exponent = (2 ^ (-exponent).toNat)⁻¹ := by
      rw [← zpow_natCast, Int.toNat_of_nonneg (by omega), zpow_neg, inv_inv]
    rw [Nat.shiftLeft_eq, power]
    push_cast
    rw [div_mul_eq_div_div, div_eq_mul_inv]

theorem magnitude_snd_pos (x : Binary64) : (0 : ℚ) < x.magnitude.2 := by
  exact_mod_cast timesPowerOfTwo_pos x.exponent Nat.one_pos

/-- The magnitude is the number without its sign. -/
theorem magnitude_eq (x : Binary64) :
    (x.magnitude.1 : ℚ) = x.mantissa * 2 ^ x.exponent * x.magnitude.2 := by
  have h := timesPowerOfTwo_eq x.mantissa 1 x.exponent
  rw [Nat.cast_one, div_one] at h
  exact (div_eq_iff x.magnitude_snd_pos.ne').mp h

theorem isBelow_iff (x : Binary64) (bound : Nat) : x.isBelow bound = true ↔ x.value < bound := by
  have hpos := x.magnitude_snd_pos
  have hmagnitude := x.magnitude_eq
  have hpower : (0 : ℚ) < 2 ^ x.exponent := by positivity
  have hunsigned : x.magnitude.1 < bound * x.magnitude.2 ↔
      (x.mantissa : ℚ) * 2 ^ x.exponent < bound := by
    rw [← Nat.cast_lt (α := ℚ), Nat.cast_mul, hmagnitude, mul_lt_mul_iff_left₀ hpos]
  rw [value]
  show (if x.negative && !x.isZero then true
    else decide (x.magnitude.1 < bound * x.magnitude.2)) = true ↔ _
  cases hsign : x.negative with
  | false =>
    rw [Bool.false_and, if_neg (by decide), if_neg (by decide), one_mul, decide_eq_true_eq]
    exact hunsigned
  | true =>
    rw [Bool.true_and, if_pos rfl]
    split
    · rename_i hzero
      have hmantissa : (0 : ℚ) < x.mantissa := by
        rw [isZero, Bool.not_eq_true', beq_eq_false_iff_ne] at hzero
        exact_mod_cast Nat.pos_of_ne_zero hzero
      refine iff_of_true rfl ?_
      calc (-1 : ℚ) * (x.mantissa * 2 ^ x.exponent) < 0 := by nlinarith [mul_pos hmantissa hpower]
        _ ≤ bound := Nat.cast_nonneg bound
    · rename_i hzero
      have hmantissa : x.mantissa = 0 := by simpa [isZero] using hzero
      rw [decide_eq_true_eq, hunsigned, hmantissa, Nat.cast_zero, zero_mul, mul_zero]

theorem isAbove_iff (x : Binary64) (bound : Nat) : x.isAbove bound = true ↔ bound < x.value := by
  have hpos := x.magnitude_snd_pos
  have hunsigned : bound * x.magnitude.2 < x.magnitude.1 ↔
      (bound : ℚ) < x.mantissa * 2 ^ x.exponent := by
    rw [← Nat.cast_lt (α := ℚ), Nat.cast_mul, x.magnitude_eq, mul_lt_mul_iff_left₀ hpos]
  rw [value]
  show (!x.negative && decide (bound * x.magnitude.2 < x.magnitude.1)) = true ↔ _
  cases hsign : x.negative with
  | false =>
    rw [Bool.not_false, Bool.true_and, if_neg (by decide), one_mul, decide_eq_true_eq]
    exact hunsigned
  | true =>
    rw [Bool.not_true, Bool.false_and, if_pos rfl]
    refine iff_of_false (by decide) (not_lt.mpr ?_)
    calc (-1 : ℚ) * (x.mantissa * 2 ^ x.exponent) ≤ 0 := by
          rw [neg_one_mul, neg_nonpos]
          positivity
      _ ≤ bound := Nat.cast_nonneg bound

end Binary64

namespace Number

def value : Number → ℚ
  | whole n => n
  | float x => x.value

theorem isBelow_iff (n : Number) (bound : Nat) : n.isBelow bound = true ↔ n.value < bound := by
  cases n with
  | whole n =>
    rw [isBelow, decide_eq_true_eq, value]
    exact_mod_cast Iff.rfl
  | float x => exact x.isBelow_iff bound

theorem isAbove_iff (n : Number) (bound : Nat) : n.isAbove bound = true ↔ bound < n.value := by
  cases n with
  | whole n =>
    rw [isAbove, decide_eq_true_eq, value]
    exact_mod_cast Iff.rfl
  | float x => exact x.isAbove_iff bound

end Number
end TripCards
