/-
What a card shows of a number depends on the value of the number only.

A document may write one value as a whole number and as a float, and zero as a float with and without
a sign. `Value.number_shown_of_value` says that a card makes no difference between them: it shows the
decimal numeral of the value where that is whole and below `10^21`, whichever way the number is kept.
Whether a number holds is asked of the float nearest to it, and no whole number but zero is rounded to
zero, `Binary64.isZero_of_ofRatio`.
-/
import TripCards.Proofs.Number.Same
import TripCards.Value

namespace TripCards

namespace Binary64

/-! ## Floats of one value -/

/-- The number under its sign. -/
def size (x : Binary64) : ℚ :=
  x.mantissa * 2 ^ x.exponent

theorem value_eq (x : Binary64) : x.value = (if x.negative then -1 else 1) * x.size := rfl

theorem size_eq_zero_iff (x : Binary64) : x.size = 0 ↔ x.isZero = true := by
  have power : (2 : ℚ) ^ x.exponent ≠ 0 := by positivity
  rw [size, mul_eq_zero, or_iff_left power, Nat.cast_eq_zero, isZero, beq_iff_eq]

theorem value_eq_zero_iff (x : Binary64) : x.value = 0 ↔ x.isZero = true := by
  have sign : (if x.negative then -1 else 1 : ℚ) ≠ 0 := by split <;> norm_num
  rw [value_eq, mul_eq_zero, or_iff_right sign, size_eq_zero_iff]

theorem size_nonneg (x : Binary64) : 0 ≤ x.size := by
  rw [size]
  positivity

theorem abs_value (x : Binary64) : |x.value| = x.size := by
  rw [value_eq, abs_mul, abs_of_nonneg x.size_nonneg]
  cases x.negative <;> simp

/-- A larger exponent is one with all bits of the mantissa in use, and then the number is larger. -/
theorem exponent_le_of_size_eq {x y : Binary64} (h : x.size = y.size) :
    y.exponent ≤ x.exponent := by
  by_contra hlt
  obtain ⟨hx, least, -, -⟩ := x.canonical
  obtain ⟨-, -, -, hy⟩ := y.canonical
  have full : fullMantissa ≤ y.mantissa := by
    by_contra hless
    have := hy (by omega)
    omega
  obtain ⟨k, hk⟩ : ∃ k : Nat, y.exponent = x.exponent + (k + 1) :=
    ⟨(y.exponent - x.exponent - 1).toNat, by omega⟩
  have power : (2 : ℚ) ^ x.exponent ≠ 0 := by positivity
  have mantissas : x.mantissa = y.mantissa * 2 ^ (k + 1) := by
    rw [size, size, hk, zpow_add₀ two_ne_zero, mul_comm (2 ^ x.exponent : ℚ), ← mul_assoc,
      mul_left_inj' power] at h
    exact_mod_cast h
  have : 2 * fullMantissa ≤ x.mantissa := by
    calc 2 * fullMantissa ≤ 2 * y.mantissa := Nat.mul_le_mul_left 2 full
      _ = y.mantissa * 2 ^ 1 := Nat.mul_comm 2 _
      _ ≤ y.mantissa * 2 ^ (k + 1) :=
        Nat.mul_le_mul_left _ (Nat.pow_le_pow_right (by decide) (by omega))
      _ = x.mantissa := mantissas.symm
  omega

theorem mantissa_eq_of_size_eq {x y : Binary64} (h : x.size = y.size) :
    x.mantissa = y.mantissa ∧ x.exponent = y.exponent := by
  have exponents : x.exponent = y.exponent :=
    le_antisymm (exponent_le_of_size_eq h.symm) (exponent_le_of_size_eq h)
  have power : (2 : ℚ) ^ y.exponent ≠ 0 := by positivity
  rw [size, size, exponents, mul_left_inj' power] at h
  exact ⟨by exact_mod_cast h, exponents⟩

/-- Numbers of one value are the same number, or the two zeros. -/
theorem same_of_value_eq {x y : Binary64} (h : x.value = y.value) : x.same y = true := by
  have sizes : x.size = y.size := by rw [← x.abs_value, h, y.abs_value]
  obtain ⟨mantissas, exponents⟩ := mantissa_eq_of_size_eq sizes
  rw [same, Bool.or_eq_true, Bool.and_eq_true, decide_eq_true_eq]
  by_cases hzero : x.isZero = true
  · refine Or.inr ⟨hzero, ?_⟩
    rwa [isZero, ← mantissas]
  · left
    have nonzero : y.size ≠ 0 := by
      rw [← sizes, Ne, size_eq_zero_iff]
      exact hzero
    have signs : x.negative = y.negative := by
      rw [value_eq, value_eq, sizes, mul_left_inj' nonzero] at h
      by_cases hx : x.negative = true
      · by_cases hy : y.negative = true
        · rw [hx, hy]
        · rw [if_pos hx, if_neg hy] at h
          norm_num at h
      · by_cases hy : y.negative = true
        · rw [if_neg hx, if_pos hy] at h
          norm_num at h
        · rw [Bool.eq_false_iff.mpr hx, Bool.eq_false_iff.mpr hy]
    obtain ⟨a, m, e, canonical⟩ := x
    obtain ⟨b, m', e', canonical'⟩ := y
    obtain rfl : a = b := signs
    obtain rfl : m = m' := mantissas
    obtain rfl : e = e' := exponents
    rfl

/-! ## Floats of a whole value -/

theorem size_eq_div (x : Binary64) : x.size = (x.magnitude.1 : ℚ) / x.magnitude.2 :=
  ((div_eq_iff x.magnitude_snd_pos.ne').mpr x.magnitude_eq).symm

theorem size_eq_natCast_iff (x : Binary64) (k : Nat) :
    x.size = k ↔ x.magnitude.1 % x.magnitude.2 = 0 ∧ x.magnitude.1 / x.magnitude.2 = k := by
  have hpos : 0 < x.magnitude.2 := by exact_mod_cast x.magnitude_snd_pos
  rw [size_eq_div, div_eq_iff x.magnitude_snd_pos.ne']
  constructor
  · intro h
    have product : x.magnitude.1 = k * x.magnitude.2 := by exact_mod_cast h
    rw [product]
    exact ⟨Nat.mul_mod_left k _, Nat.mul_div_cancel k hpos⟩
  · rintro ⟨exact, rfl⟩
    exact_mod_cast (Nat.div_mul_cancel (Nat.dvd_of_mod_eq_zero exact)).symm

theorem toInt?_of_value_eq {x : Binary64} {n : Int} (h : x.value = n) : x.toInt? = some n := by
  have hsize : x.size = n.natAbs := by rw [← x.abs_value, h, Nat.cast_natAbs, Int.cast_abs]
  obtain ⟨exact, quotient⟩ := (x.size_eq_natCast_iff _).mp hsize
  rw [value_eq, hsize] at h
  show (if x.magnitude.1 % x.magnitude.2 = 0 then
    some (if x.negative then -((x.magnitude.1 / x.magnitude.2 : Nat) : Int)
      else (x.magnitude.1 / x.magnitude.2 : Nat)) else none) = some n
  rw [if_pos exact, quotient]
  congr 1
  rw [← Int.cast_inj (α := ℚ)]
  cases hsign : x.negative with
  | true =>
    rw [hsign, if_pos rfl, neg_one_mul] at h
    rw [if_pos rfl, Int.cast_neg, Int.cast_natCast, h]
  | false =>
    rw [hsign, if_neg Bool.false_ne_true, one_mul] at h
    rw [if_neg Bool.false_ne_true, Int.cast_natCast, h]

/-! ## Floats nearest to whole numbers -/

theorem mantissa_of_ofParts? {negative : Bool} {mantissa : Nat} {exponent : Int} {x : Binary64}
    (h : ofParts? negative mantissa exponent = some x) : x.mantissa = mantissa := by
  rw [ofParts?] at h
  split at h
  · obtain rfl := Option.some.inj h
    rfl
  · cases h

theorem le_roundHalfEven (num den : Nat) : num / den ≤ roundHalfEven num den := by
  rw [roundHalfEven]
  split
  · exact Nat.le_succ _
  · exact Nat.le_refl _

theorem exponentOf_one_le (num : Nat) : exponentOf num 1 ≤ Nat.log2 num := by
  have point : Nat.log2 1 = 0 := by decide
  rw [exponentOf, point]
  refine max_le ?_ (by omega)
  split <;> omega

/-- Digits are left in front of the point when a power of two is taken out that is not above that of the
first digit. -/
theorem quotient_pos {num : Nat} (h : num ≠ 0) {exponent : Int} (small : exponent ≤ Nat.log2 num) :
    0 < (timesPowerOfTwo num 1 (-exponent)).1 / (timesPowerOfTwo num 1 (-exponent)).2 := by
  rw [timesPowerOfTwo]
  split
  · show 0 < num <<< _ / 1
    rw [Nat.div_one, Nat.shiftLeft_eq]
    positivity
  · show 0 < num / 1 <<< _
    rw [Int.neg_neg, Nat.shiftLeft_eq, Nat.one_mul]
    refine Nat.div_pos ?_ (by positivity)
    calc 2 ^ exponent.toNat ≤ 2 ^ Nat.log2 num := Nat.pow_le_pow_right (by decide) (by omega)
      _ ≤ num := Nat.log2_self_le h

/-- A whole number is rounded to zero only if it is zero. -/
theorem isZero_of_ofRatio {negative : Bool} {num : Nat} {x : Binary64}
    (h : ofRatio negative num 1 = some x) : x.isZero = decide (num = 0) := by
  rw [ofRatio] at h
  by_cases hnum : num = 0
  · rw [if_pos hnum] at h
    obtain rfl := Option.some.inj h
    rw [decide_eq_true hnum]
    rfl
  · rw [if_neg hnum] at h
    have nonzero : x.mantissa ≠ 0 := by
      dsimp only at h
      split at h
      · rw [mantissa_of_ofParts? h]
        decide
      · rw [mantissa_of_ofParts? h]
        have quotient := quotient_pos hnum (exponentOf_one_le num)
        exact (quotient.trans_le (le_roundHalfEven _ _)).ne'
    rw [isZero, decide_eq_false hnum]
    exact beq_eq_false_iff_ne.mpr nonzero

end Binary64

/-! ## Decimal numerals -/

/-- Decimal digits of which the first is a zero only where it is all there is. -/
structure AreDigits (digits : List Char) : Prop where
  nonempty : digits ≠ []
  digit : ∀ c ∈ digits, c.isDigit = true
  leading : digits.head? = some '0' → digits = ['0']

/-- The decimal numeral of a whole number: a minus if the number is below zero, and the digits that
spell its magnitude. -/
def IsNumeral (text : String) (n : Int) : Prop :=
  ∃ digits, text.toList = (if n < 0 then '-' :: digits else digits) ∧ AreDigits digits ∧
    Nat.ofDigitChars 10 digits 0 = n.natAbs

/-- The first digit is that of the number without its last digit, until one digit is left. -/
theorem head?_toDigits_of_pos (n : Nat) (h : 0 < n) : (Nat.toDigits 10 n).head? ≠ some '0' := by
  induction n using Nat.strong_induction_on with
  | _ n ih =>
    rw [Nat.toDigits_eq_if (by decide)]
    by_cases single : n < 10
    · rw [if_pos single]
      interval_cases n <;> decide
    · rw [if_neg single, List.head?_append_of_ne_nil _ Nat.toDigits_ne_nil]
      exact ih (n / 10) (by omega) (by omega)

theorem areDigits_toDigits (n : Nat) : AreDigits (Nat.toDigits 10 n) where
  nonempty := Nat.toDigits_ne_nil
  digit _ mem := Nat.isDigit_of_mem_toDigits (by decide) (by decide) mem
  leading h := by
    rcases Nat.eq_zero_or_pos n with rfl | hpos
    · rfl
    · exact absurd h (head?_toDigits_of_pos n hpos)

theorem isNumeral_toString (n : Int) : IsNumeral (toString n) n := by
  refine ⟨Nat.toDigits 10 n.natAbs, ?_, areDigits_toDigits _, Nat.ofDigitChars_ten_toDigits⟩
  cases n with
  | ofNat m =>
    rw [if_neg (by simp)]
    exact Nat.toList_repr
  | negSucc m =>
    rw [if_pos (Int.negSucc_lt_zero m)]
    show ("-" ++ Nat.repr (m + 1)).toList = _
    rw [String.toList_append, Nat.toList_repr]
    rfl

namespace Number

/-! ## Numbers of one value -/

/-- A document keeps a whole number as one if it fits 64 bits, with or without a sign. -/
def IsKept : Number → Prop
  | whole n => -2 ^ 63 ≤ n ∧ n < 2 ^ 64
  | float _ => True

theorem isZero_iff (n : Number) : n.isZero = true ↔ n.value = 0 := by
  cases n with
  | whole n =>
    rw [isZero, toFloat?, value, Int.cast_eq_zero, ← Int.natAbs_eq_zero]
    cases found : Binary64.ofRatio (decide (n < 0)) n.natAbs 1 with
    | some x => rw [Option.any_some, Binary64.isZero_of_ofRatio found, decide_eq_true_eq]
    | none =>
      -- There is no float nearest to the number, and to zero there is one.
      refine iff_of_false Bool.false_ne_true fun zero => ?_
      rw [zero] at found
      cases found
  | float x => exact x.value_eq_zero_iff.symm

/-- A number of a small whole value shows that value, however it is kept. -/
theorem cardText_of_value_eq {n : Number} {k : Int} (h : n.value = k)
    (small : k.natAbs < leastShownScaled) : n.cardText = toString k := by
  cases n with
  | whole n =>
    rw [value, Int.cast_inj] at h
    rw [h, cardText]
  | float x =>
    rw [cardText, Binary64.toInt?_of_value_eq h]
    exact if_pos small

theorem natAbs_lt_of_isKept {n : Int} (h : IsKept (whole n)) : n.natAbs < leastShownScaled := by
  have bound : 2 ^ 64 < leastShownScaled := by decide
  obtain ⟨least, most⟩ := h
  omega

theorem cardText_congr {m n : Number} (hm : m.IsKept) (hn : n.IsKept) (h : m.value = n.value) :
    m.cardText = n.cardText := by
  cases m with
  | whole k =>
    have small := natAbs_lt_of_isKept hm
    rw [cardText_of_value_eq rfl small, cardText_of_value_eq h.symm small]
  | float x =>
    cases n with
    | whole k =>
      have small := natAbs_lt_of_isKept hn
      rw [cardText_of_value_eq h small, cardText_of_value_eq rfl small]
    | float y => exact cardText_eq_of_same (Binary64.same_of_value_eq h)

end Number

namespace Value

/-- Numbers of one value are shown alike and hold alike. A whole value below `10^21` is shown by its
decimal numeral. -/
theorem number_shown_of_value (path : Path) :
    (∀ m n : Number, m.IsKept → n.IsKept → m.value = n.value →
      (number m).shown path = (number n).shown path ∧ (number m).holds = (number n).holds) ∧
    ∀ (n : Number) (k : Int), n.value = k → k.natAbs < 10 ^ 21 →
      ∃ text, (number n).shown path = .ok text ∧ IsNumeral text k := by
  constructor
  · intro m n hm hn h
    constructor
    · rw [shown, shown, Number.cardText_congr hm hn h]
    · have zeros : m.isZero = n.isZero := by
        rw [Bool.eq_iff_iff, m.isZero_iff, n.isZero_iff, h]
      rw [holds, holds, zeros]
  · intro n k h small
    refine ⟨toString k, ?_, isNumeral_toString k⟩
    rw [shown, Number.cardText_of_value_eq h small]

/-- The first whole number that does not fit 64 bits with a sign, zero with a minus, and `10^20`. -/
theorem number_shown_of_value_large :
    let large : Number := .float ⟨false, fullMantissa, 11, by decide⟩
    let zero : Number := .float (.zero true)
    let round : Number := .float ⟨false, 6103515625000000, 14, by decide⟩
    let path : Path := ⟨"n", []⟩
    (Number.whole (2 ^ 63)).IsKept ∧ (Number.whole (2 ^ 63)).value = large.value ∧
      (number (.whole (2 ^ 63))).shown path = (number large).shown path ∧
      (Number.whole 0).value = zero.value ∧
      (number (.whole 0)).holds = (number zero).holds ∧
      round.value = ((10 ^ 20 : Int) : ℚ) ∧
      ∃ text, (number round).shown path = .ok text ∧ IsNumeral text (10 ^ 20) := by
  intro large zero round path
  have kept : (Number.whole (2 ^ 63)).IsKept := ⟨by decide, by decide⟩
  have hlarge : (Number.whole (2 ^ 63)).value = large.value := by
    norm_num [large, Number.value, Binary64.value, fullMantissa]
  have hzero : (Number.whole 0).value = zero.value := by
    simp [zero, Number.value, Binary64.value_zero]
  have hround : round.value = ((10 ^ 20 : Int) : ℚ) := by
    norm_num [round, Number.value, Binary64.value]
  obtain ⟨alike, numeral⟩ := number_shown_of_value path
  exact ⟨kept, hlarge, (alike _ large kept trivial hlarge).1, hzero,
    (alike (.whole 0) zero ⟨by decide, by decide⟩ trivial hzero).2, hround,
    numeral round _ hround (by decide)⟩

end Value
end TripCards
