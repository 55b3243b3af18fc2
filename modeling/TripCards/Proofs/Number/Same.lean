/-
Numbers that are the same.

Two numbers are the same if they are equal, and so are the two zeros among the floats. All that is
made of a number is the same for both zeros.
-/
import TripCards.Proofs.Number.Value

namespace TripCards

namespace Binary64

/-- The only numbers without a mantissa are the two zeros. -/
theorem eq_zero_of_isZero {x : Binary64} (h : x.isZero = true) : x = zero x.negative := by
  obtain ⟨negative, mantissa, exponent, canonical⟩ := x
  obtain rfl : mantissa = 0 := by simpa [isZero] using h
  obtain rfl : exponent = -1074 := canonical.2.2.2 (by decide)
  rfl

theorem eq_or_zeros_of_same {x y : Binary64} (h : x.same y = true) :
    x = y ∨ ∃ a b, x = zero a ∧ y = zero b := by
  rw [same, Bool.or_eq_true, Bool.and_eq_true, decide_eq_true_eq] at h
  rcases h with equal | ⟨hx, hy⟩
  · exact Or.inl equal
  · exact Or.inr ⟨_, _, eq_zero_of_isZero hx, eq_zero_of_isZero hy⟩

theorem value_zero (negative : Bool) : (zero negative).value = 0 := by
  rw [value, zero, Nat.cast_zero, zero_mul, mul_zero]

end Binary64

namespace Number

theorem cardText_zero (negative : Bool) : cardText (.float (.zero negative)) = "0" := by
  cases negative <;> decide

/-- What gives both zeros the same gives the same to all numbers that are the same. -/
theorem eq_of_same {α : Type} (f : Number → α)
    (zeros : ∀ a b, f (.float (.zero a)) = f (.float (.zero b))) {m n : Number}
    (h : m.same n = true) : f m = f n := by
  cases m with
  | whole m =>
    cases n with
    | whole n => rw [show m = n by simpa [same] using h]
    | float y => cases h
  | float x =>
    cases n with
    | whole n => cases h
    | float y =>
      rcases Binary64.eq_or_zeros_of_same h with rfl | ⟨a, b, rfl, rfl⟩
      · rfl
      · exact zeros a b

variable {m n : Number}

theorem isZero_eq_of_same (h : m.same n = true) : m.isZero = n.isZero :=
  eq_of_same isZero (fun _ _ => rfl) h

theorem cardText_eq_of_same (h : m.same n = true) : m.cardText = n.cardText :=
  eq_of_same cardText (fun a b => (cardText_zero a).trans (cardText_zero b).symm) h

theorem value_eq_of_same (h : m.same n = true) : m.value = n.value :=
  eq_of_same value (fun a b => (Binary64.value_zero a).trans (Binary64.value_zero b).symm) h

theorem isBelow_eq_of_same (h : m.same n = true) : m.isBelow = n.isBelow := by
  funext bound
  rw [Bool.eq_iff_iff, isBelow_iff, isBelow_iff, value_eq_of_same h]

theorem isAbove_eq_of_same (h : m.same n = true) : m.isAbove = n.isAbove := by
  funext bound
  rw [Bool.eq_iff_iff, isAbove_iff, isAbove_iff, value_eq_of_same h]

end Number
end TripCards
