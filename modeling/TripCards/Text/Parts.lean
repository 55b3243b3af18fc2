/-
Texts in parts that a character separates.
-/

namespace TripCards
namespace Text

/-- The parts between the places where `c` stands; one more than there are such places. -/
def splitAt (c : Char) : List Char → List (List Char)
  | [] => [[]]
  | d :: s =>
    match splitAt c s with
    | [] => [[]]
    | first :: others => if d = c then [] :: first :: others else (d :: first) :: others

theorem splitAt_ne_nil (c : Char) (s : List Char) : splitAt c s ≠ [] := by
  cases s with
  | nil => simp [splitAt]
  | cons d s =>
    simp only [splitAt]
    split
    · simp
    · split <;> simp

/-- Splitting loses nothing. -/
theorem intercalate_splitAt (c : Char) (s : List Char) :
    List.intercalate [c] (splitAt c s) = s := by
  induction s with
  | nil => rfl
  | cons d s ih =>
    simp only [splitAt]
    split
    · rename_i h
      exact absurd h (splitAt_ne_nil c s)
    · rename_i first others h
      rw [h] at ih
      by_cases hd : d = c
      · subst hd
        simp only [if_true, List.intercalate_cons_cons, ih]
        simp
      · cases others <;> simp_all [List.intercalate]

/-- What stands before the first place of `c`, and what stands behind it. -/
def cutAt? (c : Char) : List Char → Option (List Char × List Char)
  | [] => none
  | d :: s =>
    if d = c then some ([], s) else (cutAt? c s).map fun (before, behind) => (d :: before, behind)

theorem cutAt?_eq (c : Char) (s : List Char) :
    cutAt? c s =
      if c ∈ s then some (s.takeWhile (· != c), (s.dropWhile (· != c)).tail) else none := by
  induction s with
  | nil => rfl
  | cons d s ih =>
    by_cases here : d = c
    · simp [cutAt?, here]
    · have other : (d != c) = true := by simpa using here
      rw [cutAt?, if_neg here, ih, List.takeWhile_cons_of_pos (p := (· != c)) other,
        List.dropWhile_cons_of_pos (p := (· != c)) other]
      by_cases later : c ∈ s
      · rw [if_pos later, if_pos (List.mem_cons_of_mem d later), Option.map_some]
      · rw [if_neg later, if_neg (by simp [Ne.symm here, later]), Option.map_none]

end Text
end TripCards
