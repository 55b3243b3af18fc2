/-
A source cut into literal text and tags, before any tag is given a meaning.

A tag runs from two opening braces to the nearest two closing braces after them. Opening braces
without closing braces after them are literal text, and so are those with other opening braces
between them and the closing ones: the last pair before the closing braces opens the tag.
-/

namespace TripCards

inductive Piece where
  | literal (text : List Char)
  | tag (inside : List Char)
deriving DecidableEq, Repr

namespace Piece

/-- What stands before and after the first place where `c` is written twice in a row. -/
def cutAtFirst (c : Char) : List Char → Option (List Char × List Char)
  | a :: b :: s =>
      if a = c ∧ b = c then some ([], s)
      else (cutAtFirst c (b :: s)).map fun (before, after) => (a :: before, after)
  | _ => none

/-- What stands before and after the last place where `c` is written twice in a row. -/
def cutAtLast (c : Char) : List Char → Option (List Char × List Char)
  | a :: b :: s =>
      match cutAtLast c (b :: s) with
      | some (before, after) => some (a :: before, after)
      | none => if a = c ∧ b = c then some ([], s) else none
  | _ => none

theorem eq_of_cutAtFirst {c : Char} {s before after : List Char}
    (h : cutAtFirst c s = some (before, after)) : s = before ++ c :: c :: after := by
  fun_induction cutAtFirst c s generalizing before after with
  | case1 a b s hc => simp_all
  | case2 a b s hc ih =>
    simp only [Option.map_eq_some_iff, Prod.mk.injEq] at h
    obtain ⟨⟨x, y⟩, hxy, rfl, rfl⟩ := h
    simpa using ih hxy
  | case3 s hs => simp at h

theorem eq_of_cutAtLast {c : Char} {s before after : List Char}
    (h : cutAtLast c s = some (before, after)) : s = before ++ c :: c :: after := by
  fun_induction cutAtLast c s generalizing before after with
  | case1 a b s x y hxy ih =>
    simp only [Option.some.injEq, Prod.mk.injEq] at h
    obtain ⟨rfl, rfl⟩ := h
    simpa using ih hxy
  | case2 a b s hnone hc => simp_all
  | case3 a b s hnone hc => simp at h
  | case4 s hs => simp at h

theorem length_of_cutAtFirst {c : Char} {s before after : List Char}
    (h : cutAtFirst c s = some (before, after)) : after.length < s.length := by
  rw [eq_of_cutAtFirst h]
  simp
  omega

/-- Literal text is never empty. -/
def literals (text : List Char) : List Piece :=
  if text.isEmpty then [] else [literal text]

/-- The pieces of a source, in order. Every source has them. -/
def ofSource (s : List Char) : List Piece :=
  match _opened : cutAtFirst '{' s with
  | none => literals s
  | some (before, inside) =>
    match _closed : cutAtFirst '}' inside with
    | none => literals s
    | some (body, rest) =>
      let pieces :=
        match cutAtLast '{' body with
        | none => literals before ++ [tag body]
        | some (stray, body) => [literal (before ++ '{' :: '{' :: stray), tag body]
      pieces ++ ofSource rest
termination_by s.length
decreasing_by
  exact Nat.lt_trans (length_of_cutAtFirst _closed) (length_of_cutAtFirst _opened)

/-- The piece as it stands in the source. -/
def toChars : Piece → List Char
  | literal text => text
  | tag inside => '{' :: '{' :: inside ++ ['}', '}']

theorem toChars_literals (text : List Char) : (literals text).flatMap toChars = text := by
  unfold literals
  split <;> simp_all [toChars]

/-- Cutting a source into pieces loses nothing. -/
theorem toChars_ofSource (s : List Char) : (ofSource s).flatMap toChars = s := by
  fun_induction ofSource s with
  | case1 s opened => exact toChars_literals s
  | case2 s before inside opened closed => exact toChars_literals s
  | case3 s before inside opened body rest closed pieces ih =>
    rw [List.flatMap_append, ih, eq_of_cutAtFirst opened, eq_of_cutAtFirst closed]
    simp only [pieces]
    split
    · simp [toChars_literals, toChars]
    · rename_i stray body' last
      simp [toChars, eq_of_cutAtLast last]

end Piece
end TripCards
