/-
Dotted paths: the name of a field, then the names to follow inside it.
-/

namespace TripCards

/-- A path has at least one name. A name may be empty, and then stands for a field whose key is
the empty text. -/
structure Path where
  head : String
  tail : List String
deriving DecidableEq, Repr

namespace Path

/-- The parts of a text between its dots; a text without dots is one part. -/
def splitDots : List Char → List Char × List (List Char)
  | [] => ([], [])
  | c :: s =>
      let (first, others) := splitDots s
      if c = '.' then ([], first :: others) else (c :: first, others)

def joinDots (first : List Char) : List (List Char) → List Char
  | [] => first
  | next :: others => first ++ '.' :: joinDots next others

/-- Splitting at dots loses nothing. -/
theorem joinDots_splitDots (s : List Char) :
    joinDots (splitDots s).1 (splitDots s).2 = s := by
  induction s with
  | nil => rfl
  | cons c s ih =>
    by_cases h : c = '.'
    · simp only [splitDots, h, if_true, joinDots, List.nil_append, ih]
    · simp only [splitDots, if_neg h]
      generalize splitDots s = parts at ih
      obtain ⟨first, others⟩ := parts
      cases others <;> simp_all [joinDots]

def ofChars (s : List Char) : Path :=
  let (first, others) := splitDots s
  ⟨String.ofList first, others.map String.ofList⟩

def ofString (s : String) : Path :=
  ofChars s.toList

def toChars (p : Path) : List Char :=
  joinDots p.head.toList (p.tail.map String.toList)

/-- The path as it is written in a template. -/
def text (p : Path) : String :=
  String.ofList p.toChars

theorem toChars_ofChars (s : List Char) : (ofChars s).toChars = s := by
  have unchanged : String.toList ∘ String.ofList = id := funext fun _ => String.toList_ofList
  simp only [ofChars, toChars, String.toList_ofList, List.map_map, unchanged, List.map_id]
  exact joinDots_splitDots s

theorem text_ofString (s : String) : (ofString s).text = s := by
  rw [text, ofString, toChars_ofChars, String.ofList_toList]

end Path
end TripCards
