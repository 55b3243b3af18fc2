/-
Where a byte offset of a text lies: its line, and the character within the line.
-/

namespace TripCards

/-- Both counts start at one. -/
structure Position where
  line : Nat
  column : Nat
deriving DecidableEq, Repr

namespace Position

def start : Position := ⟨1, 1⟩

/-- A line feed ends its line; every other character takes one column, however wide it is. -/
def advance (p : Position) (c : Char) : Position :=
  if c = '\n' then ⟨p.line + 1, 1⟩ else ⟨p.line, p.column + 1⟩

/-- The characters that begin before the offset. An offset beyond the text takes all of it. -/
def charsBefore : Nat → List Char → List Char
  | _, [] => []
  | 0, _ => []
  | n + 1, c :: s => c :: charsBefore (n + 1 - c.utf8Size) s

/-- The position of the character that begins at byte `offset`. -/
def locate (source : List Char) (offset : Nat) : Position :=
  (charsBefore offset source).foldl advance start

def text (p : Position) : String :=
  "line " ++ toString p.line ++ ", column " ++ toString p.column

end Position
end TripCards
