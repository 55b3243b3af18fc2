/-
Positions of offsets.

An offset that a character begins at is the number of bytes in front of it. `locate_append` says where
such an offset lies, by what is in front of it: line feeds make the line, and the characters behind
the last one make the column.
-/
import Mathlib.Data.List.Induction
import TripCards.Text.Bytes
import TripCards.Text.Position

namespace TripCards
namespace Text

/-- The bytes of a text are those of its characters. -/
theorem byteLength_eq_utf8ByteSize (s : List Char) :
    byteLength s = (String.ofList s).utf8ByteSize := by
  induction s with
  | nil => rfl
  | cons c s ih =>
    have split : String.ofList (c :: s) = String.singleton c ++ String.ofList s := by
      rw [← String.toList_inj]
      simp
    rw [byteLength_cons, ih, split, String.utf8ByteSize_append, String.utf8ByteSize_singleton]

theorem utf8ByteSize_of_toList {text : String} {s : List Char} (h : text.toList = s) :
    text.utf8ByteSize = byteLength s := by
  rw [byteLength_eq_utf8ByteSize, ← h, String.ofList_toList]

/-- A character begins, or the text ends, behind every part that the text begins with. -/
theorem isValid_of_append {text : String} {before rest : List Char}
    (h : text.toList = before ++ rest) : String.Pos.Raw.IsValid text ⟨byteLength before⟩ := by
  apply String.Pos.Raw.isValid_iff_exists_append.mpr
  refine ⟨String.ofList before, String.ofList rest, ?_, ?_⟩
  · rw [← String.ofList_append, ← h, String.ofList_toList]
  · rw [byteLength_eq_utf8ByteSize]
    rfl

end Text

namespace Position

open Text (byteLength)

/-- The position of what comes next behind a text. -/
def behind (text : List Char) : Position :=
  ⟨text.count '\n' + 1, (text.reverse.takeWhile (· ≠ '\n')).length + 1⟩

theorem behind_concat (text : List Char) (c : Char) :
    behind (text ++ [c]) = (behind text).advance c := by
  by_cases feed : c = '\n'
  · simp [behind, advance, feed]
  · simp [behind, advance, feed]

theorem foldl_advance (text : List Char) : text.foldl advance start = behind text := by
  induction text using List.reverseRecOn with
  | nil => rfl
  | append_singleton text c ih => rw [List.foldl_append, ih, behind_concat]; rfl

theorem charsBefore_append (text rest : List Char) :
    charsBefore (byteLength text) (text ++ rest) = text := by
  induction text with
  | nil => cases rest <;> rfl
  | cons c text ih =>
    have bytes_pos : byteLength (c :: text) ≠ 0 := by
      have wide := c.utf8Size_pos
      rw [Text.byteLength_cons]
      omega
    obtain ⟨n, bytes⟩ := Nat.exists_eq_add_one_of_ne_zero bytes_pos
    have behindFirst : n + 1 - c.utf8Size = byteLength text := by
      rw [← bytes, Text.byteLength_cons, Nat.add_sub_cancel_left]
    rw [bytes, List.cons_append, charsBefore, behindFirst, ih]

theorem locate_append (text rest : List Char) :
    locate (text ++ rest) (byteLength text) = behind text := by
  rw [locate, charsBefore_append, foldl_advance]

end Position
end TripCards
