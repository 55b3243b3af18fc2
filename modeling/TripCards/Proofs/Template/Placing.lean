/-
Positions tell offsets apart.

Positions come in the order of the offsets that they are the positions of, `precedes_locate`, and each
leads back to its offset, `offsetIn_locate`: the line feeds before its line are passed, and then the
characters before its column. Both are seen from a text and what it goes on with: a character that is
read moves the position on, and what a line feed leaves behind is never looked at again. So no two
tags of a source share a position, `locate_identifies`.
-/
import Mathlib.Data.List.Nodup
import TripCards.Proofs.Template.Tiling
import TripCards.Proofs.Text.Locating

namespace TripCards
namespace Position

open Text (byteLength)

/-! ## The order of positions -/

/-- Positions come in the order of their lines, and on one line in the order of their columns. -/
def Precedes (p q : Position) : Prop :=
  Prod.Lex (· < ·) (· < ·) (p.line, p.column) (q.line, q.column)

theorem precedes_iff {p q : Position} :
    p.Precedes q ↔ p.line < q.line ∨ p.line = q.line ∧ p.column < q.column :=
  Prod.lex_def

theorem Precedes.trans {p q r : Position} (h : p.Precedes q) (next : q.Precedes r) :
    p.Precedes r := by
  rw [precedes_iff] at h next ⊢
  omega

/-- Every character leads on, a line feed as well as any other. -/
theorem precedes_advance (p : Position) (c : Char) : p.Precedes (p.advance c) := by
  rw [precedes_iff, advance]
  by_cases feed : c = '\n'
  · rw [if_pos feed]
    left
    show p.line < p.line + 1
    omega
  · rw [if_neg feed]
    right
    show p.line = p.line ∧ p.column < p.column + 1
    omega

theorem precedes_foldl_advance {text : List Char} (h : text ≠ []) (p : Position) :
    p.Precedes (text.foldl advance p) := by
  induction text generalizing p with
  | nil => exact absurd rfl h
  | cons c text ih =>
    rw [List.foldl_cons]
    by_cases last : text = []
    · rw [last]
      exact p.precedes_advance c
    · exact (p.precedes_advance c).trans (ih last _)

theorem behind_precedes_append {more : List Char} (h : more ≠ []) (text : List Char) :
    (behind text).Precedes (behind (text ++ more)) := by
  rw [← foldl_advance, ← foldl_advance, List.foldl_append]
  exact precedes_foldl_advance h _

/-! ## Back to the offset -/

/-- What is left of a text behind a number of line feeds. -/
def dropLines : Nat → List Char → List Char
  | 0, s => s
  | _ + 1, [] => []
  | n + 1, c :: s => if c = '\n' then dropLines n s else dropLines (n + 1) s

/-- The offset that a position leads to: as many line feeds are passed as there are lines before it,
and then as many characters as there are columns before it. -/
def offsetIn (source : List Char) (p : Position) : Nat :=
  byteLength source - byteLength ((dropLines (p.line - 1) source).drop (p.column - 1))

/-- The characters of a text behind its last line feed. -/
def lastLine (text : List Char) : List Char :=
  (text.reverse.takeWhile (· ≠ '\n')).reverse

theorem lastLine_of_not_mem {text : List Char} (h : '\n' ∉ text) : lastLine text = text := by
  have all : text.reverse.takeWhile (· ≠ '\n') = text.reverse := by
    rw [List.takeWhile_eq_self_iff]
    intro c hc
    have other : c ≠ '\n' := fun feed => h (feed ▸ List.mem_reverse.mp hc)
    simpa using other
  rw [lastLine, all, List.reverse_reverse]

/-- No line goes on behind a line feed. -/
theorem lastLine_cons_of_mem {text : List Char} (h : '\n' ∈ text) (c : Char) :
    lastLine (c :: text) = lastLine text := by
  have stops : (text.reverse.takeWhile (· ≠ '\n')).length ≠ text.reverse.length := by
    intro all
    have whole := (List.takeWhile_sublist _).eq_of_length all
    rw [List.takeWhile_eq_self_iff] at whole
    have other := whole '\n' (List.mem_reverse.mpr h)
    simp at other
  rw [lastLine, List.reverse_cons, List.takeWhile_append, if_neg stops, lastLine]

theorem lastLine_feed_cons {text : List Char} (h : '\n' ∉ text) :
    lastLine ('\n' :: text) = text := by
  have all := lastLine_of_not_mem h
  rw [lastLine, List.reverse_eq_iff] at all
  rw [lastLine, List.reverse_cons, List.takeWhile_append, all]
  simp

theorem dropLines_append (text rest : List Char) :
    dropLines (text.count '\n') (text ++ rest) = lastLine text ++ rest := by
  induction text with
  | nil => simp [dropLines, lastLine]
  | cons c text ih =>
    rw [List.cons_append]
    by_cases later : '\n' ∈ text
    · obtain ⟨n, feeds⟩ : ∃ n, text.count '\n' = n + 1 :=
        Nat.exists_eq_add_one.mpr (List.count_pos_iff.mpr later)
      rw [lastLine_cons_of_mem later, ← ih]
      by_cases feed : c = '\n'
      · rw [feed, List.count_cons_self, feeds, dropLines, if_pos rfl]
      · rw [List.count_cons_of_ne feed, feeds, dropLines, if_neg feed]
    · have feeds : text.count '\n' = 0 := List.count_eq_zero.mpr later
      by_cases feed : c = '\n'
      · rw [feed, List.count_cons_self, feeds, dropLines, if_pos rfl, dropLines,
          lastLine_feed_cons later]
      · have none : '\n' ∉ c :: text := by simp [later, Ne.symm feed]
        rw [List.count_cons_of_ne feed, feeds, dropLines, lastLine_of_not_mem none,
          List.cons_append]

theorem offsetIn_behind (text rest : List Char) :
    offsetIn (text ++ rest) (behind text) = byteLength text := by
  have line : (behind text).line - 1 = text.count '\n' := by simp [behind]
  have column : (behind text).column - 1 = (lastLine text).length := by simp [behind, lastLine]
  rw [offsetIn, line, column, dropLines_append, List.drop_left, Text.byteLength_append,
    Nat.add_sub_cancel]

/-! ## Offsets of a source -/

/-- An offset at which a character begins has the text in front of it, and the text behind it. -/
theorem exists_append_of_isValid {source : String} {a : Nat}
    (h : String.Pos.Raw.IsValid source ⟨a⟩) :
    ∃ before rest, source.toList = before ++ rest ∧ a = byteLength before := by
  obtain ⟨before, rest, whole, place⟩ := String.Pos.Raw.isValid_iff_exists_append.mp h
  refine ⟨before.toList, rest.toList, ?_, ?_⟩
  · rw [whole, String.toList_append]
  · rw [Text.byteLength_eq_utf8ByteSize, String.ofList_toList]
    exact congrArg String.Pos.Raw.byteIdx place

theorem precedes_locate {source : String} {a b : Nat} (ha : String.Pos.Raw.IsValid source ⟨a⟩)
    (hb : String.Pos.Raw.IsValid source ⟨b⟩) (less : a < b) :
    (locate source.toList a).Precedes (locate source.toList b) := by
  obtain ⟨before, rest, whole, rfl⟩ := exists_append_of_isValid ha
  obtain ⟨further, others, again, rfl⟩ := exists_append_of_isValid hb
  rcases List.append_eq_append_iff.mp (whole.symm.trans again) with ⟨more, rfl, -⟩ | ⟨more, rfl, -⟩
  · have leads : more ≠ [] := by
      rintro rfl
      simp at less
    rw [again, locate_append, ← again, whole, locate_append]
    exact behind_precedes_append leads before
  · -- The second text would be the shorter one.
    rw [Text.byteLength_append] at less
    omega

theorem offsetIn_locate {source : String} {a : Nat} (h : String.Pos.Raw.IsValid source ⟨a⟩) :
    offsetIn source.toList (locate source.toList a) = a := by
  obtain ⟨before, rest, whole, rfl⟩ := exists_append_of_isValid h
  rw [whole, locate_append, offsetIn_behind]

theorem charsBefore_of_byteLength_le {s : List Char} {a : Nat} (h : byteLength s ≤ a) :
    charsBefore a s = s := by
  induction s generalizing a with
  | nil => cases a <;> rfl
  | cons c s ih =>
    rw [Text.byteLength_cons] at h
    have wide := c.utf8Size_pos
    obtain ⟨n, rfl⟩ : ∃ n, a = n + 1 := Nat.exists_eq_add_one.mpr (by omega)
    rw [charsBefore, ih (by omega)]

/-- An offset beyond the text lies where the text ends. -/
theorem locate_of_byteLength_le {s : List Char} {a : Nat} (h : byteLength s ≤ a) :
    locate s a = locate s (byteLength s) := by
  rw [locate, locate, charsBefore_of_byteLength_le h,
    charsBefore_of_byteLength_le (Nat.le_refl _)]

end Position

namespace Token

open Text (byteLength)

variable {source : String} {tokens : List Token}

/-- A token begins where a character does. -/
theorem Tiles.isValid_offset (h : Tiles 0 source.toList tokens) {token : Token}
    (mem : token ∈ tokens) : String.Pos.Raw.IsValid source ⟨token.offset⟩ := by
  obtain ⟨before, span, rest, whole, -, place⟩ := h.exists_span token mem
  rw [List.append_assoc] at whole
  rw [place, Nat.zero_add]
  exact Text.isValid_of_append whole

theorem Tiles.eq_of_offset_eq {offset : Nat} {s : List Char} (h : Tiles offset s tokens)
    {token other : Token} (mem : token ∈ tokens) (memToo : other ∈ tokens)
    (same : token.offset = other.offset) : token = other := by
  have distinct : (tokens.map Token.offset).Nodup := by
    rw [List.Nodup, List.pairwise_map]
    exact h.pairwise_offset_lt.imp fun less => Nat.ne_of_lt less
  exact List.inj_on_of_nodup_map distinct mem memToo same

end Token

namespace Position

open Text (byteLength)

/-- Of two offsets at which a character begins, or the text ends, the lesser has the earlier position,
and the position leads back to the offset. No two tokens share a position. An offset beyond the text
has the position of its end. -/
theorem locate_identifies (source : String) :
    (∀ a b, String.Pos.Raw.IsValid source ⟨a⟩ → String.Pos.Raw.IsValid source ⟨b⟩ → a < b →
      (locate source.toList a).Precedes (locate source.toList b)) ∧
    (∀ a, String.Pos.Raw.IsValid source ⟨a⟩ →
      offsetIn source.toList (locate source.toList a) = a) ∧
    (∀ tokens, Token.ofSource source = .ok tokens → ∀ token ∈ tokens, ∀ other ∈ tokens,
      locate source.toList token.offset = locate source.toList other.offset → token = other) ∧
    ∀ a, source.utf8ByteSize ≤ a →
      locate source.toList a = locate source.toList source.utf8ByteSize := by
  refine ⟨fun a b => precedes_locate, fun a => offsetIn_locate, ?_, ?_⟩
  · intro tokens read token mem other memToo same
    have tiles := (Token.isTiling_of_ofPieces _ 0 tokens read).tiles
    apply tiles.eq_of_offset_eq mem memToo
    rw [← offsetIn_locate (tiles.isValid_offset mem), same,
      offsetIn_locate (tiles.isValid_offset memToo)]
  · intro a beyond
    have size : source.utf8ByteSize = byteLength source.toList := by
      rw [Text.byteLength_eq_utf8ByteSize, String.ofList_toList]
    rw [size] at beyond ⊢
    exact locate_of_byteLength_le beyond

/-- A line with a wide character, and then a line with two tags. -/
def twoTags : String :=
  "é\n" ++ braced "a" ++ braced "b"

/-- The tags begin at the bytes 3 and 8, in the first and in the sixth column. -/
theorem locate_identifies_twoTags :
    String.Pos.Raw.IsValid twoTags ⟨3⟩ ∧ String.Pos.Raw.IsValid twoTags ⟨8⟩ ∧
      locate twoTags.toList 3 = ⟨2, 1⟩ ∧ locate twoTags.toList 8 = ⟨2, 6⟩ ∧
      (⟨2, 1⟩ : Position).Precedes ⟨2, 6⟩ ∧ offsetIn twoTags.toList ⟨2, 6⟩ = 8 ∧
      locate twoTags.toList 20 = locate twoTags.toList 13 := by
  have first : String.Pos.Raw.IsValid twoTags ⟨3⟩ := by decide
  have second : String.Pos.Raw.IsValid twoTags ⟨8⟩ := by decide
  have locateFirst : locate twoTags.toList 3 = ⟨2, 1⟩ := by decide
  have locateSecond : locate twoTags.toList 8 = ⟨2, 6⟩ := by decide
  obtain ⟨ordered, leadsBack, -, beyond⟩ := locate_identifies twoTags
  have less := ordered 3 8 first second (by decide)
  have back := leadsBack 8 second
  rw [locateFirst, locateSecond] at less
  rw [locateSecond] at back
  exact ⟨first, second, locateFirst, locateSecond, less, back, beyond 20 (by decide)⟩

end Position
end TripCards
