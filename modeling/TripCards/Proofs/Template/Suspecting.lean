/-
What the quick test for tags says.

The quick test looks for both kinds of braces, in whatever order they come. A source holds a tag just
if closing braces come behind opening ones, `holdsTag_iff`, so the test misses no tag, and it is wrong
about the sources alone in which both kinds occur and no closing braces come behind opening ones:
`mayHoldTags_iff_holdsTag_or`. A source without a tag is filled to itself, whatever the data.
-/
import TripCards.Proofs.Template.Balance
import TripCards.Proofs.Template.Tiling

namespace TripCards

open Piece (Doubled TagFree)

/-- Reading the source fails at a tag, or gives a token that is not literal text. -/
def HoldsTag (source : String) : Prop :=
  (∃ bad, Token.ofSource source = .error bad) ∨
    ∃ tokens, Token.ofSource source = .ok tokens ∧
      ∃ token ∈ tokens, ∀ text, token.kind ≠ .text text

/-- Both kinds of braces occur, but no closing ones behind opening ones. -/
def HasBracesAstray (source : List Char) : Prop :=
  Doubled '{' source ∧ Doubled '}' source ∧ TagFree source

variable {source : String}

namespace Token

theorem ofSource_of_tagFree (h : TagFree source.toList) :
    ofSource source = .ok (ofText 0 source.toList) := by
  have read := ofPieces_append_text (.nil h) 0
  rw [ofPieces_nil, List.append_nil] at read
  rw [ofSource, read, Except.map, List.append_nil]

/-- Behind the text that a source begins with stands a tag, with a meaning or without. -/
theorem ofSource_of_not_tagFree (h : ¬ TagFree source.toList) :
    (∃ bad, ofSource source = .error bad) ∨
      ∃ tokens tag offset, ofSource source = .ok tokens ∧ ⟨.tag tag, offset⟩ ∈ tokens := by
  obtain ⟨text, rest, whole, leads⟩ := Piece.exists_leads source.toList
  rw [ofSource, whole, ofPieces_append_text leads]
  cases leads with
  | nil free =>
    rw [List.append_nil] at whole
    exact absurd (whole ▸ free) h
  | @tag inside rest opens =>
    rw [ofPieces_append_tag opens.nil]
    cases Tag.read inside with
    | error fault => exact .inl ⟨_, rfl⟩
    | ok tag =>
      cases ofPieces _ (Piece.ofSource rest) with
      | error bad => exact .inl ⟨bad, rfl⟩
      | ok others =>
        right
        refine ⟨_, tag, 0 + Text.byteLength text, rfl, ?_⟩
        simp

end Token

/-! ## Sources that hold a tag -/

theorem not_holdsTag_of_tagFree (h : TagFree source.toList) : ¬ HoldsTag source := by
  rw [HoldsTag, Token.ofSource_of_tagFree h]
  rintro (⟨bad, fails⟩ | ⟨tokens, read, token, mem, other⟩)
  · cases fails
  · cases read
    rw [Token.ofText] at mem
    by_cases empty : source.toList.isEmpty = true
    · rw [if_pos empty] at mem
      exact absurd mem List.not_mem_nil
    · rw [if_neg empty, List.mem_singleton] at mem
      exact other _ (congrArg Token.kind mem)

theorem holdsTag_iff : HoldsTag source ↔ ¬ TagFree source.toList := by
  constructor
  · intro holds free
    exact not_holdsTag_of_tagFree free holds
  · intro h
    rcases Token.ofSource_of_not_tagFree h with fails | ⟨tokens, tag, offset, read, mem⟩
    · exact .inl fails
    · refine .inr ⟨tokens, read, _, mem, ?_⟩
      intro text other
      cases other

/-- A source without a tag is filled to itself. -/
theorem fillSource_of_tagFree (h : TagFree source.toList) (fields : Fields) :
    fillSource source fields = .ok source := by
  have read := Token.ofSource_of_tagFree h
  rw [Token.ofText] at read
  by_cases empty : source.toList.isEmpty = true
  · rw [if_pos empty] at read
    have parses : Template.parse source = .ok ⟨[]⟩ :=
      (Template.parse_eq_ok_iff_ofTokens read _).mpr (Template.ofTokens_eq_ok_iff.mpr ⟨rfl, by decide⟩)
    have nothing : source = "" := by simpa using empty
    rw [fillSource, parses, nothing]
    rfl
  · rw [if_neg empty, String.ofList_toList] at read
    have parses : Template.parse source = .ok ⟨[.text source]⟩ :=
      (Template.parse_eq_ok_iff_ofTokens read _).mpr
        (Template.ofTokens_eq_ok_iff.mpr ⟨rfl, Nat.zero_le _⟩)
    rw [fillSource, parses]
    show Except.ok ("" ++ source) = _
    rw [String.empty_append]

/-! ## The quick test -/

theorem mayHoldTags_iff :
    mayHoldTags source = true ↔ Doubled '{' source.toList ∧ Doubled '}' source.toList := by
  have found (c : Char) : (Piece.cutAtFirst c source.toList).isSome = true ↔
      Doubled c source.toList := by
    rw [Option.isSome_iff_ne_none, ne_eq, Piece.cutAtFirst_eq_none_iff, Classical.not_not]
  rw [mayHoldTags, Bool.and_eq_true, found, found]

theorem doubled_of_not_tagFree {s : List Char} (h : ¬ TagFree s) :
    Doubled '{' s ∧ Doubled '}' s := by
  simp only [TagFree, ne_eq, not_forall, Classical.not_not] at h
  obtain ⟨before, inside, after, rfl⟩ := h
  constructor
  · exact ⟨before, inside ++ '}' :: '}' :: after, by simp⟩
  · exact ⟨before ++ '{' :: '{' :: inside, after, by simp⟩

/-- The test says yes if the source holds a tag, and else if its braces have gone astray. If it says no
the source is filled to itself, and so is one with braces astray. -/
theorem mayHoldTags_iff_holdsTag_or (source : String) :
    (mayHoldTags source = true ↔ HoldsTag source ∨ HasBracesAstray source.toList) ∧
    (HasBracesAstray source.toList → ¬ HoldsTag source) ∧
    ((mayHoldTags source = false ∨ HasBracesAstray source.toList) →
      ∀ fields, fillSource source fields = .ok source) := by
  have answer : mayHoldTags source = true ↔ HoldsTag source ∨ HasBracesAstray source.toList := by
    rw [mayHoldTags_iff, holdsTag_iff, HasBracesAstray]
    by_cases free : TagFree source.toList
    · simp [free]
    · simp [free, doubled_of_not_tagFree free]
  refine ⟨answer, ?_, ?_⟩
  · intro astray
    exact not_holdsTag_of_tagFree astray.2.2
  · intro h
    apply fillSource_of_tagFree
    rcases h with no | astray
    · by_contra holds
      rw [answer.mpr (.inl (holdsTag_iff.mpr holds))] at no
      cases no
    · exact astray.2.2

/-- Closing braces come before opening ones. -/
theorem not_mayHoldTags_iff_holdsTag :
    ¬ (mayHoldTags "\x7d\x7d\x7b\x7b" = true ↔ HoldsTag "\x7d\x7d\x7b\x7b") := by
  have answer : mayHoldTags "\x7d\x7d\x7b\x7b" = true := by decide
  have holdsNot : ¬ HoldsTag "\x7d\x7d\x7b\x7b" := by
    have opened : Piece.cutAtFirst '{' ['}', '}', '{', '{'] = some (['}', '}'], []) := by decide
    exact not_holdsTag_of_tagFree (Piece.tagFree_of_cutAtFirst opened (by decide))
  intro same
  exact holdsNot (same.mp answer)

end TripCards
