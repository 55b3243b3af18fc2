/-
Sources that were read and are written back.

A source and the template that is read from it, written back, differ in the blanks inside of tags and
in nothing else: the texts are the same, and so are the tags that they stand between. So what was a
tiling stays one, wherever the texts have braces of their own, and `parse_source_of_parse` says that
the written source is read as the same template.
-/
import TripCards.Proofs.Template.Written

namespace TripCards

/-- A tag that is spelled can be written. -/
theorem Tag.Spells.isPlain {tag : Tag} {s : List Char} (h : Tag.Spells tag s) : tag.IsPlain := by
  cases h with
  | slot plain notElse => exact ⟨plain, notElse⟩
  | opening _ _ _ plain => exact plain
  | closing => trivial

namespace Token

variable {offset : Nat} {s : List Char} {tokens : List Token}

theorem IsTiling.isReadable (h : IsTiling offset s tokens) :
    ∀ kind ∈ tokens.map Token.kind, kind.IsReadable := by
  rw [List.forall_mem_map]
  rintro ⟨kind, place⟩ mem
  obtain ⟨_, span, _, _, covers, _⟩ := h.tiles.exists_span _ mem
  cases covers with
  | text notEmpty => exact ⟨by simpa using notEmpty, h.tagFree _ mem _ rfl⟩
  | tag spells => exact spells.isPlain

theorem IsTiling.isChain (h : IsTiling offset s tokens) :
    (tokens.map Token.kind).IsChain Adjacent :=
  (List.isChain_map Token.kind).mpr h.adjacent

end Token

namespace Template

/-- The template of a source is read again from what it is written as. That source is written back as
it is, and fills as the first one does. -/
theorem parse_source_of_parse {source : String} {template : Template}
    (h : parse source = .ok template) :
    parse template.source = .ok template ∧
      (parse template.source).map Template.source = .ok template.source ∧
      ∀ fields, fillSource template.source fields = fillSource source fields := by
  have again : parse template.source = .ok template := by
    obtain ⟨tokens, read, tree⟩ := exists_tokens_of_parse h
    obtain ⟨kinds, height⟩ := ofTokens_eq_ok_iff.mp tree
    have tiling := Token.isTiling_of_ofPieces source.toList 0 tokens read
    have written := Token.ofSource_join tiling.isReadable tiling.isChain
    rw [← kinds] at written
    refine (parse_eq_ok_iff_ofTokens written template).mpr (ofTokens_eq_ok_iff.mpr ⟨?_, height⟩)
    exact (Token.map_kind_placed 0 template.tokens).symm
  refine ⟨again, ?_, fun fields => ?_⟩
  · rw [again]
    rfl
  · rw [fillSource, fillSource, again, h]

/-- Braces that open no tag, in front of tags and behind them, and blanks in tags. -/
def looseSource : String :=
  "\x7b\x7b " ++ braced "\x7b\x7b# if\n a " ++ "\x7b\x7b\x7b" ++ braced "\tb " ++ "\x7d" ++
    braced " / if" ++ " \x7b\x7b"

theorem parse_source_of_parse_looseSource :
    let template : Template := ⟨[.text "\x7b\x7b \x7b\x7b",
      .block .conditional ⟨"a", []⟩ [.text "\x7b\x7b\x7b", .slot ⟨"b", []⟩, .text "\x7d"],
      .text " \x7b\x7b"]⟩
    parse looseSource = .ok template ∧
      template.source = "\x7b\x7b \x7b\x7b" ++ braced "#if a" ++ "\x7b\x7b\x7b" ++ braced "b" ++
        "\x7d" ++ braced "/if" ++ " \x7b\x7b" ∧
      parse template.source = .ok template := by
  intro template
  have parsed : parse looseSource = .ok template := by cbv
  exact ⟨parsed, by cbv, (parse_source_of_parse parsed).1⟩

end Template
end TripCards
