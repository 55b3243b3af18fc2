/-
Templates that are read back from what is written.

A tree has a text between any two of its tags at most, and none where it has nothing to say. Where
no text of a tree has an opening brace, writing the tree down leaves a source of which its tokens
are a tiling, and so `Template.parse_source` reads the tree back.
-/
import TripCards.Proofs.Template.Balance
import TripCards.Proofs.Template.Tiling

namespace TripCards

open Text (Trimmed isBlank byteLength)

namespace Tag

/-- The tags that can be written. -/
def IsPlain : Tag → Prop
  | slot path => path.Plain ∧ path.toChars ≠ "else".toList
  | opening _ path => path.Plain
  | closing _ => True

theorem spells_inside {tag : Tag} (h : tag.IsPlain) : Spells tag tag.inside.toList := by
  cases tag with
  | slot path =>
    rw [inside, Path.text, String.toList_ofList]
    exact .slot h.1 h.2
  | opening kind path =>
    have blank : Text.AllBlank [' '] := by
      intro c mem
      rw [List.mem_singleton.mp mem]
      rfl
    have written : Spells (.opening kind path)
        ('#' :: [] ++ kind.keyword.toList ++ [' '] ++ path.toChars) :=
      .opening Text.allBlank_nil blank (List.cons_ne_nil _ _) h
    simpa [inside, Path.text, String.toList_append] using written
  | closing kind =>
    have written : Spells (.closing kind) ('/' :: [] ++ kind.keyword.toList) :=
      .closing Text.allBlank_nil
    simpa [inside, String.toList_append] using written

/-- No blanks stand at the ends of a tag that is spelled. -/
theorem Spells.trimmed {tag : Tag} {s : List Char} (h : Spells tag s) : Trimmed s := by
  cases h with
  | slot plain => exact plain.trimmed
  | @opening kind path before between hbefore hbetween hne plain =>
    refine ⟨?_, fun c last => ?_⟩
    · rintro c ⟨⟩
      rfl
    · have isLast := List.getLast?_eq_some_getLast plain.toChars_ne_nil
      rw [List.getLast?_append, isLast] at last
      exact plain.trimmed.last c (isLast.trans last)
  | @closing kind before hbefore =>
    refine ⟨?_, fun c last => ?_⟩
    · rintro c ⟨⟩
      rfl
    · have isLast := List.getLast?_eq_some_getLast kind.keyword_ne_nil
      rw [List.getLast?_append, isLast] at last
      obtain rfl := Option.some.inj last
      exact kind.keyword_not_blank _ (List.mem_of_getLast? isLast)

end Tag

namespace TokenKind

/-- The tokens that can be written anywhere but next to a text. -/
def IsPlain : TokenKind → Prop
  | text s => s ≠ "" ∧ '{' ∉ s.toList
  | tag t => t.IsPlain

/-- The tokens that can be written. A text leaves no tag behind. -/
def IsReadable : TokenKind → Prop
  | text s => s ≠ "" ∧ Piece.TagFree s.toList
  | tag t => t.IsPlain

theorem IsPlain.isReadable {kind : TokenKind} (h : kind.IsPlain) : kind.IsReadable := by
  cases kind with
  | text s => exact ⟨h.1, Piece.tagFree_of_not_doubled (Piece.not_doubled_of_not_mem h.2)⟩
  | tag t => exact h

theorem covers_source {kind : TokenKind} (h : kind.IsReadable) :
    Token.Covers kind kind.source.toList := by
  cases kind with
  | text s =>
    have covers := Token.Covers.text (s := s.toList) (by simpa using h.1)
    rwa [String.ofList_toList] at covers
  | tag t =>
    have spells := Tag.spells_inside h
    have braces : t.text.toList = '{' :: '{' :: t.inside.toList ++ ['}', '}'] := by
      rw [Tag.text, braced, String.toList_append, String.toList_append]
      rfl
    rw [source, braces]
    exact .tag (by rwa [Text.trim_of_trimmed spells.trimmed])

end TokenKind

namespace Token

/-- Tokens of these kinds, one behind the other. -/
def placed (offset : Nat) : List TokenKind → List Token
  | [] => []
  | kind :: kinds => ⟨kind, offset⟩ :: placed (offset + byteLength kind.source.toList) kinds

theorem map_kind_placed (offset : Nat) (kinds : List TokenKind) :
    (placed offset kinds).map kind = kinds := by
  induction kinds generalizing offset with
  | nil => rfl
  | cons kind kinds ih => rw [placed, List.map_cons, ih]

theorem isTiling_placed (offset : Nat) {kinds : List TokenKind}
    (readable : ∀ kind ∈ kinds, kind.IsReadable) (chain : kinds.IsChain Adjacent) :
    IsTiling offset (kinds.flatMap fun kind => kind.source.toList) (placed offset kinds) := by
  induction kinds generalizing offset with
  | nil => exact isTiling_nil_iff.mpr rfl
  | cons kind kinds ih =>
    rw [List.forall_mem_cons] at readable
    rw [List.isChain_cons] at chain
    rw [List.flatMap_cons]
    refine isTiling_cons_iff.mpr ⟨rfl, _, _, rfl, TokenKind.covers_source readable.1, ?_, ?_,
      ih _ readable.2 chain.2⟩
    · rintro s rfl
      exact readable.1.2
    · cases kinds with
      | nil => nofun
      | cons next kinds =>
        rintro _ ⟨⟩
        exact chain.1 next rfl

/-- What is written is read. -/
theorem ofSource_join {kinds : List TokenKind} (readable : ∀ kind ∈ kinds, kind.IsReadable)
    (chain : kinds.IsChain Adjacent) :
    ofSource (String.join (kinds.map TokenKind.source)) = .ok (placed 0 kinds) := by
  have tiling := isTiling_placed 0 readable chain
  rw [ofSource, String.toList_join, List.flatMap_map]
  exact ofPieces_of_isTiling _ 0 _ tiling

end Token

namespace Node

def isText : Node → Bool
  | text _ => true
  | _ => false

mutual

/-- A node that is read back. -/
def IsTidy : Node → Prop
  | text s => s ≠ "" ∧ '{' ∉ s.toList
  | slot path => path.Plain ∧ path.toChars ≠ "else".toList
  | block _ path body => path.Plain ∧ AreTidy body

/-- Nodes that are read back: no text stands next to another one. -/
def AreTidy : List Node → Prop
  | [] => True
  | node :: nodes =>
      node.IsTidy ∧ (node.isText = true → ∀ next ∈ nodes.head?, next.isText = false) ∧ AreTidy nodes

end

mutual

theorem isPlain_of_mem_tokens (node : Node) (tidy : node.IsTidy) :
    ∀ kind ∈ node.tokens, kind.IsPlain := by
  cases node with
  | text s =>
    rw [tokens, List.forall_mem_singleton]
    exact tidy
  | slot path =>
    rw [tokens, List.forall_mem_singleton]
    exact tidy
  | block kind path body =>
    rw [tokens, List.forall_mem_cons, List.forall_mem_append, List.forall_mem_singleton]
    exact ⟨tidy.1, isPlain_of_mem_tokensOfAll body tidy.2, trivial⟩

theorem isPlain_of_mem_tokensOfAll (nodes : List Node) (tidy : AreTidy nodes) :
    ∀ kind ∈ tokensOfAll nodes, kind.IsPlain := by
  cases nodes with
  | nil => exact List.forall_mem_nil _
  | cons node nodes =>
    rw [tokensOfAll, List.forall_mem_append]
    exact ⟨isPlain_of_mem_tokens node tidy.1, isPlain_of_mem_tokensOfAll nodes tidy.2.2⟩

end

/-- No text comes first. -/
def BeginsWithTag (kinds : List TokenKind) : Prop :=
  ∀ kind ∈ kinds.head?, ∃ t, kind = .tag t

theorem beginsWithTag_tokens {node : Node} (h : node.isText = false) (rest : List TokenKind) :
    BeginsWithTag (node.tokens ++ rest) := by
  cases node with
  | text s => cases h
  | slot path =>
    rintro _ ⟨⟩
    exact ⟨_, rfl⟩
  | block kind path body =>
    rintro _ ⟨⟩
    exact ⟨_, rfl⟩

theorem isChain_tag_cons {t : Tag} {rest : List TokenKind} (h : rest.IsChain Token.Adjacent) :
    (TokenKind.tag t :: rest).IsChain Token.Adjacent :=
  List.isChain_cons.mpr ⟨fun _ _ => trivial, h⟩

mutual

/-- In front of a tag, and in front of what goes on with a tag, any node of a tidy tree may
stand. -/
theorem isChain_tokens (node : Node) (tidy : node.IsTidy) {rest : List TokenKind}
    (chain : rest.IsChain Token.Adjacent) (first : node.isText = true → BeginsWithTag rest) :
    (node.tokens ++ rest).IsChain Token.Adjacent := by
  cases node with
  | text s =>
    refine List.isChain_cons.mpr ⟨fun next isNext => ?_, chain⟩
    obtain ⟨t, rfl⟩ := first rfl next isNext
    exact fun brace => absurd (List.mem_of_getLast? brace) tidy.2
  | slot path => exact isChain_tag_cons chain
  | block kind path body =>
    rw [tokens, List.cons_append, List.append_assoc]
    have closing : BeginsWithTag (.tag (.closing kind) :: rest) := by
      rintro _ ⟨⟩
      exact ⟨_, rfl⟩
    exact isChain_tag_cons (isChain_tokensOfAll body tidy.2 (isChain_tag_cons chain) closing)

theorem isChain_tokensOfAll (nodes : List Node) (tidy : AreTidy nodes) {rest : List TokenKind}
    (chain : rest.IsChain Token.Adjacent) (first : BeginsWithTag rest) :
    (tokensOfAll nodes ++ rest).IsChain Token.Adjacent := by
  cases nodes with
  | nil => exact chain
  | cons node nodes =>
    obtain ⟨tidyNode, apart, tidyNodes⟩ := tidy
    rw [tokensOfAll, List.append_assoc]
    refine isChain_tokens node tidyNode (isChain_tokensOfAll nodes tidyNodes chain first) ?_
    intro isText
    cases nodes with
    | nil => exact first
    | cons next others =>
      rw [tokensOfAll, List.append_assoc]
      exact beginsWithTag_tokens (apart isText next rfl) _

end

end Node

/-- A tidy tree that is not too deep is read back from what is written. -/
theorem Template.parse_source {template : Template} (tidy : Node.AreTidy template.nodes)
    (height : template.height ≤ maxDepth) : parse template.source = .ok template := by
  have plain := Node.isPlain_of_mem_tokensOfAll template.nodes tidy
  have chain : (Node.tokensOfAll template.nodes ++ []).IsChain Token.Adjacent :=
    Node.isChain_tokensOfAll template.nodes tidy .nil nofun
  rw [List.append_nil] at chain
  have read := Token.ofSource_join (fun kind mem => (plain kind mem).isReadable) chain
  refine (parse_eq_ok_iff_ofTokens read template).mpr (ofTokens_eq_ok_iff.mpr ⟨?_, height⟩)
  exact (Token.map_kind_placed 0 _).symm

end TripCards
