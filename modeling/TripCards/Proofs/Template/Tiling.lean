/-
The tokens of a source as a tiling of its text.

`IsTiling` says what it is to cut a source into tokens, without saying how to find the cuts: the
tokens cover the source from end to end, every one is spelled by what it covers, and the texts among
them leave no tag behind. `ofSource_eq_ok_iff_isTiling` says that reading a source finds such a
tiling wherever there is one, and that there is no other.
-/
import Mathlib.Data.List.Chain
import TripCards.Proofs.Template.Cutting
import TripCards.Proofs.Template.Grammar
import TripCards.Template.Token

namespace TripCards
namespace Token

open Piece (Doubled Leads Opens TagFree literals)
open Text (byteLength byteLength_append)

/-- What a token stands for in the source. A text stands for itself; a tag stands between two
opening and two closing braces, with blanks at its ends or without. -/
inductive Covers : TokenKind → List Char → Prop where
  | text {s : List Char} : s ≠ [] → Covers (.text (String.ofList s)) s
  | tag {t : Tag} {inside : List Char} : Tag.Spells t (Text.trim inside) →
      Covers (.tag t) ('{' :: '{' :: inside ++ ['}', '}'])

/-- The tokens cover the text one after another. The text begins at byte `offset`, and every token
begins where the one before it ends. -/
inductive Tiles : Nat → List Char → List Token → Prop where
  | nil {offset : Nat} : Tiles offset [] []
  | cons {offset : Nat} {kind : TokenKind} {span rest : List Char} {tokens : List Token} :
      Covers kind span → Tiles (offset + byteLength span) rest tokens →
      Tiles offset (span ++ rest) (⟨kind, offset⟩ :: tokens)

variable {offset : Nat} {s : List Char} {tokens : List Token}

/-- Every token stands where its offset says. -/
theorem Tiles.exists_span (h : Tiles offset s tokens) : ∀ token ∈ tokens, ∃ before span rest,
    s = before ++ span ++ rest ∧ Covers token.kind span ∧
      token.offset = offset + byteLength before := by
  induction h with
  | nil => exact List.forall_mem_nil _
  | @cons offset kind span rest tokens hcovers _ ih =>
    refine List.forall_mem_cons.mpr ⟨⟨[], span, rest, rfl, hcovers, rfl⟩, fun token hmem => ?_⟩
    obtain ⟨before, inner, behind, rfl, hinner, hplace⟩ := ih token hmem
    refine ⟨span ++ before, inner, behind, by simp, hinner, ?_⟩
    rw [hplace, byteLength_append, Nat.add_assoc]

theorem Covers.byteLength_pos {kind : TokenKind} {span : List Char} (h : Covers kind span) :
    0 < byteLength span := by
  cases h with
  | @text s hne =>
    obtain ⟨c, rest, rfl⟩ := List.exists_cons_of_ne_nil hne
    have wide := c.utf8Size_pos
    rw [Text.byteLength_cons]
    omega
  | tag => exact Nat.lt_of_lt_of_le (by decide) (Nat.le_add_right _ _)

/-- No two tokens begin at the same place, and they come in the order of their places. -/
theorem Tiles.pairwise_offset_lt (h : Tiles offset s tokens) :
    tokens.Pairwise fun token later => token.offset < later.offset := by
  induction h with
  | nil => exact .nil
  | @cons offset kind span rest tokens hcovers htiles ih =>
    refine .cons (fun later hmem => ?_) ih
    obtain ⟨before, -, -, -, -, hplace⟩ := htiles.exists_span later hmem
    have hspan := hcovers.byteLength_pos
    show offset < later.offset
    omega

theorem Tiles.append {rest : List Char} {others : List Token} (h : Tiles offset s tokens)
    (hothers : Tiles (offset + byteLength s) rest others) :
    Tiles offset (s ++ rest) (tokens ++ others) := by
  induction h with
  | nil => exact hothers
  | @cons offset kind span behind tokens hcovers _ ih =>
    rw [byteLength_append, ← Nat.add_assoc] at hothers
    rw [List.append_assoc, List.cons_append]
    exact .cons hcovers (ih hothers)

/-- What may stand next to each other: two texts may not, and a brace at the end of a text before a
tag belongs to the text only if the text has two opening braces. -/
def Adjacent : TokenKind → TokenKind → Prop
  | .text _, .text _ => False
  | .text s, .tag _ => s.toList.getLast? = some '{' → Doubled '{' s.toList
  | .tag _, _ => True

structure IsTiling (offset : Nat) (s : List Char) (tokens : List Token) : Prop where
  tiles : Tiles offset s tokens
  tagFree : ∀ token ∈ tokens, ∀ text, token.kind = .text text → TagFree text.toList
  adjacent : tokens.IsChain fun token next => Adjacent token.kind next.kind

/-- Tilings of two texts make one of both, where the tokens may meet. -/
theorem IsTiling.append {rest : List Char} {others : List Token} (h : IsTiling offset s tokens)
    (hothers : IsTiling (offset + byteLength s) rest others)
    (hmeet : ∀ token ∈ tokens.getLast?, ∀ next ∈ others.head?, Adjacent token.kind next.kind) :
    IsTiling offset (s ++ rest) (tokens ++ others) where
  tiles := h.tiles.append hothers.tiles
  tagFree := List.forall_mem_append.mpr ⟨h.tagFree, hothers.tagFree⟩
  adjacent := List.isChain_append.mpr ⟨h.adjacent, hothers.adjacent, hmeet⟩

theorem isTiling_nil_iff : IsTiling offset s [] ↔ s = [] := by
  constructor
  · rintro ⟨⟨⟩, -, -⟩
    rfl
  · rintro rfl
    exact ⟨.nil, by simp, .nil⟩

theorem isTiling_cons_iff {token : Token} : IsTiling offset s (token :: tokens) ↔
    token.offset = offset ∧ ∃ span rest, s = span ++ rest ∧ Covers token.kind span ∧
      (∀ text, token.kind = .text text → TagFree text.toList) ∧
      (∀ next, tokens.head? = some next → Adjacent token.kind next.kind) ∧
      IsTiling (offset + byteLength span) rest tokens := by
  constructor
  · rintro ⟨htiles, htext, hnext⟩
    cases htiles with
    | @cons offset kind span rest tokens hcovers htiles =>
      rw [List.forall_mem_cons] at htext
      rw [List.isChain_cons] at hnext
      exact ⟨rfl, span, rest, rfl, hcovers, htext.1, hnext.1, htiles, htext.2, hnext.2⟩
  · rintro ⟨rfl, span, rest, rfl, hcovers, htext, hnext, htiles⟩
    refine ⟨.cons hcovers htiles.tiles, ?_, ?_⟩
    · exact List.forall_mem_cons.mpr ⟨htext, htiles.tagFree⟩
    · exact List.isChain_cons.mpr ⟨hnext, htiles.adjacent⟩

/-- The tokens of a text without tags: the text itself, if there is any. -/
def ofText (offset : Nat) (text : List Char) : List Token :=
  if text.isEmpty then [] else [⟨.text (String.ofList text), offset⟩]

theorem ofPieces_literals_append (offset : Nat) (text : List Char) (pieces : List Piece) :
    ofPieces offset (literals text ++ pieces) =
      (ofPieces (offset + byteLength text) pieces).map (ofText offset text ++ ·) := by
  cases text with
  | nil =>
    show ofPieces offset pieces = (ofPieces offset pieces).map id
    cases ofPieces offset pieces <;> rfl
  | cons c text => rfl

theorem isTiling_ofText_append {text rest : List Char} (htext : TagFree text)
    (hnext : ∀ next, tokens.head? = some next → Adjacent (.text (String.ofList text)) next.kind)
    (hrest : IsTiling (offset + byteLength text) rest tokens) :
    IsTiling offset (text ++ rest) (ofText offset text ++ tokens) := by
  cases text with
  | nil => exact hrest
  | cons c text =>
    refine isTiling_cons_iff.mpr ⟨rfl, c :: text, rest, rfl, .text (List.cons_ne_nil _ _), ?_, hnext,
      hrest⟩
    rintro _ ⟨⟩
    rwa [String.toList_ofList]

/-- A tag, and the text that it opens behind, can be put in front of a tiling. -/
theorem isTiling_tag_append {text inside rest : List Char} {tag : Tag} (hopens : Opens text inside)
    (htag : Tag.Spells tag (Text.trim inside))
    (hrest : IsTiling (offset + byteLength text + byteLength ('{' :: '{' :: inside ++ ['}', '}']))
      rest tokens) :
    IsTiling offset (text ++ ('{' :: '{' :: inside ++ '}' :: '}' :: rest))
      (ofText offset text ++ ⟨.tag tag, offset + byteLength text⟩ :: tokens) := by
  have hsource : '{' :: '{' :: inside ++ '}' :: '}' :: rest =
      '{' :: '{' :: inside ++ ['}', '}'] ++ rest := by simp
  rw [hsource]
  refine isTiling_ofText_append hopens.tagFree ?_ (isTiling_cons_iff.mpr
    ⟨rfl, _, rest, rfl, .tag htag, nofun, fun _ _ => trivial, hrest⟩)
  rintro next hnext
  obtain rfl := Option.some.inj hnext
  intro hlast
  rw [String.toList_ofList] at hlast ⊢
  exact hopens.last hlast

theorem ofPieces_append_text {text rest : List Char} (h : Leads text rest) (offset : Nat) :
    ofPieces offset (Piece.ofSource (text ++ rest)) =
      (ofPieces (offset + byteLength text) (Piece.ofSource rest)).map (ofText offset text ++ ·) := by
  rw [Piece.ofSource_append h, ofPieces_literals_append]

theorem ofPieces_nil (offset : Nat) : ofPieces offset (Piece.ofSource []) = .ok [] := by
  rw [Piece.ofSource_of_tagFree Piece.tagFree_nil]
  rfl

theorem ofPieces_append_tag {inside : List Char} (h : Opens [] inside) (offset : Nat)
    (rest : List Char) :
    ofPieces offset (Piece.ofSource ('{' :: '{' :: inside ++ '}' :: '}' :: rest)) =
      match Tag.read inside with
      | .error fault => .error ⟨fault, offset⟩
      | .ok tag =>
        (ofPieces (offset + byteLength ('{' :: '{' :: inside ++ ['}', '}'])) (Piece.ofSource rest)).map
          (⟨.tag tag, offset⟩ :: ·) := by
  have hpieces := Piece.ofSource_append_tag h rest
  rw [List.nil_append] at hpieces
  rw [hpieces]
  rfl

/-- What is read from a source is a tiling of it. -/
theorem isTiling_of_ofPieces (s : List Char) (offset : Nat) (tokens : List Token)
    (h : ofPieces offset (Piece.ofSource s) = .ok tokens) : IsTiling offset s tokens := by
  obtain ⟨text, rest, hs, hleads⟩ := Piece.exists_leads s
  rw [hs, ofPieces_append_text hleads, map_eq_ok_iff] at h
  obtain ⟨others, hothers, rfl⟩ := h
  rw [hs]
  cases hleads with
  | nil htext =>
    rw [ofPieces_nil] at hothers
    obtain rfl := Except.ok.inj hothers
    exact isTiling_ofText_append htext (by simp) (isTiling_nil_iff.mpr rfl)
  | @tag inside rest hopens =>
    have shorter : rest.length < s.length := by
      rw [hs]
      simp
      omega
    rw [ofPieces_append_tag hopens.nil] at hothers
    cases hread : Tag.read inside with
    | error fault => simp [hread] at hothers
    | ok tag =>
      simp only [hread, map_eq_ok_iff] at hothers
      obtain ⟨others, hothers, rfl⟩ := hothers
      exact isTiling_tag_append hopens (Tag.read_eq_ok_iff.mp hread)
        (isTiling_of_ofPieces rest _ others hothers)
termination_by s.length

/-- The text that the tokens end with, if they end with one. -/
def lastText : List Token → List Char
  | [] => []
  | [⟨.text s, _⟩] => s.toList
  | [⟨.tag _, _⟩] => []
  | _ :: token :: tokens => lastText (token :: tokens)

theorem lastText_tag_cons (tag : Tag) (place : Nat) (tokens : List Token) :
    lastText (⟨.tag tag, place⟩ :: tokens) = lastText tokens := by
  cases tokens <;> rfl

theorem lastText_append_tag (offset : Nat) (text : List Char) (tag : Tag) (place : Nat)
    (tokens : List Token) :
    lastText (ofText offset text ++ ⟨.tag tag, place⟩ :: tokens) = lastText tokens := by
  cases text with
  | nil => exact lastText_tag_cons tag place tokens
  | cons c text =>
    show lastText (_ :: ⟨.tag tag, place⟩ :: tokens) = _
    rw [lastText, lastText_tag_cons]

theorem lastText_ofText (offset : Nat) (text : List Char) : lastText (ofText offset text) = text := by
  cases text with
  | nil => rfl
  | cons c text => exact String.toList_ofList

/-- A tag is read as it stands behind a text that is read as it stands. -/
theorem opens_of_adjacent {text : String} {tag : Tag} {inside : List Char}
    (htext : TagFree text.toList) (hnext : Adjacent (.text text) (.tag tag))
    (htag : Tag.Spells tag (Text.trim inside)) : Opens text.toList inside := by
  have hbrace := Tag.not_brace_of_read (Tag.read_eq_ok_iff.mpr htag)
  exact Piece.opens_of_not_mem htext hnext hbrace.1 hbrace.2

theorem IsTiling.leads_lastText (tokens : List Token) {offset : Nat} {s : List Char}
    (h : IsTiling offset s tokens) : Leads (lastText tokens) [] := by
  match tokens with
  | [] => exact .nil Piece.tagFree_nil
  | [⟨.text text, _⟩] => exact .nil (h.tagFree _ List.mem_cons_self text rfl)
  | [⟨.tag _, _⟩] => exact .nil Piece.tagFree_nil
  | _ :: token :: tokens =>
    obtain ⟨-, _, _, -, -, -, -, hrest⟩ := isTiling_cons_iff.mp h
    rw [lastText]
    exact hrest.leads_lastText (token :: tokens)

/-- A text of a tiling leads to what comes behind it. -/
theorem IsTiling.leads_append {text : String} {place : Nat} {others rest : List Char}
    (htext : TagFree text.toList)
    (hnext : ∀ next, tokens.head? = some next → Adjacent (.text text) next.kind)
    (h : IsTiling offset others tokens)
    (hrest : Leads (lastText (⟨.text text, place⟩ :: tokens)) rest) :
    Leads text.toList (others ++ rest) ∧ Leads (lastText tokens) rest := by
  cases tokens with
  | nil =>
    rw [isTiling_nil_iff.mp h]
    exact ⟨hrest, hrest.nil_left⟩
  | cons next tokens =>
    rw [lastText] at hrest
    refine ⟨?_, hrest⟩
    obtain ⟨-, span, behind, rfl, hcovers, -, -, -⟩ := isTiling_cons_iff.mp h
    have hadjacent := hnext next rfl
    generalize next.kind = kind at hcovers hadjacent
    cases hcovers with
    | text => exact hadjacent.elim
    | tag htag =>
      rw [List.append_assoc, List.append_assoc]
      exact .tag (opens_of_adjacent htext hadjacent htag)

/-- What has a tiling is read as that tiling, and then the source is read on, unless what follows
changes where the last text ends. -/
theorem ofPieces_append {rest : List Char} (tokens : List Token) (offset : Nat) (s : List Char)
    (h : IsTiling offset s tokens) (hrest : Leads (lastText tokens) rest) :
    ofPieces offset (Piece.ofSource (s ++ rest)) =
      (ofPieces (offset + byteLength s) (Piece.ofSource rest)).map (tokens ++ ·) := by
  match tokens with
  | [] =>
    rw [isTiling_nil_iff.mp h]
    show ofPieces offset (Piece.ofSource rest) = (ofPieces offset (Piece.ofSource rest)).map id
    cases ofPieces offset (Piece.ofSource rest) <;> rfl
  | ⟨.tag tag, place⟩ :: tokens =>
    obtain ⟨rfl, _, others, rfl, hcovers, -, -, hothers⟩ := isTiling_cons_iff.mp h
    cases hcovers with
    | @tag _ inside htag =>
      have hread := Tag.read_eq_ok_iff.mpr htag
      have hbrace := Tag.not_brace_of_read hread
      have hopens : Opens [] inside :=
        Piece.opens_of_not_mem Piece.tagFree_nil nofun hbrace.1 hbrace.2
      have hsource : '{' :: '{' :: inside ++ ['}', '}'] ++ others ++ rest =
          '{' :: '{' :: inside ++ '}' :: '}' :: (others ++ rest) := by simp
      rw [lastText_tag_cons] at hrest
      rw [hsource, ofPieces_append_tag hopens, hread, byteLength_append _ others, ← Nat.add_assoc]
      dsimp only
      rw [ofPieces_append tokens _ others hothers hrest]
      cases ofPieces _ (Piece.ofSource rest) <;> rfl
  | ⟨.text text, place⟩ :: tokens =>
    obtain ⟨rfl, _, others, rfl, hcovers, htext, hnext, hothers⟩ := isTiling_cons_iff.mp h
    cases hcovers with
    | @text text hne =>
      obtain ⟨hleads, hlast⟩ := hothers.leads_append (htext _ rfl) hnext hrest
      rw [String.toList_ofList] at hleads
      rw [List.append_assoc, ofPieces_append_text hleads,
        ofPieces_append tokens _ others hothers hlast, byteLength_append _ others, ← Nat.add_assoc,
        ofText, if_neg (by simpa using hne)]
      cases ofPieces _ (Piece.ofSource rest) <;> rfl

/-- Every tiling of a source is what is read from it. -/
theorem ofPieces_of_isTiling (tokens : List Token) (offset : Nat) (s : List Char)
    (h : IsTiling offset s tokens) : ofPieces offset (Piece.ofSource s) = .ok tokens := by
  have hread := ofPieces_append tokens offset s h (h.leads_lastText tokens)
  rwa [ofPieces_nil, Except.map, List.append_nil, List.append_nil] at hread

/-- Reading accepts the sources that have a tiling, and finds the only tiling that there is. -/
theorem ofSource_eq_ok_iff_isTiling (source : String) :
    (∀ tokens, ofSource source = .ok tokens ↔ IsTiling 0 source.toList tokens) ∧
      ∀ tokens others, IsTiling 0 source.toList tokens → IsTiling 0 source.toList others →
        tokens = others := by
  have hiff (tokens : List Token) :
      ofSource source = .ok tokens ↔ IsTiling 0 source.toList tokens :=
    ⟨isTiling_of_ofPieces source.toList 0 tokens, ofPieces_of_isTiling tokens 0 source.toList⟩
  refine ⟨hiff, fun tokens others htokens hothers => ?_⟩
  have h := ((hiff tokens).mpr htokens).symm.trans ((hiff others).mpr hothers)
  exact Except.ok.inj h

end Token
end TripCards
