/-
Sources put together.

Where a source ends with a tag, a token ends, whatever is put behind it: no brace that follows can
open or close that tag, nor take back what was read before. So the tokens of both sources come one
after the other, the second ones that much further on; and so do the nodes that they spell and the
texts that these are filled with. `fillSource_append` says so for all three.
-/
import TripCards.Proofs.Template.Balance
import TripCards.Proofs.Template.Copying
import TripCards.Proofs.Template.Tiling

namespace TripCards

namespace Piece

theorem Leads.tagFree {text rest : List Char} (h : Leads text rest) : TagFree text := by
  cases h with
  | nil htext => exact htext
  | tag hopens => exact hopens.tagFree

end Piece

namespace Token

open Piece (Leads TagFree)
open Text (byteLength byteLength_append)

/-- The token, that many bytes further on. -/
def shift (bytes : Nat) (token : Token) : Token :=
  ⟨token.kind, token.offset + bytes⟩

def BadTag.shift (bytes : Nat) (bad : BadTag) : BadTag :=
  ⟨bad.fault, bad.offset + bytes⟩

theorem map_kind_shift (bytes : Nat) (tokens : List Token) :
    (tokens.map (shift bytes)).map kind = tokens.map kind := by
  rw [List.map_map]
  rfl

/-- There are no tokens, or a tag is the last of them. -/
def EndsWithTag (tokens : List Token) : Prop :=
  ∀ token, tokens.getLast? = some token → ∃ tag, token.kind = .tag tag

variable {offset : Nat} {s : List Char} {tokens : List Token}

theorem endsWithTag_cons_cons {token next : Token} :
    EndsWithTag (token :: next :: tokens) ↔ EndsWithTag (next :: tokens) := by
  rw [EndsWithTag, List.getLast?_cons_cons, EndsWithTag]

/-- Pieces that begin further on have the same tokens further on. -/
theorem ofPieces_add (bytes offset : Nat) (pieces : List Piece) :
    ofPieces (offset + bytes) pieces =
      match ofPieces offset pieces with
      | .error bad => .error (bad.shift bytes)
      | .ok tokens => .ok (tokens.map (shift bytes)) := by
  induction pieces generalizing offset with
  | nil => rfl
  | cons piece pieces ih =>
    cases piece with
    | literal text =>
      have hrest := ih (offset + byteLength text)
      rw [Nat.add_right_comm] at hrest
      rw [ofPieces, hrest, ofPieces]
      cases ofPieces (offset + byteLength text) pieces <;> rfl
    | tag inside =>
      have hrest := ih (offset + byteLength (Piece.tag inside).toChars)
      rw [Nat.add_right_comm] at hrest
      rw [ofPieces, hrest, ofPieces]
      cases Tag.read inside with
      | error fault => rfl
      | ok tag => cases ofPieces (offset + byteLength (Piece.tag inside).toChars) pieces <;> rfl

/-- A text may come behind a tag. -/
theorem IsTiling.append_ofText {text : List Char} (h : IsTiling offset s tokens)
    (hend : EndsWithTag tokens) (htext : TagFree text) :
    IsTiling offset (s ++ text) (tokens ++ ofText (offset + byteLength s) text) := by
  have hbehind : IsTiling (offset + byteLength s) (text ++ [])
      (ofText (offset + byteLength s) text ++ []) :=
    isTiling_ofText_append htext (by simp) (isTiling_nil_iff.mpr rfl)
  rw [List.append_nil, List.append_nil] at hbehind
  refine h.append hbehind ?_
  intro token htoken next _
  obtain ⟨tag, htag⟩ := hend token htoken
  rw [htag]
  trivial

theorem lastText_append_ofText (tokens : List Token) (hend : EndsWithTag tokens) (place : Nat)
    (text : List Char) : lastText (tokens ++ ofText place text) = text := by
  match tokens with
  | [] => exact lastText_ofText place text
  | [⟨kind, offset⟩] =>
    obtain ⟨tag, htag⟩ := hend _ rfl
    obtain rfl : kind = .tag tag := htag
    rw [List.singleton_append, lastText_tag_cons, lastText_ofText]
  | token :: next :: tokens =>
    rw [List.cons_append, List.cons_append, lastText, ← List.cons_append]
    exact lastText_append_ofText (next :: tokens) (endsWithTag_cons_cons.mp hend) place text

/-- What is put behind a tag is read as if it stood alone. The text at its front, up to its first tag,
makes a tiling together with what was read before, and `ofPieces_append` goes on from there. -/
theorem ofPieces_append_of_endsWithTag (h : IsTiling offset s tokens) (hend : EndsWithTag tokens)
    (rest : List Char) :
    ofPieces offset (Piece.ofSource (s ++ rest)) =
      (ofPieces (offset + byteLength s) (Piece.ofSource rest)).map (tokens ++ ·) := by
  obtain ⟨text, behind, rfl, hleads⟩ := Piece.exists_leads rest
  have htiling := h.append_ofText hend hleads.tagFree
  have hlast : Leads (lastText (tokens ++ ofText (offset + byteLength s) text)) behind := by
    rw [lastText_append_ofText tokens hend]
    exact hleads
  rw [← List.append_assoc, ofPieces_append _ offset _ htiling hlast, ofPieces_append_text hleads,
    byteLength_append, ← Nat.add_assoc]
  cases ofPieces (offset + byteLength s + byteLength text) (Piece.ofSource behind) with
  | error bad => rfl
  | ok others => exact congrArg Except.ok (List.append_assoc _ _ _)

theorem ofSource_append {front : String} (h : ofSource front = .ok tokens)
    (hend : EndsWithTag tokens) (behind : String) :
    ofSource (front ++ behind) =
      match ofSource behind with
      | .error bad => .error (bad.shift (byteLength front.toList))
      | .ok others => .ok (tokens ++ others.map (shift (byteLength front.toList))) := by
  have htiling := isTiling_of_ofPieces _ 0 tokens h
  have hread := ofPieces_append_of_endsWithTag htiling hend behind.toList
  rw [ofPieces_add] at hread
  rw [ofSource, String.toList_append, hread, ofSource]
  cases ofPieces 0 (Piece.ofSource behind.toList) <;> rfl

end Token

namespace Node

theorem heightOfAll_append (nodes others : List Node) :
    heightOfAll (nodes ++ others) = max (heightOfAll nodes) (heightOfAll others) := by
  induction nodes with
  | nil => exact (Nat.zero_max _).symm
  | cons node nodes ih => rw [List.cons_append, heightOfAll, ih, heightOfAll, Nat.max_assoc]

theorem renderAll_append (scope : Scope) (out : String) (nodes others : List Node) :
    renderAll scope out (nodes ++ others) = (do
      let front ← renderAll scope out nodes
      renderAll scope front others) := by
  induction nodes generalizing out with
  | nil => rfl
  | cons node nodes ih =>
    rw [List.cons_append, renderAll, renderAll]
    cases node.render scope out with
    | error fault => rfl
    | ok next => exact ih next

/-- What is there already stays in front, and does not matter to what is added. -/
theorem renderAll_eq_map_append (scope : Scope) (out : String) (nodes : List Node) :
    renderAll scope out nodes = (renderAll scope "" nodes).map (out ++ ·) := by
  rw [renderAll_eq_copiedAll scope out, renderAll_eq_copiedAll scope ""]
  cases copiedAll scope.merged nodes with
  | error fault => rfl
  | ok text =>
    show Except.ok (out ++ text) = Except.ok (out ++ ("" ++ text))
    rw [String.empty_append]

end Node

namespace Template

open Text (byteLength)

/-- The nodes of one template, and behind them those of another. -/
def append (first second : Template) : Template :=
  ⟨first.nodes ++ second.nodes⟩

theorem fill_append (first second : Template) (fields : Fields) :
    (first.append second).fill fields = (do
      let front ← first.fill fields
      let behind ← second.fill fields
      return front ++ behind) := by
  rw [fill, render, append, Node.renderAll_append, fill, render]
  cases Node.renderAll (.root fields) "" first.nodes with
  | error fault => rfl
  | ok front =>
    show (Node.renderAll (.root fields) front second.nodes).mapError CardError.unprintable = _
    rw [Node.renderAll_eq_map_append, fill, render]
    cases Node.renderAll (.root fields) "" second.nodes <;> rfl

variable {front behind : String} {tokens : List Token} {first second : Template}

theorem parse_append (h : Token.ofSource front = .ok tokens) (hend : Token.EndsWithTag tokens)
    (hfirst : parse front = .ok first) (hsecond : parse behind = .ok second) :
    parse (front ++ behind) = .ok (first.append second) := by
  obtain ⟨others, hothers, htree⟩ := exists_tokens_of_parse hsecond
  have hboth := Token.ofSource_append h hend behind
  rw [hothers] at hboth
  rw [parse_eq_ok_iff_ofTokens h, ofTokens_eq_ok_iff] at hfirst
  rw [ofTokens_eq_ok_iff] at htree
  rw [parse_eq_ok_iff_ofTokens hboth, ofTokens_eq_ok_iff]
  constructor
  · rw [List.map_append, Token.map_kind_shift, ← hfirst.1, ← htree.1]
    exact Node.tokensOfAll_append first.nodes second.nodes
  · rw [height, append, Node.heightOfAll_append]
    exact max_le hfirst.2 htree.2

/-- Behind a source that ends with a tag, or has no tokens at all, another source has the tokens that
it has alone, or the same bad tag. If both are templates, so is the whole: its nodes, and what they
are filled with, are those of the one and then those of the other. -/
theorem fillSource_append (h : Token.ofSource front = .ok tokens)
    (hend : Token.EndsWithTag tokens) (behind : String) :
    (∀ others, Token.ofSource behind = .ok others →
      Token.ofSource (front ++ behind) =
        .ok (tokens ++ others.map (Token.shift (byteLength front.toList)))) ∧
    (∀ bad, Token.ofSource behind = .error bad →
      Token.ofSource (front ++ behind) = .error (bad.shift (byteLength front.toList))) ∧
    ∀ first second, parse front = .ok first → parse behind = .ok second →
      parse (front ++ behind) = .ok (first.append second) ∧
      ∀ fields, fillSource (front ++ behind) fields = (do
        let text ← fillSource front fields
        let rest ← fillSource behind fields
        return text ++ rest) := by
  have htokens := Token.ofSource_append h hend behind
  refine ⟨fun others hothers => ?_, fun bad hbad => ?_, fun first second hfirst hsecond => ?_⟩
  · rw [htokens, hothers]
  · rw [htokens, hbad]
  · have hboth := parse_append h hend hfirst hsecond
    refine ⟨hboth, fun fields => ?_⟩
    rw [fillSource, hboth, fillSource, hfirst, fillSource, hsecond]
    exact fill_append first second fields

/-- A repetition, behind a text. -/
def marks : String :=
  "a" ++ braced "#each xs" ++ "é" ++ braced "/each"

/-- Braces that belong to no tag, before a slot and behind it. -/
def looseBraces : String :=
  "\x7d\x7d\x7b " ++ braced "y" ++ "\x7b"

theorem fillSource_append_looseBraces :
    let fields : Fields := [("xs", .sequence [.text "1", .text "2"]), ("y", .text "z")]
    ∃ tokens, Token.ofSource marks = .ok tokens ∧ Token.EndsWithTag tokens ∧
      Token.ofSource (marks ++ looseBraces) = .ok (tokens ++
        [⟨.text "\x7d\x7d\x7b ", 24⟩, ⟨.tag (.slot ⟨"y", []⟩), 28⟩, ⟨.text "\x7b", 33⟩]) ∧
      fillSource (marks ++ looseBraces) fields = .ok "aéé\x7d\x7d\x7b z\x7b" := by
  intro fields
  have hothers : Token.ofSource looseBraces =
      .ok [⟨.text "\x7d\x7d\x7b ", 0⟩, ⟨.tag (.slot ⟨"y", []⟩), 4⟩, ⟨.text "\x7b", 9⟩] := by
    cbv
  have hfirst : parse marks =
      .ok ⟨[.text "a", .block .repeated ⟨"xs", []⟩ [.text "é"]]⟩ := by
    cbv
  have hsecond : parse looseBraces =
      .ok ⟨[.text "\x7d\x7d\x7b ", .slot ⟨"y", []⟩, .text "\x7b"]⟩ := by
    cbv
  obtain ⟨tokens, htokens, hend⟩ :
      ∃ tokens, Token.ofSource marks = .ok tokens ∧ Token.EndsWithTag tokens := by
    refine ⟨[⟨.text "a", 0⟩, ⟨.tag (.opening .repeated ⟨"xs", []⟩), 1⟩, ⟨.text "é", 13⟩,
      ⟨.tag (.closing .repeated), 15⟩], by cbv, ?_⟩
    intro token hlast
    obtain rfl := Option.some.inj hlast
    exact ⟨_, rfl⟩
  obtain ⟨hbehind, -, hboth⟩ := fillSource_append htokens hend looseBraces
  refine ⟨tokens, htokens, hend, hbehind _ hothers, ?_⟩
  rw [(hboth _ _ hfirst hsecond).2 fields, fillSource, hfirst, fillSource, hsecond]
  rfl

end Template
end TripCards
