/-
Which fault is reported, and where.

A source may have many faults. The first tag without a meaning comes before all others, wherever it
stands; only where every tag has a meaning is it asked whether the blocks fit.
`Template.FirstMisfit` says which fault counts without reading anything, and `parse_eq_error_iff` that
what is reported is the one misfit of the source that counts, at the position of its tag.
-/
import TripCards.Proofs.Template.Misspelling
import TripCards.Proofs.Template.Stacking
import TripCards.Proofs.Template.Tiling
import TripCards.Proofs.Text.Locating

namespace TripCards
namespace Token

open Piece (Leads Opens)
open Text (byteLength byteLength_append)

/-- The first tag of a source that has no meaning. What is in front of it can be cut into tokens. -/
inductive FirstBadTag (offset : Nat) : List Char → BadTag → Prop where
  | mk {before inside : List Char} {tokens : List Token} {fault : TagFault} (rest : List Char) :
      IsTiling offset before tokens → Opens (lastText tokens) inside →
      Tag.Misspells fault (Text.trim inside) →
      FirstBadTag offset (before ++ '{' :: '{' :: inside ++ '}' :: '}' :: rest)
        ⟨fault, offset + byteLength before⟩

variable {offset : Nat} {bad : BadTag}

/-- A tag that has a meaning, and the text that it opens behind, can be put in front. -/
theorem FirstBadTag.tag_append {text inside rest : List Char} {tag : Tag} (hopens : Opens text inside)
    (htag : Tag.Spells tag (Text.trim inside))
    (h : FirstBadTag (offset + byteLength text + byteLength ('{' :: '{' :: inside ++ ['}', '}'])) rest
      bad) :
    FirstBadTag offset (text ++ ('{' :: '{' :: inside ++ '}' :: '}' :: rest)) bad := by
  cases h with
  | @mk before body tokens fault rest htiles hbody hfault =>
    have htiling := isTiling_tag_append hopens htag htiles
    rw [← lastText_append_tag offset text tag (offset + byteLength text) tokens] at hbody
    have hplace : offset + byteLength text + byteLength ('{' :: '{' :: inside ++ ['}', '}']) +
        byteLength before =
        offset + byteLength (text ++ ('{' :: '{' :: inside ++ '}' :: '}' :: before)) := by
      simp only [byteLength_append, Text.byteLength_cons, Text.byteLength_nil]
      omega
    have hsource : text ++ ('{' :: '{' :: inside ++
        '}' :: '}' :: (before ++ '{' :: '{' :: body ++ '}' :: '}' :: rest)) =
        text ++ ('{' :: '{' :: inside ++ '}' :: '}' :: before) ++
          '{' :: '{' :: body ++ '}' :: '}' :: rest := by simp
    rw [hplace, hsource]
    exact .mk rest htiling hbody hfault

theorem firstBadTag_of_ofPieces (s : List Char) (offset : Nat) (bad : BadTag)
    (h : ofPieces offset (Piece.ofSource s) = .error bad) : FirstBadTag offset s bad := by
  obtain ⟨text, rest, hs, hleads⟩ := Piece.exists_leads s
  rw [hs, ofPieces_append_text hleads, map_eq_error_iff] at h
  rw [hs]
  cases hleads with
  | nil htext =>
    rw [ofPieces_nil] at h
    cases h
  | @tag inside rest hopens =>
    have shorter : rest.length < s.length := by
      rw [hs]
      simp
      omega
    rw [ofPieces_append_tag hopens.nil] at h
    cases hread : Tag.read inside with
    | error fault =>
      rw [hread] at h
      obtain rfl := Except.error.inj h
      have htiling : IsTiling offset (text ++ []) (ofText offset text ++ []) :=
        isTiling_ofText_append hopens.tagFree (by simp) (isTiling_nil_iff.mpr rfl)
      rw [List.append_nil, List.append_nil] at htiling
      rw [← List.append_assoc]
      exact .mk rest htiling (by rwa [lastText_ofText]) (Tag.read_eq_error_iff.mp hread)
    | ok tag =>
      simp only [hread, map_eq_error_iff] at h
      exact .tag_append hopens (Tag.read_eq_ok_iff.mp hread) (firstBadTag_of_ofPieces rest _ bad h)
termination_by s.length

theorem ofPieces_of_firstBadTag {s : List Char} (h : FirstBadTag offset s bad) :
    ofPieces offset (Piece.ofSource s) = .error bad := by
  cases h with
  | @mk before inside tokens fault rest htiles hopens hfault =>
    rw [List.append_assoc, ofPieces_append tokens offset before htiles (.tag hopens),
      ofPieces_append_tag hopens.nil, Tag.read_eq_error_iff.mpr hfault]
    rfl

end Token

/-- What a fault says of the text between the braces of its tag. -/
def TemplateFault.IsAbout {Place : Type} : TemplateFault Place → List Char → Prop
  | badTag fault, s => Tag.Misspells fault s
  | fault, s => ∃ tag, fault.tag? = some tag ∧ Tag.Spells tag s

theorem TemplateFault.isAbout_of_tag? {Place : Type} {fault : TemplateFault Place} {tag : Tag}
    {s : List Char} (h : fault.tag? = some tag) (hs : Tag.Spells tag s) : fault.IsAbout s := by
  cases fault with
  | badTag => cases h
  | tooDeep | crossed | strayClosing | unclosed => exact ⟨tag, h, hs⟩

namespace Template

open Text (byteLength)

/-- The misfit of a source that counts. A tag without a meaning counts before any block. -/
inductive FirstMisfit (source : List Char) : Misfit Nat → Prop where
  | badTag {bad : Token.BadTag} : Token.FirstBadTag 0 source bad →
      FirstMisfit source (Misfit.ofBadTag bad)
  | unbalanced {tokens : List Token} {misfit : Misfit Nat} : Token.IsTiling 0 source tokens →
      Stack.check [] tokens = .error misfit → FirstMisfit source misfit

/-- A tag begins at the offset, with something of this kind between its braces, and the position of the
offset is that of its first brace. -/
def TagAt (source : List Char) (place : Nat) (meaning : List Char → Prop) : Prop :=
  ∃ before inside rest, source = before ++ '{' :: '{' :: inside ++ '}' :: '}' :: rest ∧
    meaning (Text.trim inside) ∧ place = byteLength before ∧
      Position.locate source place = Position.behind before

variable {source : List Char} {misfit : Misfit Nat}

theorem read_eq_error_iff {source : String} :
    read source = .error misfit ↔ FirstMisfit source.toList misfit := by
  rw [read]
  constructor
  · intro h
    cases htokens : Token.ofSource source with
    | error bad =>
      rw [htokens] at h
      obtain rfl := Except.error.inj h
      exact .badTag (Token.firstBadTag_of_ofPieces _ 0 bad htokens)
    | ok tokens =>
      rw [htokens] at h
      exact .unbalanced (Token.isTiling_of_ofPieces _ 0 tokens htokens)
        (Stack.ofTokens_eq_error_iff.mp h)
  · intro h
    cases h with
    | badTag hbad => rw [Token.ofSource, Token.ofPieces_of_firstBadTag hbad]
    | @unbalanced tokens misfit htiling hcheck =>
      rw [Token.ofSource, Token.ofPieces_of_isTiling tokens 0 _ htiling]
      exact Stack.ofTokens_eq_error_iff.mpr hcheck

theorem tagAt_of_append {before inside rest : List Char} {meaning : List Char → Prop}
    (h : meaning (Text.trim inside)) :
    TagAt (before ++ '{' :: '{' :: inside ++ '}' :: '}' :: rest) (byteLength before) meaning := by
  refine ⟨before, inside, rest, rfl, h, rfl, ?_⟩
  rw [List.append_assoc, Position.locate_append]

/-- A tag among the tokens is a tag of the source. -/
theorem tagAt_of_mem {tokens : List Token} {tag : Tag} {place : Nat} {meaning : List Char → Prop}
    (htiling : Token.IsTiling 0 source tokens) (hmem : ⟨.tag tag, place⟩ ∈ tokens)
    (hmeaning : ∀ s, Tag.Spells tag s → meaning s) : TagAt source place meaning := by
  obtain ⟨before, span, rest, rfl, hcovers, hplace⟩ := htiling.tiles.exists_span _ hmem
  cases hcovers with
  | @tag _ inside htag =>
    obtain rfl : place = byteLength before := hplace.trans (Nat.zero_add _)
    have hsource : before ++ ('{' :: '{' :: inside ++ ['}', '}']) ++ rest =
        before ++ '{' :: '{' :: inside ++ '}' :: '}' :: rest := by simp
    rw [hsource]
    exact tagAt_of_append (hmeaning _ htag)

theorem FirstMisfit.tagAt (h : FirstMisfit source misfit) :
    TagAt source misfit.place misfit.fault.IsAbout ∧
      ∀ closing kind path opened, misfit.fault = .crossed closing kind path opened →
        TagAt source opened (Tag.Spells (.opening kind path)) := by
  cases h with
  | badTag hbad =>
    refine ⟨?_, nofun⟩
    cases hbad with
    | mk rest htiling hopens hfault =>
      show TagAt _ (0 + byteLength _) _
      rw [Nat.zero_add]
      exact tagAt_of_append hfault
  | unbalanced htiling hcheck =>
    have hwithin := Stack.misfit_within_of_check (nofun : Stack.Within _ []) (fun _ => id) hcheck
    refine ⟨?_, fun closing kind path opened hcrossed => ?_⟩
    · obtain ⟨tag, htag, hmem⟩ := hwithin.tag
      exact tagAt_of_mem htiling hmem fun s hs => TemplateFault.isAbout_of_tag? htag hs
    · exact tagAt_of_mem htiling (hwithin.opened closing kind path opened hcrossed) fun _ => id

/-- A source that is no template has one misfit that counts, which is reported with the position of
its tag. -/
theorem parse_eq_error_iff (source : String) :
    (∀ error, parse source = .error error ↔ ∃ misfit, FirstMisfit source.toList misfit ∧
      error = .badTemplate (misfit.map (Position.locate source.toList))) ∧
    (∀ misfit other, FirstMisfit source.toList misfit → FirstMisfit source.toList other →
      misfit = other) ∧
    ∀ misfit, FirstMisfit source.toList misfit →
      TagAt source.toList misfit.place misfit.fault.IsAbout ∧
        ∀ closing kind path opened, misfit.fault = .crossed closing kind path opened →
          TagAt source.toList opened (Tag.Spells (.opening kind path)) := by
  refine ⟨fun error => ?_, fun misfit other hmisfit hother => ?_, fun misfit => FirstMisfit.tagAt⟩
  · rw [parse, ofSource, mapError_eq_error_iff]
    simp only [mapError_eq_error_iff, read_eq_error_iff]
    constructor
    · rintro ⟨_, ⟨misfit, hmisfit, rfl⟩, rfl⟩
      exact ⟨misfit, hmisfit, rfl⟩
    · rintro ⟨misfit, hmisfit, rfl⟩
      exact ⟨_, ⟨misfit, hmisfit, rfl⟩, rfl⟩
  · have h := (read_eq_error_iff.mpr hmisfit).symm.trans (read_eq_error_iff.mpr hother)
    exact Except.error.inj h

/-- A block that another one's closing tag follows, and then a tag without a meaning. -/
def lateElse : String :=
  braced "#if a" ++ braced "/each" ++ "\né " ++ braced "else"

theorem parse_eq_error_iff_lateElse : ∃ misfit, FirstMisfit lateElse.toList misfit ∧
    misfit.map (Position.locate lateElse.toList) = ⟨.badTag .elseBranch, ⟨2, 3⟩⟩ := by
  have refused : parse lateElse = .error (.badTemplate ⟨.badTag .elseBranch, ⟨2, 3⟩⟩) := by cbv
  obtain ⟨misfit, first, reported⟩ := ((parse_eq_error_iff lateElse).1 _).mp refused
  exact ⟨misfit, first, (CardError.badTemplate.inj reported).symm⟩

end Template
end TripCards
