/-
Neighbouring texts of a template, joined to one.

Trees that are put together from parts have texts next to each other, and empty ones. A source
cannot tell them apart from one text, so the tree that is read from it is the joined one. It is
filled in the same way: `Template.fillSource_source`.
-/
import TripCards.Proofs.Template.Written

namespace TripCards

/-- Whether the path can be written in a template. -/
def Path.isPlain (path : Path) : Bool :=
  Tag.isName path.head.toList && path.tail.all fun name => Tag.isName name.toList

theorem Path.isPlain_iff {path : Path} : path.isPlain = true ↔ path.Plain := by
  simp only [isPlain, Plain, Bool.and_eq_true, List.all_eq_true, Tag.isName_iff,
    List.forall_mem_cons]

/-- What the tokens spell. -/
def TokenKind.sourceOfAll (kinds : List TokenKind) : String :=
  String.join (kinds.map TokenKind.source)

theorem TokenKind.sourceOfAll_cons (kind : TokenKind) (kinds : List TokenKind) :
    sourceOfAll (kind :: kinds) = kind.source ++ sourceOfAll kinds := by
  rw [sourceOfAll, List.map_cons, String.join_cons]
  rfl

theorem TokenKind.sourceOfAll_append (kinds others : List TokenKind) :
    sourceOfAll (kinds ++ others) = sourceOfAll kinds ++ sourceOfAll others := by
  rw [sourceOfAll, List.map_append, String.join_append]
  rfl

namespace Node

open TokenKind (sourceOfAll)

/-- A text in front of nodes, joined with the text that comes first in them. -/
def withText (s : String) : List Node → List Node
  | text t :: nodes => text (s ++ t) :: nodes
  | nodes => if s = "" then nodes else text s :: nodes

mutual

/-- The node in front of others that are joined already. -/
def joinedBefore (rest : List Node) : Node → List Node
  | text s => withText s rest
  | slot path => slot path :: rest
  | block kind path body => block kind path (joinedAll body) :: rest

def joinedAll : List Node → List Node
  | [] => []
  | node :: nodes => node.joinedBefore (joinedAll nodes)

end

/-- A text is joined with a text, or stands in front of the nodes, or was empty. -/
theorem withText_cases (s : String) (nodes : List Node) :
    (∃ t rest, nodes = text t :: rest ∧ withText s nodes = text (s ++ t) :: rest) ∨
      (∀ next ∈ nodes.head?, next.isText = false) ∧
        (s = "" ∧ withText s nodes = nodes ∨ s ≠ "" ∧ withText s nodes = text s :: nodes) := by
  have apart (h : ∀ next ∈ nodes.head?, next.isText = false)
      (unjoined : withText s nodes = if s = "" then nodes else text s :: nodes) :
      (∀ next ∈ nodes.head?, next.isText = false) ∧
        (s = "" ∧ withText s nodes = nodes ∨ s ≠ "" ∧ withText s nodes = text s :: nodes) := by
    refine ⟨h, ?_⟩
    rw [unjoined]
    by_cases empty : s = ""
    · exact Or.inl ⟨empty, if_pos empty⟩
    · exact Or.inr ⟨empty, if_neg empty⟩
  cases nodes with
  | nil => exact Or.inr (apart nofun rfl)
  | cons node nodes =>
    cases node with
    | text t => exact Or.inl ⟨t, nodes, rfl, rfl⟩
    | slot path => exact Or.inr (apart (by rintro _ ⟨⟩; rfl) rfl)
    | block kind path body => exact Or.inr (apart (by rintro _ ⟨⟩; rfl) rfl)

/-! ### What is written -/

theorem source_withText (s : String) (nodes : List Node) :
    sourceOfAll (tokensOfAll (withText s nodes)) = s ++ sourceOfAll (tokensOfAll nodes) := by
  have first (t : String) (nodes : List Node) :
      sourceOfAll (tokensOfAll (text t :: nodes)) = t ++ sourceOfAll (tokensOfAll nodes) :=
    TokenKind.sourceOfAll_cons (.text t) _
  rcases withText_cases s nodes with ⟨t, rest, rfl, joined⟩ | ⟨-, ⟨rfl, same⟩ | ⟨-, front⟩⟩
  · rw [joined, first, first, String.append_assoc]
  · rw [same, String.empty_append]
  · rw [front, first]

mutual

theorem source_joinedBefore (node : Node) (rest : List Node) :
    sourceOfAll (tokensOfAll (node.joinedBefore rest)) =
      sourceOfAll node.tokens ++ sourceOfAll (tokensOfAll rest) := by
  cases node with
  | text s =>
    have whole : sourceOfAll (tokens (text s)) = s :=
      (TokenKind.sourceOfAll_cons (.text s) []).trans String.append_empty
    rw [joinedBefore, source_withText, whole]
  | slot path => rw [joinedBefore, tokensOfAll, TokenKind.sourceOfAll_append]
  | block kind path body =>
    rw [joinedBefore, tokensOfAll, TokenKind.sourceOfAll_append, tokens, tokens,
      TokenKind.sourceOfAll_cons, TokenKind.sourceOfAll_cons, TokenKind.sourceOfAll_append,
      TokenKind.sourceOfAll_append, source_joinedAll body]

theorem source_joinedAll (nodes : List Node) :
    sourceOfAll (tokensOfAll (joinedAll nodes)) = sourceOfAll (tokensOfAll nodes) := by
  cases nodes with
  | nil => rfl
  | cons node nodes =>
    rw [joinedAll, source_joinedBefore node, source_joinedAll nodes, tokensOfAll,
      TokenKind.sourceOfAll_append]

end

/-! ### How it is filled -/

theorem renderAll_withText (scope : Scope) (out s : String) (nodes : List Node) :
    renderAll scope out (withText s nodes) = renderAll scope (out ++ s) nodes := by
  have first (out t : String) (nodes : List Node) :
      renderAll scope out (text t :: nodes) = renderAll scope (out ++ t) nodes := rfl
  rcases withText_cases s nodes with ⟨t, rest, rfl, joined⟩ | ⟨-, ⟨rfl, same⟩ | ⟨-, front⟩⟩
  · rw [joined, first, first, String.append_assoc]
  · rw [same, String.append_empty]
  · rw [front, first]

mutual

theorem renderAll_joinedBefore (scope : Scope) (out : String) (node : Node) (rest : List Node) :
    renderAll scope out (node.joinedBefore rest) = renderAll scope out (node :: rest) := by
  cases node with
  | text s => exact renderAll_withText scope out s rest
  | slot path => rfl
  | block kind path body =>
    have hbody := fun inner out => renderAll_joinedAll inner out body
    rw [joinedBefore, renderAll, renderAll]
    cases kind with
    | conditional => rw [render, render, hbody]
    | «repeated» => simp only [render, hbody]

theorem renderAll_joinedAll (scope : Scope) (out : String) (nodes : List Node) :
    renderAll scope out (joinedAll nodes) = renderAll scope out nodes := by
  cases nodes with
  | nil => rfl
  | cons node nodes =>
    rw [joinedAll, renderAll_joinedBefore scope out node, renderAll, renderAll]
    cases node.render scope out with
    | error e => rfl
    | ok out => exact renderAll_joinedAll scope out nodes

end

/-! ### How deep it is -/

theorem height_withText (s : String) (nodes : List Node) :
    heightOfAll (withText s nodes) = heightOfAll nodes := by
  have first (t : String) (nodes : List Node) :
      heightOfAll (text t :: nodes) = heightOfAll nodes := Nat.zero_max _
  rcases withText_cases s nodes with ⟨t, rest, rfl, joined⟩ | ⟨-, ⟨rfl, same⟩ | ⟨-, front⟩⟩
  · rw [joined, first, first]
  · rw [same]
  · rw [front, first]

mutual

theorem height_joinedBefore (node : Node) (rest : List Node) :
    heightOfAll (node.joinedBefore rest) = max node.height (heightOfAll rest) := by
  cases node with
  | text s =>
    rw [joinedBefore, height_withText]
    exact (Nat.zero_max _).symm
  | slot path => rfl
  | block kind path body =>
    rw [joinedBefore, heightOfAll, height, height, height_joinedAll body]

theorem height_joinedAll (nodes : List Node) : heightOfAll (joinedAll nodes) = heightOfAll nodes := by
  cases nodes with
  | nil => rfl
  | cons node nodes => rw [joinedAll, height_joinedBefore node, height_joinedAll nodes, heightOfAll]

end

/-! ### What is read back -/

mutual

/-- No text has an opening brace, and all paths can be written. -/
def isPlain : Node → Bool
  | text s => s.toList.all (· != '{')
  | slot path => path.isPlain && path.toChars != "else".toList
  | block _ path body => path.isPlain && arePlain body

def arePlain : List Node → Bool
  | [] => true
  | node :: nodes => node.isPlain && arePlain nodes

end

theorem areTidy_withText {s : String} (plain : '{' ∉ s.toList) {nodes : List Node}
    (tidy : AreTidy nodes) : AreTidy (withText s nodes) := by
  rcases withText_cases s nodes with ⟨t, rest, rfl, joined⟩ | ⟨apart, ⟨rfl, same⟩ | ⟨given, front⟩⟩
  · obtain ⟨⟨given, plainText⟩, apart, tidyRest⟩ := tidy
    rw [joined]
    refine ⟨⟨?_, ?_⟩, apart, tidyRest⟩
    · intro empty
      exact given (String.append_eq_empty_iff.mp empty).2
    · rw [String.toList_append, List.mem_append, not_or]
      exact ⟨plain, plainText⟩
  · rwa [same]
  · rw [front]
    exact ⟨⟨given, plain⟩, fun _ => apart, tidy⟩

mutual

theorem areTidy_joinedBefore (node : Node) (plain : node.isPlain = true) {rest : List Node}
    (tidy : AreTidy rest) : AreTidy (node.joinedBefore rest) := by
  cases node with
  | text s =>
    refine areTidy_withText (fun brace => ?_) tidy
    rw [isPlain, List.all_eq_true] at plain
    exact absurd (plain _ brace) (by decide)
  | slot path =>
    rw [isPlain, Bool.and_eq_true, Path.isPlain_iff, bne_iff_ne] at plain
    exact ⟨plain, nofun, tidy⟩
  | block kind path body =>
    rw [isPlain, Bool.and_eq_true, Path.isPlain_iff] at plain
    exact ⟨⟨plain.1, areTidy_joinedAll body plain.2⟩, nofun, tidy⟩

theorem areTidy_joinedAll (nodes : List Node) (plain : arePlain nodes = true) :
    AreTidy (joinedAll nodes) := by
  cases nodes with
  | nil => trivial
  | cons node nodes =>
    rw [arePlain, Bool.and_eq_true] at plain
    exact areTidy_joinedBefore node plain.1 (areTidy_joinedAll nodes plain.2)

end

end Node

namespace Template

def joined (template : Template) : Template := ⟨Node.joinedAll template.nodes⟩

theorem parse_source_joined {template : Template} (plain : Node.arePlain template.nodes = true)
    (height : template.height ≤ maxDepth) : parse template.source = .ok template.joined := by
  have written : template.joined.source = template.source := Node.source_joinedAll template.nodes
  rw [← written]
  refine parse_source (Node.areTidy_joinedAll template.nodes plain) ?_
  rwa [Template.height, joined, Node.height_joinedAll]

/-- A tree and its source are filled alike. -/
theorem fillSource_source {template : Template} (plain : Node.arePlain template.nodes = true)
    (height : template.height ≤ maxDepth) (fields : Fields) :
    fillSource template.source fields = template.fill fields := by
  rw [fillSource, parse_source_joined plain height]
  exact congrArg (Except.mapError _) (Node.renderAll_joinedAll (.root fields) "" template.nodes)

end Template
end TripCards
