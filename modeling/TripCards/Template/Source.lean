/-
Templates written back: the tokens of a tree, and the text that they spell.

A tag is written without blanks that it does not need, so a source that was read and written back
may differ from what it was, but it has the same tokens.
-/
import TripCards.Template.Node
import TripCards.Template.Token

namespace TripCards

def TokenKind.source : TokenKind → String
  | text s => s
  | tag t => t.text

namespace Node

mutual

/-- The tokens of a node, in order. A block stands between its opening tag and its closing tag. -/
def tokens : Node → List TokenKind
  | text s => [.text s]
  | slot path => [.tag (.slot path)]
  | block kind path body =>
      .tag (.opening kind path) :: (tokensOfAll body ++ [.tag (.closing kind)])

def tokensOfAll : List Node → List TokenKind
  | [] => []
  | node :: nodes => node.tokens ++ tokensOfAll nodes

end

theorem tokensOfAll_append (nodes others : List Node) :
    tokensOfAll (nodes ++ others) = tokensOfAll nodes ++ tokensOfAll others := by
  induction nodes with
  | nil => rfl
  | cons node nodes ih => simp only [List.cons_append, tokensOfAll, ih, List.append_assoc]

end Node

namespace Template

def tokens (template : Template) : List TokenKind :=
  Node.tokensOfAll template.nodes

/-- The template as it is written. -/
def source (template : Template) : String :=
  String.join (template.tokens.map TokenKind.source)

end Template
end TripCards
