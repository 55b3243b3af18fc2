/-
Templates as trees: text, slots for values, and blocks with a body of their own.
-/
import TripCards.Template.Tag

namespace TripCards

inductive Node where
  | text (text : String)
  | slot (path : Path)
  | block (kind : BlockKind) (path : Path) (body : List Node)

structure Template where
  nodes : List Node

namespace Node

def isBlock : Node → Bool
  | block _ _ _ => true
  | _ => false

end Node

/-- A block inside another is found through the outer one. -/
def Template.hasBlocks (template : Template) : Bool :=
  template.nodes.any Node.isBlock

end TripCards
