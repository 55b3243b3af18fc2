/-
Filling a template with data.
-/
import TripCards.Scope
import TripCards.Template.Node

namespace TripCards

namespace Node

mutual

/-- The output so far, with what the node adds to it. A path without a value adds nothing. -/
def render (scope : Scope) (out : String) : Node → Except Unprintable String
  | text s => .ok (out ++ s)
  | slot path =>
    match scope.resolve path with
    | none => .ok out
    | some value => (value.shown path).map (out ++ ·)
  | block .conditional path body =>
    if (scope.resolve path).any Value.holds then renderAll scope out body else .ok out
  | block .repeated path body =>
    match (scope.resolve path).bind Value.items? with
    | none => .ok out
    | some items =>
      let count := items.length
      items.zipIdx.foldlM (fun out (item, index) =>
        renderAll (.item item index count scope) out body) out

def renderAll (scope : Scope) (out : String) : List Node → Except Unprintable String
  | [] => .ok out
  | node :: nodes =>
    match node.render scope out with
    | .error e => .error e
    | .ok out => renderAll scope out nodes

end

end Node

/-- The text of a card. The first value without a text, in the order of the output, is reported. -/
def Template.render (template : Template) (fields : Fields) : Except Unprintable String :=
  Node.renderAll (.root fields) "" template.nodes

end TripCards
