/-
The texts of templates that have been read, and the cards that are made from them.

A text is read from disk when it is first asked for, and is kept until all texts are forgotten. Two
spellings of one path share their text.
-/
import TripCards.Card
import TripCards.Catalog
import TripCards.Script

namespace TripCards

/-- The texts by the components of their paths. -/
structure Shelf where
  base : FilePath
  texts : List (List FilePath.Component × String)

namespace Catalog

/-- The template file of a card. A name that is not known is taken for the first card, and a
warning says so. -/
def resolve (id : String) : Script FilePath :=
  if isKnown id then .done (fileOf id)
  else
    let warning := "Unknown template '" ++ id ++ "', falling back to '" ++ fallback.id ++ "'"
    .log ⟨.warn, .registry, warning⟩ (.done (fileOf id))

end Catalog

namespace Shelf

def empty (base : FilePath) : Shelf := ⟨base, []⟩

def pathOf (shelf : Shelf) (relative : FilePath) : FilePath :=
  shelf.base.join relative

def find? (shelf : Shelf) (path : FilePath) : Option String :=
  shelf.texts.findSome? fun (key, text) => if key = path.components then some text else none

def contains (shelf : Shelf) (relative : FilePath) : Bool :=
  (shelf.find? (shelf.pathOf relative)).isSome

def size (shelf : Shelf) : Nat :=
  shelf.texts.length

/-- A text that is kept already stays. -/
def keep (shelf : Shelf) (path : FilePath) (text : String) : Shelf :=
  match shelf.find? path with
  | some _ => shelf
  | none => { shelf with texts := shelf.texts ++ [(path.components, text)] }

/-- The text of a template, and the shelf with it. -/
def get (shelf : Shelf) (relative : FilePath) : Script (Except CardError String × Shelf) :=
  let path := shelf.pathOf relative
  match shelf.find? path with
  | some text => .done (.ok text, shelf)
  | none =>
    .log ⟨.debug, .cache, "Template cache miss: " ++ path.text⟩ <| .readText path fun answer =>
      match answer with
      | .ok text => .done (.ok text, shelf.keep path text)
      | .error .notFound => .done (.error (.notFound path), shelf)
      | .error e => .done (.error (.unreadable e), shelf)

/-- The shelf without texts. -/
def clear (shelf : Shelf) : Script Shelf :=
  .log ⟨.debug, .cache, "Invalidating " ++ toString shelf.size ++ " cached templates"⟩
    (.done { shelf with texts := [] })

/-- The template of a card. -/
def load (shelf : Shelf) (id : String) : Script (Except CardError Template × Shelf) := do
  let file ← Catalog.resolve id
  let (text, shelf) ← shelf.get file
  return (text.bind Template.parse, shelf)

/-- The card of that name with this data. -/
def render (shelf : Shelf) (id : String) (data : Fields) :
    Script (Except CardError String × Shelf) := do
  let (template, shelf) ← shelf.load id
  return (template.bind (·.fill data), shelf)

/-- What is shown in the place of a card that cannot be made. -/
def fragment (id : String) : String :=
  "<div class=\"error\">Template rendering failed: " ++ (Catalog.fileOf id).text ++ "</div>"

/-- The card, or a fragment that says that it could not be made. -/
def renderOrFragment (shelf : Shelf) (id : String) (data : Fields) : Script (String × Shelf) := do
  let (card, shelf) ← shelf.render id data
  match card with
  | .ok text => return (text, shelf)
  | .error e =>
    Script.note .error .renderer ("Template rendering error for '" ++ id ++ "': " ++ e.message)
    return (fragment id, shelf)

end Shelf
end TripCards
