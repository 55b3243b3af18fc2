/-
From the texts of a template and of its data to the text of the card.
-/
import TripCards.CardError
import TripCards.Json.Reader
import TripCards.Template.Render

namespace TripCards

/-- The data that a text holds. -/
def Fields.ofString (text : String) : Except CardError Fields :=
  match Json.ofString text with
  | .error misread => .error (.badJson misread)
  | .ok json => (Fields.ofJson json).mapError .notAnObject

def Template.parse (source : String) : Except CardError Template :=
  (Template.ofSource source).mapError .badTemplate

def Template.fill (template : Template) (fields : Fields) : Except CardError String :=
  (template.render fields).mapError .unprintable

/-- Fills the template that a source spells. -/
def fillSource (source : String) (fields : Fields) : Except CardError String :=
  match Template.parse source with
  | .error e => .error e
  | .ok template => template.fill fields

end TripCards
