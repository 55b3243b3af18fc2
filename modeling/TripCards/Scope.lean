/-
What the names in a template refer to.

Outside of repeated blocks they refer to the fields of the data. Inside of one they refer first to
the place of the item in its sequence, then to the fields of the item, then to what they refer to
outside of the block.
-/
import TripCards.Value

namespace TripCards

inductive Scope where
  | root (fields : Fields)
  | item (value : Value) (index count : Nat) (outer : Scope)

namespace Scope

/-- The place of an item among `count` items. -/
def placeOf (index count : Nat) : Fields :=
  [("@index", .number (.whole index)), ("@first", .boolean (index == 0)),
    ("@last", .boolean (index + 1 == count))]

def lookup : Scope → String → Option Value
  | root fields, name => Entries.get? fields name
  | item value index count outer, name =>
    match Entries.get? (placeOf index count) name with
    | some v => some v
    | none =>
      match value.fields?.bind (Entries.get? · name) with
      | some v => some v
      | none => outer.lookup name

/-- Only the first name of a path is looked for outside; the others lead on from its value. -/
def resolve (scope : Scope) (path : Path) : Option Value :=
  (scope.lookup path.head).bind (·.walk path.tail)

end Scope
end TripCards
