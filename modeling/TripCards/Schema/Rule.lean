/-
What the data of a card has to be like.
-/

namespace TripCards

/-- What a mapping has to have under a name. A field that is not required may be left out, but has
to be right where it is there. -/
structure FieldRule (Rule : Type) where
  name : String
  required : Bool
  rule : Rule
deriving Repr

/-- Bounds are inclusive. A list is a sequence of mappings, each with the same parts. -/
inductive Rule where
  | text
  | webAddress
  | number (least most : Option Nat)
  | list (parts : List (FieldRule Rule))
  | object (parts : List (FieldRule Rule))

/-- The requirements of a card. `key` names the fields that have to hold, and `keySequences` those
that have to be sequences, beyond what the rules of the fields say. -/
structure Schema where
  key : List String
  keySequences : List String
  fields : List (FieldRule Rule)
  defaults : List (String × String)

namespace FieldRule

variable {Rule : Type}

def needed (name : String) (rule : Rule) : FieldRule Rule := ⟨name, true, rule⟩

def optional (name : String) (rule : Rule) : FieldRule Rule := ⟨name, false, rule⟩

end FieldRule
end TripCards
