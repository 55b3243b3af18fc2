/-
The values that a card shows: texts, numbers and truth values, and mappings and sequences of them.
-/
import TripCards.Json.Basic
import TripCards.Path

namespace TripCards

inductive Value where
  | text (s : String)
  | number (n : Number)
  | boolean (b : Bool)
  | mapping (fields : List (String × Value))
  | sequence (items : List Value)

/-- The data of a card. -/
abbrev Fields : Type := Entries Value

instance : Inhabited Value := ⟨.mapping []⟩

/-- The values that have no text of their own. -/
inductive Shape where
  | mapping
  | sequence
deriving DecidableEq, Repr

def Shape.name : Shape → String
  | mapping => "mapping"
  | sequence => "sequence"

/-- A path that stands where text is wanted, and what was found there instead. -/
structure Unprintable where
  path : Path
  found : Shape
deriving DecidableEq, Repr

def Unprintable.message (e : Unprintable) : String :=
  "Template type error: '" ++ e.path.text ++ "' resolved to a " ++ e.found.name ++
    ", which cannot be rendered as text"

namespace Value

def kind : Value → String
  | text _ => "string"
  | number _ => "number"
  | boolean _ => "boolean"
  | mapping _ => Shape.mapping.name
  | sequence _ => Shape.sequence.name

/-- The empty text, a zero and `false` do not hold; all else holds, empty collections too. -/
def holds : Value → Bool
  | text s => !s.isEmpty
  | number n => !n.isZero
  | boolean b => b
  | mapping _ => true
  | sequence _ => true

/-- The text that stands for the value where a card shows it under `path`. -/
def shown (path : Path) : Value → Except Unprintable String
  | text s => .ok s
  | number n => .ok n.cardText
  | boolean b => .ok (if b then "true" else "false")
  | mapping _ => .error ⟨path, .mapping⟩
  | sequence _ => .error ⟨path, .sequence⟩

def fields? : Value → Option Fields
  | mapping fields => some fields
  | _ => none

def items? : Value → Option (List Value)
  | sequence items => some items
  | _ => none

/-- The value at the end of a chain of names, each a field of the value before. -/
def walk (value : Value) : List String → Option Value
  | [] => some value
  | name :: names =>
    match value with
    | mapping fields =>
      match Entries.get? fields name with
      | some next => next.walk names
      | none => none
    | _ => none

mutual

/-- Nothing stands for `null`. -/
def ofJson? : Json → Option Value
  | .null => none
  | .boolean b => some (boolean b)
  | .number n => some (number n)
  | .string s => some (text s)
  | .array items => some (sequence (ofItems items))
  | .object members => some (mapping (ofMembers members))

/-- A `null` among items keeps its place, as an empty mapping. -/
def ofItems : List Json → List Value
  | [] => []
  | item :: items => (ofJson? item).getD (mapping []) :: ofItems items

/-- A member that is `null` is left out. -/
def ofMembers : List (String × Json) → List (String × Value)
  | [] => []
  | member :: members =>
    match ofMember member with
    | some field => field :: ofMembers members
    | none => ofMembers members

def ofMember : String × Json → Option (String × Value)
  | (name, json) => (ofJson? json).map (name, ·)

end

mutual

/-- Equality of values: mappings are equal whatever the order of their fields. -/
def same : Value → Value → Bool
  | text s, text t => s == t
  | number m, number n => m.same n
  | boolean a, boolean b => a == b
  | sequence items, sequence others => sameItems items others
  | mapping fields, mapping others => fields.length == others.length && sameFields fields others
  | _, _ => false

def sameItems : List Value → List Value → Bool
  | [], [] => true
  | a :: as, b :: bs => same a b && sameItems as bs
  | _, _ => false

/-- Every field of the first mapping has an equal one in the second. -/
def sameFields : List (String × Value) → List (String × Value) → Bool
  | [], _ => true
  | field :: fields, others => sameField field others && sameFields fields others

def sameField : String × Value → List (String × Value) → Bool
  | (name, value), others =>
    match Entries.get? others name with
    | some other => same value other
    | none => false

end

end Value

namespace Fields

/-- The value at a dotted path; nothing where a name on the way is missing. -/
def resolve (fields : Fields) (path : Path) : Option Value :=
  (Entries.get? fields path.head).bind (·.walk path.tail)

/-- The data of a document, which has to be an object; otherwise the kind of what it is. -/
def ofJson : Json → Except String Fields
  | .object members => .ok (Value.ofMembers members)
  | other => .error other.kind

end Fields
end TripCards
