/-
Checking data against a schema.

Every violation is reported, in the order of the schema and of the items: first the fields that are
to hold, then the parts one by one, each with what lies in it before the next.
-/
import TripCards.Address.Basic
import TripCards.Schema.Rule
import TripCards.Schema.Violation
import TripCards.Value

namespace TripCards
namespace Rule

/-- The problem of a number beyond its bounds. -/
def boundProblems (least most : Option Nat) (n : Number) : List Problem :=
  (least.filter n.isBelow).toList.map .below ++ (most.filter n.isAbove).toList.map .above

mutual

/-- The violations of a rule by a value that lies at `place`. -/
def violations (place : Place) (value : Value) : Rule → List Violation
  | text =>
    match value with
    | .text _ => []
    | _ => [⟨place, .notText⟩]
  | webAddress =>
    match value with
    | .text s => if Address.isValid s then [] else [⟨place, .notWebAddress⟩]
    | _ => [⟨place, .notWebAddress⟩]
  | number least most =>
    match value with
    | .number n => (boundProblems least most n).map (⟨place, ·⟩)
    | _ => [⟨place, .notNumber⟩]
  | list parts =>
    match value with
    | .sequence items =>
      items.zipIdx.flatMap fun (item, index) =>
        match item with
        | .mapping fields => violationsOfParts (place ++ [.item index]) fields parts
        | _ => [⟨place ++ [.item index], .notMapping⟩]
    | _ => [⟨place, .notSequence⟩]
  | object parts =>
    match value with
    | .mapping fields => violationsOfParts place fields parts
    | _ => [⟨place, .notMapping⟩]

def violationsOfParts (place : Place) (fields : List (String × Value)) :
    List (FieldRule Rule) → List Violation
  | [] => []
  | part :: parts => violationsOfPart place fields part ++ violationsOfParts place fields parts

/-- The violations of a part of the mapping at `place`. -/
def violationsOfPart (place : Place) (fields : List (String × Value)) :
    FieldRule Rule → List Violation
  | ⟨name, required, rule⟩ =>
    match Entries.get? fields name with
    | some value => violations (place ++ [.field name]) value rule
    | none => if required then [⟨place ++ [.field name], .missing⟩] else []

end

end Rule

namespace Schema

/-- The fields that are to be there and are not. -/
def presenceViolations (schema : Schema) (data : Fields) : List Violation :=
  (schema.key.filter fun name => !(Entries.get? data name).any Value.holds).map
      (fun name => ⟨[.field name], .missing⟩) ++
    (schema.keySequences.filter fun name =>
        ((Entries.get? data name).bind Value.items?).isNone).map
      (fun name => ⟨[.field name], .missingSequence⟩)

/-- What is known already is not reported again. -/
def addNew (known : List Violation) (v : Violation) : List Violation :=
  if v ∈ known then known else known ++ [v]

def violations (schema : Schema) (data : Fields) : List Violation :=
  (Rule.violationsOfParts [] data schema.fields).foldl addNew (schema.presenceViolations data)

/-- The data with a text for each default field that it does not have. -/
def fillDefaults (schema : Schema) (data : Fields) : Fields :=
  schema.defaults.foldl
    (fun data (name, text) =>
      if Entries.has data name then data else Entries.put data name (.text text))
    data

end Schema
end TripCards
