/-
A chain of scopes seen as one set of fields.

A scope keeps the item of every open repetition apart and looks for a name from the inside out.
Laying the item and its place over a copy of the fields outside gives every name the same value,
and `lookup_eq_get?_merged` says so. What is proved about plain fields then carries over to scopes.
-/
import TripCards.Scope

namespace TripCards

namespace Entries

variable {α : Type}

/-- The entries with others laid over them. A name that both have keeps its place and takes the
value of the others; the names that only the others have come last. -/
def overlay (entries others : Entries α) : Entries α :=
  entries.map (fun entry => (entry.1, (get? others entry.1).getD entry.2)) ++
    others.filter fun entry => !has entries entry.1

theorem get?_getD_nil (entries? : Option (Entries α)) (name : String) :
    get? (entries?.getD []) name = entries?.bind (get? · name) := by
  cases entries? <;> rfl

/-- A name has the value of the upper entries, or failing that the value of the lower ones. -/
theorem get?_overlay (entries others : Entries α) (name : String) :
    get? (overlay entries others) name = (get? others name).or (get? entries name) := by
  rw [overlay, get?_append, get?_map (fun name value => (get? others name).getD value),
    get?_filter (fun key => !has entries key), has]
  cases get? entries name <;> cases get? others name <;> rfl

end Entries

namespace Fields

/-- The data that the body of a repetition sees for one of `count` items: a copy of the data
outside, with the fields of the item over it, and over those the place of the item. -/
def forItem (fields : Fields) (item : Value) (index count : Nat) : Fields :=
  Entries.overlay (Entries.overlay fields (item.fields?.getD []))
    [("@index", .number (.whole index)), ("@first", .boolean (decide (index = 0))),
      ("@last", .boolean (decide (index + 1 = count)))]

end Fields

namespace Scope

/-- All that a scope sees, copied into one set of fields. -/
def merged : Scope → Fields
  | root fields => fields
  | item value index count outer => outer.merged.forItem value index count

theorem lookup_eq_get?_merged (scope : Scope) (name : String) :
    scope.lookup name = Entries.get? scope.merged name := by
  induction scope with
  | root fields => rfl
  | item value index count outer ih =>
    have place : placeOf index count =
        [("@index", .number (.whole index)), ("@first", .boolean (decide (index = 0))),
          ("@last", .boolean (decide (index + 1 = count)))] := rfl
    rw [lookup, merged, Fields.forItem, Entries.get?_overlay, Entries.get?_overlay, ← place,
      Entries.get?_getD_nil, ih]
    cases Entries.get? (placeOf index count) name with
    | some v => rfl
    | none => cases value.fields?.bind (Entries.get? · name) <;> rfl

theorem resolve_eq_resolve_merged (scope : Scope) (path : Path) :
    scope.resolve path = scope.merged.resolve path := by
  rw [resolve, lookup_eq_get?_merged, Fields.resolve]

end Scope
end TripCards
