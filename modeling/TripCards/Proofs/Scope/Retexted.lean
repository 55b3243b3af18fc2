/-
Data with other texts in the place of its own.

`Value.mapTexts` changes every text of a value, at any depth, and leaves its shape, its names, its
numbers and its truth values. What a path leads to changes likewise, and nothing else is led to:
`Scope.resolve_mapTexts`. A text that a path leads to is a text of the data: `Scope.Has.of_resolve`.
-/
import TripCards.Proofs.Scope.Merged

namespace TripCards

namespace Value

mutual

/-- The value with `f` applied to each of its texts. -/
def mapTexts (f : String → String) : Value → Value
  | text s => text (f s)
  | number n => number n
  | boolean b => boolean b
  | mapping fields => mapping (mapTextsOfFields f fields)
  | sequence items => sequence (mapTextsOfItems f items)

def mapTextsOfItems (f : String → String) : List Value → List Value
  | [] => []
  | item :: items => item.mapTexts f :: mapTextsOfItems f items

def mapTextsOfFields (f : String → String) : List (String × Value) → List (String × Value)
  | [] => []
  | field :: fields => mapTextsOfField f field :: mapTextsOfFields f fields

def mapTextsOfField (f : String → String) : String × Value → String × Value
  | (name, value) => (name, value.mapTexts f)

end

/-- The text is one of the texts of the value, at any depth. -/
inductive Has (s : String) : Value → Prop where
  | text : Has s (.text s)
  | field {name : String} {value : Value} {fields : List (String × Value)} :
      (name, value) ∈ fields → Has s value → Has s (.mapping fields)
  | item {value : Value} {items : List Value} :
      value ∈ items → Has s value → Has s (.sequence items)

end Value

namespace Fields

/-- The data with `f` applied to each of its texts. -/
def mapTexts (f : String → String) (fields : Fields) : Fields :=
  fields.map fun entry => (entry.1, entry.2.mapTexts f)

/-- The text is one of the texts of the data, at any depth. -/
def Has (s : String) (fields : Fields) : Prop :=
  Value.Has s (.mapping fields)

end Fields

namespace Value

variable (f : String → String)

theorem mapTextsOfFields_eq (fields : Fields) :
    mapTextsOfFields f fields = Fields.mapTexts f fields := by
  induction fields with
  | nil => rfl
  | cons field fields ih =>
    obtain ⟨name, value⟩ := field
    rw [mapTextsOfFields, ih]
    rfl

theorem mapTextsOfItems_eq (items : List Value) :
    mapTextsOfItems f items = items.map (mapTexts f) := by
  induction items with
  | nil => rfl
  | cons item items ih => rw [mapTextsOfItems, ih, List.map_cons]

end Value

namespace Fields

theorem get?_mapTexts (f : String → String) (fields : Fields) (name : String) :
    Entries.get? (fields.mapTexts f) name = (Entries.get? fields name).map (Value.mapTexts f) :=
  Entries.get?_map (fun _ => Value.mapTexts f) fields name

end Fields

namespace Value

variable (f : String → String)

theorem fields?_mapTexts (value : Value) :
    (value.mapTexts f).fields? = value.fields?.map (Fields.mapTexts f) := by
  cases value with
  | mapping fields => exact congrArg some (mapTextsOfFields_eq f fields)
  | text | number | boolean | sequence => rfl

theorem items?_mapTexts (value : Value) :
    (value.mapTexts f).items? = value.items?.map (List.map (mapTexts f)) := by
  cases value with
  | sequence items => exact congrArg some (mapTextsOfItems_eq f items)
  | text | number | boolean | mapping => rfl

theorem walk_mapTexts (value : Value) (names : List String) :
    (value.mapTexts f).walk names = (value.walk names).map (mapTexts f) := by
  induction names generalizing value with
  | nil => rfl
  | cons name names ih =>
    cases value with
    | text | number | boolean | sequence => rfl
    | mapping fields =>
      rw [mapTexts, mapTextsOfFields_eq, walk, walk, Fields.get?_mapTexts]
      cases Entries.get? fields name with
      | none => rfl
      | some next => exact ih next

variable {f}

/-- What holds depends on texts only by whether they are empty. -/
theorem holds_mapTexts (hf : ∀ s, f s = "" ↔ s = "") (value : Value) :
    (value.mapTexts f).holds = value.holds := by
  cases value with
  | text s =>
    show (!(f s).isEmpty) = !s.isEmpty
    rw [Bool.not_inj_iff, Bool.eq_iff_iff, String.isEmpty_iff, String.isEmpty_iff]
    exact hf s
  | number | boolean | mapping | sequence => rfl

mutual

theorem mapTexts_id (value : Value) : value.mapTexts id = value := by
  cases value with
  | text | number | boolean => rfl
  | mapping fields => rw [mapTexts, mapTextsOfFields_id fields]
  | sequence items => rw [mapTexts, mapTextsOfItems_id items]

theorem mapTextsOfItems_id (items : List Value) : mapTextsOfItems id items = items := by
  cases items with
  | nil => rfl
  | cons item items => rw [mapTextsOfItems, mapTexts_id item, mapTextsOfItems_id items]

theorem mapTextsOfFields_id (fields : List (String × Value)) :
    mapTextsOfFields id fields = fields := by
  cases fields with
  | nil => rfl
  | cons field fields =>
    rw [mapTextsOfFields, mapTextsOfField_id field, mapTextsOfFields_id fields]

theorem mapTextsOfField_id (field : String × Value) : mapTextsOfField id field = field := by
  obtain ⟨name, value⟩ := field
  rw [mapTextsOfField, mapTexts_id value]

end

variable {s : String}

theorem Has.of_walk {value found : Value} {names : List String}
    (walked : value.walk names = some found) (h : found.Has s) : value.Has s := by
  induction names generalizing value with
  | nil =>
    rw [walk, Option.some.injEq] at walked
    exact walked ▸ h
  | cons name names ih =>
    cases value with
    | text | number | boolean | sequence => cases walked
    | mapping fields =>
      rw [walk] at walked
      split at walked
      · rename_i next isNext
        exact .field (Entries.mem_of_get?_eq_some isNext) (ih walked)
      · cases walked

end Value

namespace Scope

/-- The scope with `f` applied to each text that it sees. -/
def mapTexts (f : String → String) : Scope → Scope
  | root fields => root (fields.mapTexts f)
  | item value index count outer => item (value.mapTexts f) index count (outer.mapTexts f)

/-- The text is one of those of the data, or of an item that the scope lies in. -/
def Has (s : String) : Scope → Prop
  | root fields => fields.Has s
  | item value _ _ outer => value.Has s ∨ outer.Has s

/-- The place of an item is no text. -/
theorem mapTexts_placeOf (f : String → String) (index count : Nat) :
    Fields.mapTexts f (placeOf index count) = placeOf index count := rfl

theorem lookup_mapTexts (f : String → String) (scope : Scope) (name : String) :
    (scope.mapTexts f).lookup name = (scope.lookup name).map (Value.mapTexts f) := by
  induction scope with
  | root fields => exact fields.get?_mapTexts f name
  | item value index count outer ih =>
    have place := (Scope.placeOf index count).get?_mapTexts f name
    rw [mapTexts_placeOf] at place
    have own : (value.mapTexts f).fields?.bind (Entries.get? · name) =
        (value.fields?.bind (Entries.get? · name)).map (Value.mapTexts f) := by
      rw [Value.fields?_mapTexts]
      cases value.fields? with
      | none => rfl
      | some fields => exact fields.get?_mapTexts f name
    rw [mapTexts, lookup, lookup, own, ih]
    cases h : Entries.get? (placeOf index count) name with
    | some v =>
      rw [h] at place
      exact place
    | none => cases value.fields?.bind (Entries.get? · name) <;> rfl

/-- A path leads to the same place with the texts changed. -/
theorem resolve_mapTexts (f : String → String) (scope : Scope) (path : Path) :
    (scope.mapTexts f).resolve path = (scope.resolve path).map (Value.mapTexts f) := by
  rw [resolve, lookup_mapTexts, resolve]
  cases scope.lookup path.head with
  | none => rfl
  | some value => exact value.walk_mapTexts f path.tail

variable {s : String}

theorem Has.of_lookup {scope : Scope} {name : String} {found : Value}
    (looked : scope.lookup name = some found) (h : found.Has s) : scope.Has s := by
  induction scope with
  | root fields => exact .field (Entries.mem_of_get?_eq_some looked) h
  | item value index count outer ih =>
    rw [lookup] at looked
    split at looked
    · -- The place of the item has a number and two truth values, and no text.
      rename_i isPlace
      have mem := Entries.mem_of_get?_eq_some isPlace
      rw [Option.some.inj looked] at mem
      simp only [placeOf, List.mem_cons, Prod.mk.injEq, List.not_mem_nil, or_false] at mem
      rcases mem with ⟨-, rfl⟩ | ⟨-, rfl⟩ | ⟨-, rfl⟩ <;> cases h
    · split at looked
      · rename_i isOwn
        rw [Option.bind_eq_some_iff] at isOwn
        obtain ⟨fields, isMapping, isField⟩ := isOwn
        rw [Option.some.inj looked] at isField
        left
        cases value with
        | mapping own =>
          cases isMapping
          exact .field (Entries.mem_of_get?_eq_some isField) h
        | text | number | boolean | sequence => cases isMapping
      · exact Or.inr (ih looked)

/-- What a path leads to has no texts but those of the scope. -/
theorem Has.of_resolve {scope : Scope} {path : Path} {found : Value}
    (resolved : scope.resolve path = some found) (h : found.Has s) : scope.Has s := by
  rw [resolve, Option.bind_eq_some_iff] at resolved
  obtain ⟨value, looked, walked⟩ := resolved
  exact .of_lookup looked (.of_walk walked h)

end Scope
end TripCards
