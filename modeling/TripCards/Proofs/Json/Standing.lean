/-
What data a document stands for.

`Value.StandsFor` says which value a document gives, part by part: items keep their places, with an
empty mapping in the place of `null`, and members keep their order, without those that are `null`.
The conversion gives that value and no other, `ofJson?_eq_some_iff`.

A path leads through the data as it leads through the document, `Fields.resolve_ofJson`. That needs
names that stand once in an object: of two members of one name the first may be `null`, and then the
data has the second one in its place.
-/
import TripCards.Proofs.Json.Distinct

namespace TripCards

namespace Json

/-- The part of a document at the end of a chain of names, each a member of the object before. -/
def walk (json : Json) : List String → Option Json
  | [] => some json
  | name :: names =>
    match json with
    | object members =>
      match Entries.get? members name with
      | some next => next.walk names
      | none => none
    | _ => none

/-- A chain of names that leads to no part of a document: what it has led to at one of the names is
no object, or is an object without a member of that name. -/
inductive Misses : Json → List String → Prop where
  | noObject {json : Json} {name : String} {names : List String} :
      (∀ members, json ≠ object members) → Misses json (name :: names)
  | noMember {members : List (String × Json)} {name : String} {names : List String} :
      name ∉ Entries.names members → Misses (object members) (name :: names)
  | later {members : List (String × Json)} {name : String} {names : List String} {next : Json} :
      Entries.get? members name = some next → Misses next names →
      Misses (object members) (name :: names)

theorem walk_eq_none_iff {json : Json} {names : List String} :
    json.walk names = none ↔ json.Misses names := by
  induction names generalizing json with
  | nil => exact iff_of_false (Option.some_ne_none json) nofun
  | cons name names ih =>
    cases json with
    | null | boolean | number | string | array => exact iff_of_true rfl (.noObject nofun)
    | object members =>
      rw [walk]
      cases found : Entries.get? members name with
      | none => exact iff_of_true rfl (.noMember (Entries.get?_eq_none_iff.mp found))
      | some next =>
        refine ih.trans ⟨.later found, fun h => ?_⟩
        cases h with
        | noObject h => exact absurd rfl (h members)
        | noMember h =>
          rw [← Entries.get?_eq_none_iff, found] at h
          cases h
        | later found' h =>
          obtain rfl := Option.some.inj (found.symm.trans found')
          exact h

end Json

namespace Value

mutual

/-- The value that a document stands for. There is none for `null`. -/
inductive StandsFor : Value → Json → Prop where
  | text {s : String} : StandsFor (text s) (.string s)
  | number {n : Number} : StandsFor (number n) (.number n)
  | boolean {b : Bool} : StandsFor (boolean b) (.boolean b)
  | sequence {values : List Value} {items : List Json} :
      List.Forall₂ StandsForItem values items → StandsFor (sequence values) (.array items)
  | mapping {fields : Fields} {members : List (String × Json)} :
      List.Forall₂ StandsForMember fields (members.filter fun member => !member.2.isNull) →
      StandsFor (mapping fields) (.object members)

inductive StandsForItem : Value → Json → Prop where
  | null : StandsForItem (mapping []) .null
  | given {value : Value} {item : Json} : StandsFor value item → StandsForItem value item

inductive StandsForMember : String × Value → String × Json → Prop where
  | mk {name : String} {value : Value} {json : Json} :
      StandsFor value json → StandsForMember (name, value) (name, json)

end

/-! The conversion gives the value that a document stands for -/

/-- What stands for an item, if the item itself is converted right. -/
theorem standsForItem_iff {item : Json}
    (hitem : ∀ value, ofJson? item = some value ↔ StandsFor value item) {value : Value} :
    StandsForItem value item ↔ (ofJson? item).getD (mapping []) = value := by
  constructor
  · intro h
    cases h with
    | null => rfl
    | given h => rw [(hitem value).mpr h, Option.getD_some]
  · rintro rfl
    cases found : ofJson? item with
    | none =>
      cases item with
      | null => exact .null
      | boolean | number | string | array | object => cases found
    | some value => exact .given ((hitem value).mp found)

mutual

theorem ofJson?_eq_some_iff (json : Json) (value : Value) :
    ofJson? json = some value ↔ StandsFor value json := by
  cases json with
  | null => exact iff_of_false nofun nofun
  | boolean b =>
    constructor
    · rintro ⟨⟩
      exact .boolean
    · rintro ⟨⟩
      rfl
  | number n =>
    constructor
    · rintro ⟨⟩
      exact .number
    · rintro ⟨⟩
      rfl
  | string s =>
    constructor
    · rintro ⟨⟩
      exact .text
    · rintro ⟨⟩
      rfl
  | array items =>
    rw [ofJson?, Option.some.injEq]
    constructor
    · rintro rfl
      exact .sequence ((ofItems_eq_iff items _).mp rfl)
    · rintro ⟨⟩
      rename_i values h
      rw [(ofItems_eq_iff items values).mpr h]
  | object members =>
    rw [ofJson?, Option.some.injEq]
    constructor
    · rintro rfl
      exact .mapping ((ofMembers_eq_iff members _).mp rfl)
    · rintro ⟨⟩
      rename_i fields h
      rw [(ofMembers_eq_iff members fields).mpr h]

theorem ofItems_eq_iff (items : List Json) (values : List Value) :
    ofItems items = values ↔ List.Forall₂ StandsForItem values items := by
  cases items with
  | nil => rw [ofItems, List.forall₂_nil_right_iff, eq_comm]
  | cons item items =>
    rw [ofItems, List.forall₂_cons_right_iff]
    simp only [standsForItem_iff (ofJson?_eq_some_iff item), ← ofItems_eq_iff items]
    constructor
    · rintro rfl
      exact ⟨_, _, rfl, rfl, rfl⟩
    · rintro ⟨value, values, rfl, rfl, rfl⟩
      rfl

theorem ofMembers_eq_iff (members : List (String × Json)) (fields : Fields) :
    ofMembers members = fields ↔
      List.Forall₂ StandsForMember fields (members.filter fun member => !member.2.isNull) := by
  cases members with
  | nil => rw [ofMembers, List.filter_nil, List.forall₂_nil_right_iff, eq_comm]
  | cons member members =>
    obtain ⟨name, json⟩ := member
    rw [ofMembers, ofMember, List.filter_cons, ← isSome_ofJson?]
    cases found : ofJson? json with
    | none => exact ofMembers_eq_iff members fields
    | some value =>
      rw [if_pos Option.isSome_some, List.forall₂_cons_right_iff]
      simp only [← ofMembers_eq_iff members]
      constructor
      · rintro rfl
        exact ⟨_, _, .mk ((ofJson?_eq_some_iff json value).mp found), rfl, rfl⟩
      · rintro ⟨field, fields, h, rfl, rfl⟩
        cases h with
        | @mk _ other _ h =>
          rw [(ofJson?_eq_some_iff json other).mpr h] at found
          obtain rfl := Option.some.inj found
          rfl

end

/-! Paths through the data and through the document -/

/-- A member is found under its name, if it is not `null`. -/
theorem get?_ofMembers {members : List (String × Json)} (distinct : Entries.Distinct members)
    (name : String) :
    Entries.get? (ofMembers members) name = (Entries.get? members name).bind ofJson? := by
  induction members with
  | nil => rfl
  | cons member members ih =>
    obtain ⟨key, json⟩ := member
    obtain ⟨fresh, distinct⟩ := Entries.distinct_cons_iff.mp distinct
    rw [ofMembers, ofMember, Entries.get?_cons]
    by_cases same : key = name
    · rw [if_pos same, Option.bind_some]
      cases ofJson? json with
      | none =>
        -- No other member has the name, so nothing takes the place of the one left out.
        have missing : Entries.get? members name = none :=
          Entries.get?_eq_none_iff.mpr (same ▸ fresh)
        exact (ih distinct).trans (by rw [missing, Option.bind_none])
      | some value => exact (Entries.get?_cons _ _ _ _).trans (if_pos same)
    · rw [if_neg same, ← ih distinct]
      cases ofJson? json with
      | none => rfl
      | some value => exact (Entries.get?_cons _ _ _ _).trans (if_neg same)

theorem walk_ofJson? {json : Json} (distinct : json.AllDistinct) (names : List String) :
    (ofJson? json).bind (·.walk names) = (json.walk names).bind ofJson? := by
  induction names generalizing json with
  | nil => cases json <;> rfl
  | cons name names ih =>
    cases distinct with
    | null | boolean | number | string | array => rfl
    | @object members distinct each =>
      rw [ofJson?, Option.bind_some, walk, Json.walk, get?_ofMembers distinct]
      cases found : Entries.get? members name with
      | none => rfl
      | some next =>
        rw [Option.bind_some, ← ih (each _ (Entries.mem_of_get?_eq_some found))]
        cases ofJson? next <;> rfl

end Value

namespace Fields

theorem resolve_ofMembers {members : List (String × Json)}
    (distinct : (Json.object members).AllDistinct) (path : Path) :
    resolve (Value.ofMembers members) path =
      ((Json.object members).walk (path.head :: path.tail)).bind Value.ofJson? := by
  rw [← Value.walk_ofJson? distinct, Value.ofJson?, Option.bind_some, resolve, Value.walk]
  cases Entries.get? (Value.ofMembers members) path.head <;> rfl

/-- A path leads to what stands for the part of the document that it leads to there, and to nothing
just if it misses the document or ends at `null`. -/
theorem resolve_ofJson {members : List (String × Json)}
    (distinct : (Json.object members).AllDistinct) (path : Path) :
    let document := Json.object members
    let names := path.head :: path.tail
    ∃ fields, ofJson document = .ok fields ∧ (Value.mapping fields).StandsFor document ∧
      fields.resolve path = (document.walk names).bind Value.ofJson? ∧
      (fields.resolve path = none ↔ document.Misses names ∨ document.walk names = some .null) ∧
      ∀ part, document.walk names = some part →
        ∀ value, fields.resolve path = some value ↔ value.StandsFor part := by
  intro document names
  have resolved := resolve_ofMembers distinct path
  refine ⟨Value.ofMembers members, rfl, (Value.ofJson?_eq_some_iff document _).mp rfl, resolved, ?_,
    fun part hpart value => ?_⟩
  · rw [resolved, Option.bind_eq_none_iff, ← Json.walk_eq_none_iff]
    cases hpart : document.walk names with
    | none => simp
    | some part => cases part <;> simp [Value.ofJson?]
  · rw [resolved, hpart, Option.bind_some, Value.ofJson?_eq_some_iff]

/-- A `null` in front of the field, one beside it, one among the items and one among the items of an
item. -/
theorem resolve_ofJson_nulls :
    let table : List Json :=
      [.null, .array [.null, .object [("x", .null), ("y", .number (.whole 1))]], .string "end"]
    let members : List (String × Json) :=
      [("z", .null), ("trip", .object [("note", .null), ("table", .array table)])]
    let path : Path := ⟨"trip", ["table"]⟩
    (Json.object members).AllDistinct ∧
      ∃ fields, ofJson (.object members) = .ok fields ∧ Entries.names fields = ["trip"] ∧
        fields.resolve path = some (.sequence
          [.mapping [], .sequence [.mapping [], .mapping [("y", .number (.whole 1))]],
            .text "end"]) ∧
        fields.resolve ⟨"z", []⟩ = none ∧ fields.resolve ⟨"trip", ["note", "table"]⟩ = none := by
  intro table members path
  have distinct : (Json.object members).AllDistinct := by
    refine .object (by rw [Entries.Distinct]; decide) ?_
    rw [List.forall_mem_cons, List.forall_mem_singleton]
    refine ⟨.null, .object (by rw [Entries.Distinct]; decide) ?_⟩
    rw [List.forall_mem_cons, List.forall_mem_singleton]
    refine ⟨.null, .array ?_⟩
    rw [List.forall_mem_cons, List.forall_mem_cons, List.forall_mem_singleton]
    refine ⟨.null, .array ?_, .string⟩
    rw [List.forall_mem_cons, List.forall_mem_singleton]
    refine ⟨.null, .object (by rw [Entries.Distinct]; decide) ?_⟩
    rw [List.forall_mem_cons, List.forall_mem_singleton]
    exact ⟨.null, .number⟩
  obtain ⟨fields, hfields, -, resolved, -⟩ := resolve_ofJson distinct path
  obtain rfl := Except.ok.inj hfields
  exact ⟨distinct, _, hfields, rfl, resolved, rfl, rfl⟩

end Fields
end TripCards
