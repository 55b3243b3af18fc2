/-
Where the fields of a card come from.

There are three layers: the document in the data file, the assignments of the command line over it,
and the defaults of the card under both. `Command.IsLayered` says what is found under each name then,
and in which order the names come. `Command.cardFields_layered` says when there are such fields, and
which fault is reported when there are none.
-/
import TripCards.Proofs.Commands.Loading
import TripCards.Proofs.Json.Standing
import TripCards.Proofs.Schema.Defaults

namespace TripCards
namespace Command

variable {data : Option FilePath} {members : List (String × Json)} {fault : CommandError}
  {world : World}

/-- The fields of a card: the members of a document, the texts of assignments over them, and defaults
where neither of them gives anything. A member that is `null` gives nothing. -/
structure IsLayered (members : List (String × Json)) (assignments : List String)
    (defaults : List (String × String)) (fields : Fields) : Prop where
  get? (name : String) : Entries.get? fields name =
    ((assignments.reverse.find? fun spelled => assignedName spelled = name).map
        fun spelled => .text (assignedText spelled)).or
      (((Entries.get? members name).bind Value.ofJson?).or
        ((Entries.get? defaults name).map .text))
  names :
    let given := Entries.names (members.filter fun member => !member.2.isNull)
    let assigned := ((assignments.map assignedName).filter (· ∉ given)).eraseDups
    Entries.names fields =
      given ++ assigned ++ (Entries.names defaults).filter (· ∉ given ++ assigned)

theorem get?_assignedFields (distinct : Entries.Distinct members) (assignments : List String)
    (name : String) :
    Entries.get? (assignedFields members assignments) name =
      ((assignments.reverse.find? fun spelled => assignedName spelled = name).map
          fun spelled => .text (assignedText spelled)).or
        ((Entries.get? members name).bind Value.ofJson?) := by
  rw [assignedFields, Entries.get?_putAll, ← List.map_reverse, Entries.get?_map_mk,
    Value.get?_ofMembers distinct]

theorem names_assignedFields (members : List (String × Json)) (assignments : List String) :
    let given := Entries.names (members.filter fun member => !member.2.isNull)
    Entries.names (assignedFields members assignments) =
      given ++ ((assignments.map assignedName).filter (· ∉ given)).eraseDups := by
  intro given
  have assigned : Entries.names (assignments.map fun spelled =>
      (assignedName spelled, Value.text (assignedText spelled))) = assignments.map assignedName :=
    List.map_map
  rw [assignedFields, Entries.names_putAll, Value.names_ofMembers, assigned]

theorem isLayered_assignedFields (distinct : Entries.Distinct members)
    (assignments : List String) : IsLayered members assignments [] (assignedFields members assignments) where
  get? name := by
    rw [get?_assignedFields distinct, Entries.get?_nil, Option.map_none, Option.or_none]
  names := by
    rw [names_assignedFields]
    exact (List.append_nil _).symm

theorem isLayered_fillDefaults (distinct : Entries.Distinct members) (assignments : List String)
    (id : String) :
    IsLayered members assignments (Catalog.defaults id)
      (Catalog.fillDefaults id (assignedFields members assignments)) where
  get? name := by
    rw [Catalog.get?_fillDefaults, get?_assignedFields distinct, Option.or_assoc]
  names := by
    rw [Catalog.names_fillDefaults, names_assignedFields]

theorem run_cardFields_of_hasData (h : HasData world.disk data members) (id : String)
    (assignments : List String) (defaults : Bool) :
    ((cardFields id data assignments defaults).run.run world).1 =
      match unassigned? assignments with
      | some spelled => .error (.badAssignment spelled)
      | none =>
        .ok (if defaults then Catalog.fillDefaults id (assignedFields members assignments)
          else assignedFields members assignments) := by
  rw [cardFields, run_andThen, run_loadFields_of_hasData h]
  cases unassigned? assignments <;> rfl

theorem run_cardFields_of_fault (h : DataFault world.disk data fault) (id : String)
    (assignments : List String) (defaults : Bool) :
    ((cardFields id data assignments defaults).run.run world).1 = .error fault := by
  rw [cardFields, run_andThen, run_loadFields_of_fault h]

section

variable (id : String) (data : Option FilePath) (assignments : List String) (defaults : Bool)
  (world : World)

theorem exists_cardFields_iff :
    (∃ fields, ((cardFields id data assignments defaults).run.run world).1 = .ok fields) ↔
      (∃ members, HasData world.disk data members) ∧ unassigned? assignments = none := by
  constructor
  · rintro ⟨fields, h⟩
    rcases hasData_or_fault world.disk data with ⟨members, has⟩ | ⟨fault, hfault⟩
    · refine ⟨⟨members, has⟩, ?_⟩
      rw [run_cardFields_of_hasData has] at h
      cases found : unassigned? assignments with
      | none => rfl
      | some spelled =>
        rw [found] at h
        cases h
    · rw [run_cardFields_of_fault hfault] at h
      cases h
  · rintro ⟨⟨members, has⟩, every⟩
    rw [run_cardFields_of_hasData has, every]
    exact ⟨_, rfl⟩

theorem cardFields_eq_error_iff (fault : CommandError) :
    ((cardFields id data assignments defaults).run.run world).1 = .error fault ↔
      DataFault world.disk data fault ∨
        (∃ members, HasData world.disk data members) ∧
          ∃ spelled, unassigned? assignments = some spelled ∧ fault = .badAssignment spelled := by
  constructor
  · intro h
    rcases hasData_or_fault world.disk data with ⟨members, has⟩ | ⟨other, hother⟩
    · refine .inr ⟨⟨members, has⟩, ?_⟩
      rw [run_cardFields_of_hasData has] at h
      cases found : unassigned? assignments with
      | none =>
        rw [found] at h
        cases h
      | some spelled =>
        rw [found] at h
        exact ⟨spelled, rfl, (Except.error.inj h).symm⟩
    · rw [run_cardFields_of_fault hother] at h
      obtain rfl := Except.error.inj h
      exact .inl hother
  · rintro (hfault | ⟨⟨members, has⟩, spelled, found, rfl⟩)
    · exact run_cardFields_of_fault hfault id assignments defaults
    · rw [run_cardFields_of_hasData has, found]

theorem isLayered_of_cardFields {fields : Fields}
    (h : ((cardFields id data assignments defaults).run.run world).1 = .ok fields) :
    ∃ members, HasData world.disk data members ∧
      IsLayered members assignments (if defaults then Catalog.defaults id else []) fields := by
  obtain ⟨⟨members, has⟩, every⟩ :=
    (exists_cardFields_iff id data assignments defaults world).mp ⟨fields, h⟩
  refine ⟨members, has, ?_⟩
  rw [run_cardFields_of_hasData has, every] at h
  obtain rfl := Except.ok.inj h
  cases defaults with
  | true => exact isLayered_fillDefaults has.distinct assignments id
  | false => exact isLayered_assignedFields has.distinct assignments

end

/-- There are fields for a card just if the data file holds an object and every assignment has an
equals sign, and they come in layers. Otherwise the fault of the data file is reported and, if it has
none, the first assignment without an equals sign. -/
theorem cardFields_layered (id : String) (data : Option FilePath) (assignments : List String)
    (defaults : Bool) (world : World) :
    let outcome := ((cardFields id data assignments defaults).run.run world).1
    ((∃ fields, outcome = .ok fields) ↔
      (∃ members, HasData world.disk data members) ∧
        ∀ spelled ∈ assignments, '=' ∈ spelled.toList) ∧
    (∀ fault, outcome = .error fault ↔
      DataFault world.disk data fault ∨
        (∃ members, HasData world.disk data members) ∧
          ∃ spelled, assignments.find? (fun spelled => '=' ∉ spelled.toList) = some spelled ∧
            fault = .badAssignment spelled) ∧
    ∀ fields, outcome = .ok fields → ∃ members, HasData world.disk data members ∧
      IsLayered members assignments (if defaults then Catalog.defaults id else []) fields := by
  intro outcome
  rw [← unassigned?_eq_none_iff]
  exact ⟨exists_cardFields_iff id data assignments defaults world,
    cardFields_eq_error_iff id data assignments defaults world,
    fun fields h => isLayered_of_cardFields id data assignments defaults world h⟩

/-- A folder with one data file. -/
def dataFolder : Disk :=
  ⟨.folder [("d", .file "\x7b\"trip_title\":\"Rome\",\"days\":null,\"b\":1\x7d".toUTF8)], []⟩

/-- One member is `null` and another is assigned to. One name is assigned twice, one is the empty text,
and one text has an equals sign in it. -/
theorem cardFields_layered_overrides :
    let world := World.fresh dataFolder
    let assignments := ["b=2=3", "=x", "a=1", "a="]
    let fields : Fields := [("trip_title", .text "Rome"), ("b", .text "2=3"), ("", .text "x"),
      ("a", .text ""), ("message_icon", .text "🚗")]
    ((cardFields "departure" (some ⟨"d"⟩) assignments true).run.run world).1 = .ok fields ∧
      (∃ members, HasData dataFolder (some ⟨"d"⟩) members ∧
        IsLayered members assignments [("message_icon", "🚗")] fields) ∧
      ((cardFields "departure" (some ⟨"d"⟩) ["b=1", "c", "d"] true).run.run world).1 =
        .error (.badAssignment "c") := by
  intro world assignments fields
  have loaded : ((cardFields "departure" (some ⟨"d"⟩) assignments true).run.run world).1 =
      .ok fields := by cbv
  obtain ⟨-, -, layered⟩ := cardFields_layered "departure" (some ⟨"d"⟩) assignments true world
  obtain ⟨-, refused, -⟩ :=
    cardFields_layered "departure" (some ⟨"d"⟩) ["b=1", "c", "d"] true world
  obtain ⟨members, has, isLayered⟩ := layered fields loaded
  exact ⟨loaded, ⟨members, has, isLayered⟩,
    (refused _).mpr (.inr ⟨⟨members, has⟩, "c", by decide, rfl⟩)⟩

end Command
end TripCards
