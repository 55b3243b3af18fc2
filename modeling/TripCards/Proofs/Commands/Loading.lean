/-
What is loaded for a command, from a data file and from assignments.

A command reads its data file first and then its assignments up to the first that has no equals sign.
Either there is a document with members, `Command.HasData`, or there is a fault, `Command.DataFault`;
in the one case the members are loaded with the assignments made, `run_loadFields_of_hasData`, and in
the other the fault is reported, `run_loadFields_of_fault`. The machine stays as it is.
-/
import TripCards.Commands
import TripCards.Proofs.Json.Distinct
import TripCards.Proofs.Shelf.Answers

namespace TripCards
namespace Command

variable {α β ε : Type}

/-! ## Running a command -/

theorem run_andThen (command : Command α) (f : α → Command β) (world : World) :
    (command >>= f).run.run world =
      match command.run.run world with
      | (.ok a, world) => (f a).run.run world
      | (.error fault, world) => (.error fault, world) := by
  rw [ExceptT.run_bind, Script.run_andThen]
  obtain ⟨outcome, after⟩ := command.run.run world
  cases outcome <;> rfl

theorem run_ofScript (wrap : ε → CommandError) (script : Script (Except ε α)) (world : World) :
    (ofScript wrap script).run.run world =
      ((script.run world).1.mapError wrap, (script.run world).2) :=
  Script.run_bind script _ world

/-! ## Assignments -/

/-- What an assignment gives a text to: all in front of its first equals sign. -/
def assignedName (spelled : String) : String :=
  String.ofList (spelled.toList.takeWhile (· != '='))

/-- The text that it gives: all behind its first equals sign. -/
def assignedText (spelled : String) : String :=
  String.ofList (spelled.toList.dropWhile (· != '=')).tail

theorem readAssignment_eq (spelled : String) :
    readAssignment spelled =
      if '=' ∈ spelled.toList then .ok (assignedName spelled, assignedText spelled)
      else .error (.badAssignment spelled) := by
  rw [readAssignment, Text.cutAt?_eq]
  by_cases h : '=' ∈ spelled.toList
  · rw [if_pos h, if_pos h, assignedName, assignedText]
  · rw [if_neg h, if_neg h]

/-- The first assignment without an equals sign. -/
def unassigned? (assignments : List String) : Option String :=
  assignments.find? fun spelled => '=' ∉ spelled.toList

theorem unassigned?_cons (spelled : String) (assignments : List String) :
    unassigned? (spelled :: assignments) =
      if '=' ∈ spelled.toList then unassigned? assignments else some spelled := by
  rw [unassigned?, List.find?_cons]
  by_cases h : '=' ∈ spelled.toList
  · simp [h, unassigned?]
  · simp [h]

theorem unassigned?_eq_none_iff {assignments : List String} :
    unassigned? assignments = none ↔ ∀ spelled ∈ assignments, '=' ∈ spelled.toList := by
  simp [unassigned?]

/-- Assignments are read up to the first that has no equals sign. -/
theorem readAssignments_eq (assignments : List String) :
    readAssignments assignments =
      match unassigned? assignments with
      | some spelled => .error (.badAssignment spelled)
      | none => .ok (assignments.map fun spelled => (assignedName spelled, assignedText spelled)) := by
  induction assignments with
  | nil => rfl
  | cons spelled assignments ih =>
    have step : readAssignments (spelled :: assignments) =
        (readAssignment spelled).bind fun first =>
          (readAssignments assignments).bind fun others => .ok (first :: others) :=
      List.mapM_cons
    rw [step, readAssignment_eq, ih, unassigned?_cons]
    by_cases h : '=' ∈ spelled.toList
    · rw [if_pos h, if_pos h]
      cases unassigned? assignments <;> rfl
    · rw [if_neg h, if_neg h]
      rfl

/-! ## The data file -/

/-- The members of the document in the data file, and none without a data file. -/
inductive HasData (disk : Disk) : Option FilePath → List (String × Json) → Prop where
  | noFile : HasData disk none []
  | document {path : FilePath} {text : String} {members : List (String × Json)} :
      disk.readText path = .ok text → Json.ofString text = .ok (.object members) →
      HasData disk (some path) members

/-- Why there are none: the file cannot be read as text, the text is no document, or the document is
no object. -/
inductive DataFault (disk : Disk) : Option FilePath → CommandError → Prop where
  | unreadable {path : FilePath} {fault : FileError} :
      disk.readText path = .error fault → DataFault disk (some path) (.dataUnreadable path fault)
  | badJson {path : FilePath} {text : String} {misread : Json.Misread} :
      disk.readText path = .ok text → Json.ofString text = .error misread →
      DataFault disk (some path) (.dataInvalid path (.badJson misread))
  | notAnObject {path : FilePath} {text : String} {json : Json} :
      disk.readText path = .ok text → Json.ofString text = .ok json →
      (∀ members, json ≠ .object members) →
      DataFault disk (some path) (.dataInvalid path (.notAnObject json.kind))

variable {disk : Disk} {data : Option FilePath} {members : List (String × Json)}
  {fault : CommandError} {world : World}

theorem hasData_or_fault (disk : Disk) (data : Option FilePath) :
    (∃ members, HasData disk data members) ∨ ∃ fault, DataFault disk data fault := by
  cases data with
  | none => exact .inl ⟨[], .noFile⟩
  | some path =>
    cases htext : disk.readText path with
    | error fault => exact .inr ⟨_, .unreadable htext⟩
    | ok text =>
      cases hjson : Json.ofString text with
      | error misread => exact .inr ⟨_, .badJson htext hjson⟩
      | ok json =>
        cases json with
        | object members => exact .inl ⟨members, .document htext hjson⟩
        | null | boolean | number | string | array =>
          exact .inr ⟨_, .notAnObject htext hjson nofun⟩

/-- A document that was read has no name twice in an object. -/
theorem HasData.distinct (h : HasData disk data members) : Entries.Distinct members := by
  cases h with
  | noFile => exact Entries.distinct_nil
  | document _ hjson =>
    cases Json.allDistinct_of_ofString hjson
    assumption

theorem run_readText (wrap : FileError → CommandError) (path : FilePath) (world : World) :
    (ofScript wrap (.readText path .done)).run.run world =
      ((world.disk.readText path).mapError wrap, world) :=
  run_ofScript wrap _ world

theorem run_readData_of_text {path : FilePath} {text : String}
    (h : world.disk.readText path = .ok text) :
    (readData (some path)).run.run world =
      ((Fields.ofString text).mapError (.dataInvalid path), world) := by
  rw [readData, run_andThen, run_readText, h]
  exact run_ofScript _ _ world

theorem run_readData_of_hasData (h : HasData world.disk data members) :
    (readData data).run.run world = (.ok (Value.ofMembers members), world) := by
  cases h with
  | noFile => rfl
  | document htext hjson =>
    rw [run_readData_of_text htext, Fields.ofString, hjson]
    rfl

theorem run_readData_of_fault (h : DataFault world.disk data fault) :
    (readData data).run.run world = (.error fault, world) := by
  cases h with
  | unreadable htext =>
    rw [readData, run_andThen, run_readText, htext]
    rfl
  | badJson htext hjson =>
    rw [run_readData_of_text htext, Fields.ofString, hjson]
    rfl
  | @notAnObject path text json htext hjson other =>
    rw [run_readData_of_text htext, Fields.ofString, hjson]
    cases json with
    | object members => exact absurd rfl (other members)
    | null | boolean | number | string | array => rfl

/-! ## Both together -/

/-- The members of a document with the assignments made. -/
def assignedFields (members : List (String × Json)) (assignments : List String) : Fields :=
  Entries.putAll (Value.ofMembers members)
    (assignments.map fun spelled => (assignedName spelled, .text (assignedText spelled)))

theorem run_loadFields_of_hasData (h : HasData world.disk data members)
    (assignments : List String) :
    (loadFields data assignments).run.run world =
      (match unassigned? assignments with
        | some spelled => .error (.badAssignment spelled)
        | none => .ok (assignedFields members assignments), world) := by
  rw [loadFields, run_andThen, run_readData_of_hasData h]
  show (((readAssignments assignments : Command _) >>= _).run.run world) = _
  have read : (liftM (readAssignments assignments) : Command _).run.run world =
      (readAssignments assignments, world) := rfl
  rw [run_andThen, read, readAssignments_eq]
  cases unassigned? assignments with
  | some spelled => rfl
  | none =>
    show (Except.ok (Entries.putAll _ (List.map _ (List.map _ assignments))), world) = _
    rw [List.map_map]
    rfl

theorem run_loadFields_of_fault (h : DataFault world.disk data fault)
    (assignments : List String) :
    (loadFields data assignments).run.run world = (.error fault, world) := by
  rw [loadFields, run_andThen, run_readData_of_fault h]

end Command
end TripCards
