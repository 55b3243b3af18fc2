/-
Data with its default fields.

Nothing of the data is touched: the defaults that it lacks come behind it, in the order of the schema,
`Schema.fillDefaults_eq_append`. A default is a text, and the fields that have one may hold any text.
So data that a schema accepts is accepted with the defaults too, `Schema.Accepts.fillDefaults`. These
fields may also be left out, and so nothing else is reported of other data either,
`Schema.violations_fillDefaults`.
-/
import TripCards.Catalog
import TripCards.Proofs.Entries.Putting
import TripCards.Proofs.Schema.Acceptance

namespace TripCards
namespace Schema

variable {schema : Schema} {data : Fields}

/-- One default of those that are filled in. -/
def withDefault (data : Fields) (default : String × String) : Fields :=
  if Entries.has data default.1 then data else Entries.put data default.1 (.text default.2)

theorem fillDefaults_eq (schema : Schema) (data : Fields) :
    schema.fillDefaults data = schema.defaults.foldl withDefault data := rfl

theorem get?_withDefault (data : Fields) (default : String × String) (name : String) :
    Entries.get? (withDefault data default) name =
      (Entries.get? data name).or (if default.1 = name then some (.text default.2) else none) := by
  rw [withDefault, Entries.has]
  cases given : Entries.get? data default.1 with
  | some value =>
    by_cases same : default.1 = name
    · rw [← same, given]
      exact given
    · rw [if_neg same, Option.or_none]
      rfl
  | none =>
    by_cases same : default.1 = name
    · rw [← same, given]
      exact (Entries.get?_put data _ _ _).trans ((if_pos rfl).trans (if_pos rfl).symm)
    · rw [if_neg same, Option.or_none]
      exact (Entries.get?_put data _ _ _).trans (if_neg same)

/-- A field that is there stays, and a default stands for one that is not. -/
theorem get?_fillDefaults (schema : Schema) (data : Fields) (name : String) :
    Entries.get? (schema.fillDefaults data) name =
      (Entries.get? data name).or ((Entries.get? schema.defaults name).map .text) := by
  rw [fillDefaults_eq]
  induction schema.defaults generalizing data with
  | nil => exact Option.or_none.symm
  | cons default defaults ih =>
    obtain ⟨key, text⟩ := default
    rw [List.foldl_cons, ih, get?_withDefault, Entries.get?_cons, Option.or_assoc]
    congr 1
    split <;> rfl

/-- The fields that have defaults may hold any text. -/
def hasTextDefaults (schema : Schema) : Bool :=
  schema.fields.all fun part =>
    match part.rule with
    | .text => true
    | _ => !Entries.has schema.defaults part.name

theorem accepts_default (hdefaults : schema.hasTextDefaults = true) {part : FieldRule Rule}
    (mem : part ∈ schema.fields) {text : String}
    (given : Entries.get? schema.defaults part.name = some text) : part.rule.Accepts (.text text) := by
  have isText := List.all_eq_true.mp hdefaults part mem
  split at isText
  · rename_i rule
    rw [rule]
    exact .text
  · rw [Entries.has, given] at isText
    cases isText

/-- What is accepted is accepted with its defaults. -/
theorem Accepts.fillDefaults (accepts : schema.Accepts data)
    (hdefaults : schema.hasTextDefaults = true) : schema.Accepts (schema.fillDefaults data) where
  key name mem := by
    obtain ⟨value, found, holds⟩ := accepts.key name mem
    refine ⟨value, ?_, holds⟩
    rw [get?_fillDefaults, found]
    rfl
  sequences name mem := by
    obtain ⟨items, found⟩ := accepts.sequences name mem
    refine ⟨items, ?_⟩
    rw [get?_fillDefaults, found]
    rfl
  fields := by
    cases accepts.fields with
    | object given needed =>
      refine .object (fun part mem value found => ?_) fun part mem required => ?_
      · rw [get?_fillDefaults, Option.or_eq_some_iff] at found
        rcases found with found | ⟨-, found⟩
        · exact given part mem value found
        · obtain ⟨text, isDefault, rfl⟩ := Option.map_eq_some_iff.mp found
          exact accepts_default hdefaults mem isDefault
      · rw [get?_fillDefaults, Option.isSome_or, needed part mem required]
        rfl

/-! ## The defaults behind the data -/

/-- The defaults that data lacks. -/
def missingDefaults (schema : Schema) (data : Fields) : Fields :=
  (schema.defaults.filter fun default => default.1 ∉ Entries.names data).map
    fun default => (default.1, .text default.2)

theorem names_missingDefaults (schema : Schema) (data : Fields) :
    Entries.names (schema.missingDefaults data) =
      (Entries.names schema.defaults).filter (· ∉ Entries.names data) := by
  rw [missingDefaults, Entries.names, List.map_map, Entries.names, Entries.names, List.filter_map]
  rfl

theorem withDefault_of_mem {default : String × String} (h : default.1 ∈ Entries.names data) :
    withDefault data default = data :=
  if_pos (Entries.has_iff.mpr h)

theorem withDefault_of_not_mem {default : String × String} (h : default.1 ∉ Entries.names data) :
    withDefault data default = data ++ [(default.1, .text default.2)] := by
  have missing := Entries.has_eq_false_iff.mpr h
  rw [withDefault, if_neg (by rw [missing]; decide), Entries.put_eq_append h]

theorem fillDefaults_eq_append (distinct : Entries.Distinct schema.defaults) (data : Fields) :
    schema.fillDefaults data = data ++ schema.missingDefaults data := by
  rw [fillDefaults_eq, missingDefaults]
  generalize schema.defaults = defaults at distinct
  induction defaults generalizing data with
  | nil => exact (List.append_nil data).symm
  | cons default defaults ih =>
    obtain ⟨fresh, distinct⟩ := Entries.distinct_cons_iff.mp distinct
    rw [List.foldl_cons, ih _ distinct]
    by_cases mem : default.1 ∈ Entries.names data
    · rw [withDefault_of_mem mem, List.filter_cons_of_neg (by simpa using mem)]
    · rw [withDefault_of_not_mem mem, List.filter_cons_of_pos (by simpa using mem), List.map_cons,
        List.append_assoc, List.singleton_append]
      -- The default that has just come behind the data is none of the others.
      congr 3
      refine List.filter_congr fun other hother => decide_eq_decide.mpr (not_congr ?_)
      have apart : other.1 ≠ default.1 := by
        intro same
        exact fresh (same ▸ List.mem_map_of_mem hother)
      rw [Entries.names_append, List.mem_append, or_iff_left]
      rintro (mem : other.1 ∈ [default.1])
      exact apart (List.mem_singleton.mp mem)

/-- Filling in a second time finds nothing that is missing. -/
theorem fillDefaults_fillDefaults (distinct : Entries.Distinct schema.defaults) (data : Fields) :
    schema.fillDefaults (schema.fillDefaults data) = schema.fillDefaults data := by
  have complete : schema.missingDefaults (schema.fillDefaults data) = [] := by
    rw [missingDefaults, List.map_eq_nil_iff, List.filter_eq_nil_iff]
    intro default hdefault
    have named : default.1 ∈ Entries.names schema.defaults := List.mem_map_of_mem hdefault
    rw [decide_eq_true_eq, Decidable.not_not, fillDefaults_eq_append distinct,
      Entries.names_append, names_missingDefaults, List.mem_append, List.mem_filter]
    by_cases mem : default.1 ∈ Entries.names data
    · exact .inl mem
    · exact .inr ⟨named, by simpa using mem⟩
  rw [fillDefaults_eq_append distinct (schema.fillDefaults data), complete, List.append_nil]

/-! ## What is reported of the data -/

/-- No field that has a default has to be there. -/
def hasOptionalDefaults (schema : Schema) : Bool :=
  (schema.key ++ schema.keySequences).all (fun name => !Entries.has schema.defaults name) &&
    schema.fields.all fun part => !part.required || !Entries.has schema.defaults part.name

theorem get?_fillDefaults_of_not_has {name : String}
    (h : Entries.has schema.defaults name = false) (data : Fields) :
    Entries.get? (schema.fillDefaults data) name = Entries.get? data name := by
  have missing : Entries.get? schema.defaults name = none :=
    Entries.get?_eq_none_iff.mpr (Entries.has_eq_false_iff.mp h)
  rw [get?_fillDefaults, missing, Option.map_none, Option.or_none]

theorem presenceViolations_fillDefaults (hoptional : schema.hasOptionalDefaults = true)
    (data : Fields) :
    schema.presenceViolations (schema.fillDefaults data) = schema.presenceViolations data := by
  rw [hasOptionalDefaults, Bool.and_eq_true, List.all_append, Bool.and_eq_true, List.all_eq_true,
    List.all_eq_true] at hoptional
  obtain ⟨⟨hkey, hsequences⟩, -⟩ := hoptional
  have same {name : String} (h : (!Entries.has schema.defaults name) = true) :=
    get?_fillDefaults_of_not_has (by simpa using h) data
  rw [presenceViolations, presenceViolations,
    List.filter_congr fun name mem => by rw [same (hkey name mem)],
    List.filter_congr (l := schema.keySequences) fun name mem => by
      rw [same (hsequences name mem)]]

/-- A part that is missing may be so, and its default is as it has to be. -/
theorem violationsOfPart_fillDefaults (htext : schema.hasTextDefaults = true)
    (hoptional : schema.hasOptionalDefaults = true) (data : Fields) {part : FieldRule Rule}
    (mem : part ∈ schema.fields) :
    Rule.violationsOfPart [] (schema.fillDefaults data) part =
      Rule.violationsOfPart [] data part := by
  rw [hasOptionalDefaults, Bool.and_eq_true, List.all_eq_true, List.all_eq_true] at hoptional
  have hpart := hoptional.2 part mem
  obtain ⟨name, required, rule⟩ := part
  rw [Rule.violationsOfPart, Rule.violationsOfPart, get?_fillDefaults]
  cases given : Entries.get? data name with
  | some value => rfl
  | none =>
    cases found : Entries.get? schema.defaults name with
    | none => rfl
    | some text =>
      have needless : required = false := by
        rw [Entries.has, found] at hpart
        simpa using hpart
      rw [needless]
      exact (Rule.violations_eq_nil_iff _ _ rule).mpr (accepts_default htext mem found)

theorem violations_fillDefaults (htext : schema.hasTextDefaults = true)
    (hoptional : schema.hasOptionalDefaults = true) (data : Fields) :
    schema.violations (schema.fillDefaults data) = schema.violations data := by
  have parts (part : FieldRule Rule) (mem : part ∈ schema.fields) :=
    violationsOfPart_fillDefaults htext hoptional data mem
  have all : Rule.violationsOfParts [] (schema.fillDefaults data) schema.fields =
      Rule.violationsOfParts [] data schema.fields := by
    generalize schema.fillDefaults data = filled at parts
    generalize schema.fields = fields at parts
    induction fields with
    | nil => rfl
    | cons part fields ih =>
      obtain ⟨here, rest⟩ := List.forall_mem_cons.mp parts
      rw [Rule.violationsOfParts, Rule.violationsOfParts, here, ih rest]
  rw [violations, violations, all, presenceViolations_fillDefaults hoptional]

end Schema

namespace Catalog

theorem hasTextDefaults_of_mem : ∀ card ∈ cards, card.schema.hasTextDefaults = true := by
  decide

theorem hasOptionalDefaults_of_mem :
    ∀ card ∈ cards, card.schema.hasOptionalDefaults = true := by
  decide

theorem distinct_defaults_of_mem :
    ∀ card ∈ cards, Entries.Distinct card.schema.defaults := by
  unfold Entries.Distinct
  decide

/-- The defaults of a card, and none where the card is not known. -/
def defaults (id : String) : List (String × String) :=
  match find? id with
  | some card => card.schema.defaults
  | none => []

theorem get?_fillDefaults (id : String) (data : Fields) (name : String) :
    Entries.get? (fillDefaults id data) name =
      (Entries.get? data name).or ((Entries.get? (defaults id) name).map .text) := by
  rw [fillDefaults, defaults]
  cases find? id with
  | none => exact Option.or_none.symm
  | some card => exact card.schema.get?_fillDefaults data name

theorem names_fillDefaults (id : String) (data : Fields) :
    Entries.names (fillDefaults id data) =
      Entries.names data ++ (Entries.names (defaults id)).filter (· ∉ Entries.names data) := by
  rw [fillDefaults, defaults]
  cases hcard : find? id with
  | none => exact (List.append_nil _).symm
  | some card =>
    have distinct := distinct_defaults_of_mem card (List.mem_of_find?_eq_some hcard)
    show Entries.names (card.schema.fillDefaults data) = _
    rw [Schema.fillDefaults_eq_append distinct, Entries.names_append,
      Schema.names_missingDefaults]

/-- Filling in defaults leaves the data as it is, puts behind it the defaults that it lacks, has no
effect on data that is filled in already, and makes no difference to what is reported. -/
theorem fillDefaults_keeps (id : String) (data : Fields) :
    fillDefaults id data = data ++
        ((defaults id).filter fun default => default.1 ∉ Entries.names data).map
          (fun default => (default.1, .text default.2)) ∧
      fillDefaults id (fillDefaults id data) = fillDefaults id data ∧
      violations id (fillDefaults id data) = violations id data := by
  rw [fillDefaults, fillDefaults, violations, violations, defaults]
  cases hcard : find? id with
  | none => exact ⟨(List.append_nil data).symm, rfl, rfl⟩
  | some card =>
    have mem := List.mem_of_find?_eq_some hcard
    have distinct := distinct_defaults_of_mem card mem
    exact ⟨Schema.fillDefaults_eq_append distinct data,
      Schema.fillDefaults_fillDefaults distinct data,
      Schema.violations_fillDefaults (hasTextDefaults_of_mem card mem)
        (hasOptionalDefaults_of_mem card mem) data⟩

end Catalog

end TripCards
