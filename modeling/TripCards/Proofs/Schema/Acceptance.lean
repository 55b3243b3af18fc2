/-
What data a schema accepts.

`Rule.Accepts` says what a value has to be like, without saying how that is checked, nor what is
reported where it is not so. `Schema.violations_eq_nil_iff` says that nothing is reported just where
the data is accepted.
-/
import Mathlib
import TripCards.Proofs.Number.Value
import TripCards.Schema.Check

namespace TripCards

namespace Rule

/-- The values that are as a rule wants them. -/
inductive Accepts : Rule → Value → Prop where
  | text {s : String} : Accepts .text (.text s)
  | webAddress {s : String} : Address.isValid s = true → Accepts .webAddress (.text s)
  | number {least most : Option Nat} {n : Number} :
      (∀ bound ∈ least, (bound : ℚ) ≤ n.value) → (∀ bound ∈ most, n.value ≤ bound) →
      Accepts (.number least most) (.number n)
  | list {parts : List (FieldRule Rule)} {items : List Value} :
      (∀ item ∈ items, Accepts (.object parts) item) → Accepts (.list parts) (.sequence items)
  | object {parts : List (FieldRule Rule)} {fields : Fields} :
      (∀ part ∈ parts, ∀ value, Entries.get? fields part.name = some value →
        Accepts part.rule value) →
      (∀ part ∈ parts, part.required = true → (Entries.get? fields part.name).isSome) →
      Accepts (.object parts) (.mapping fields)

theorem boundProblems_eq_nil_iff (least most : Option Nat) (n : Number) :
    boundProblems least most n = [] ↔
      (∀ bound ∈ least, (bound : ℚ) ≤ n.value) ∧ ∀ bound ∈ most, n.value ≤ bound := by
  have none_of {α : Type} (bound : Option α) (test : α → Bool) :
      (bound.filter test).toList = [] ↔ ∀ b ∈ bound, test b = false := by
    cases bound with
    | none => simp
    | some b => cases h : test b <;> simp [h]
  rw [boundProblems, List.append_eq_nil_iff, List.map_eq_nil_iff, List.map_eq_nil_iff, none_of,
    none_of]
  simp only [← Bool.not_eq_true, Number.isBelow_iff, Number.isAbove_iff, not_lt]

theorem accepts_list_iff {parts : List (FieldRule Rule)} {items : List Value} :
    Accepts (.list parts) (.sequence items) ↔ ∀ item ∈ items, Accepts (.object parts) item :=
  ⟨fun h => by cases h; assumption, .list⟩

/-- What a rule for a field wants of the fields of a mapping. -/
def AcceptsIn (fields : Fields) (part : FieldRule Rule) : Prop :=
  match Entries.get? fields part.name with
  | some value => Accepts part.rule value
  | none => part.required = false

theorem accepts_object_iff {parts : List (FieldRule Rule)} {fields : Fields} :
    Accepts (.object parts) (.mapping fields) ↔ ∀ part ∈ parts, AcceptsIn fields part := by
  constructor
  · rintro ⟨⟩
    rename_i given needed
    intro part mem
    rw [AcceptsIn]
    split
    · rename_i value found
      exact given part mem value found
    · rename_i missing
      rw [Bool.eq_false_iff]
      intro required
      have found := needed part mem required
      rw [missing] at found
      cases found
  · intro h
    refine .object (fun part mem value found => ?_) fun part mem required => ?_
    · have here := h part mem
      rwa [AcceptsIn, found] at here
    · have here := h part mem
      rw [AcceptsIn] at here
      split at here
      · rename_i value found
        rw [found]
        rfl
      · rw [here] at required
        cases required

/-- The items of a list are checked as mappings are, each at its place. -/
theorem violations_list (place : Place) (items : List Value) (parts : List (FieldRule Rule)) :
    violations place (.sequence items) (.list parts) =
      items.zipIdx.flatMap fun entry =>
        violations (place ++ [.item entry.2]) entry.1 (.object parts) := by
  rw [violations]
  refine congrArg (List.flatMap · items.zipIdx) (funext fun entry => ?_)
  obtain ⟨item, index⟩ := entry
  cases item <;> rfl

/-- A mapping is accepted if its parts are, and nothing else is. -/
theorem violations_object_eq_nil_iff {parts : List (FieldRule Rule)}
    (hparts : ∀ place fields,
      violationsOfParts place fields parts = [] ↔ ∀ part ∈ parts, AcceptsIn fields part)
    (place : Place) (value : Value) :
    violations place value (.object parts) = [] ↔ Accepts (.object parts) value := by
  cases value with
  | mapping fields =>
    rw [violations, accepts_object_iff]
    exact hparts place fields
  | text | number | boolean | sequence => exact iff_of_false (List.cons_ne_nil _ _) nofun

mutual

theorem violations_eq_nil_iff (place : Place) (value : Value) (rule : Rule) :
    violations place value rule = [] ↔ rule.Accepts value := by
  cases rule with
  | text =>
    cases value with
    | text s => exact iff_of_true rfl .text
    | number | boolean | mapping | sequence => exact iff_of_false (List.cons_ne_nil _ _) nofun
  | webAddress =>
    cases value with
    | text s =>
      rw [violations]
      by_cases valid : Address.isValid s = true
      · rw [if_pos valid]
        exact iff_of_true rfl (.webAddress valid)
      · rw [if_neg valid]
        refine iff_of_false (List.cons_ne_nil _ _) ?_
        rintro ⟨⟩
        contradiction
    | number | boolean | mapping | sequence => exact iff_of_false (List.cons_ne_nil _ _) nofun
  | number least most =>
    cases value with
    | number n =>
      rw [violations, List.map_eq_nil_iff, boundProblems_eq_nil_iff]
      exact ⟨fun h => .number h.1 h.2, fun h => by cases h; constructor <;> assumption⟩
    | text | boolean | mapping | sequence => exact iff_of_false (List.cons_ne_nil _ _) nofun
  | list parts =>
    cases value with
    | sequence items =>
      have hitem := violations_object_eq_nil_iff (violationsOfParts_eq_nil_iff · · parts)
      rw [violations_list, List.flatMap_eq_nil_iff, accepts_list_iff, List.forall_mem_zipIdx']
      simp only [hitem, List.forall_mem_iff_getElem]
    | text | number | boolean | mapping => exact iff_of_false (List.cons_ne_nil _ _) nofun
  | object parts =>
    exact violations_object_eq_nil_iff (violationsOfParts_eq_nil_iff · · parts) place value

theorem violationsOfParts_eq_nil_iff (place : Place) (fields : List (String × Value))
    (parts : List (FieldRule Rule)) :
    violationsOfParts place fields parts = [] ↔ ∀ part ∈ parts, AcceptsIn fields part := by
  cases parts with
  | nil => exact iff_of_true rfl (by simp)
  | cons part parts =>
    rw [violationsOfParts, List.append_eq_nil_iff, List.forall_mem_cons,
      violationsOfPart_eq_nil_iff place fields part,
      violationsOfParts_eq_nil_iff place fields parts]

theorem violationsOfPart_eq_nil_iff (place : Place) (fields : List (String × Value))
    (part : FieldRule Rule) :
    violationsOfPart place fields part = [] ↔ AcceptsIn fields part := by
  obtain ⟨name, required, rule⟩ := part
  rw [violationsOfPart, AcceptsIn]
  cases Entries.get? fields name with
  | some value => exact violations_eq_nil_iff _ value rule
  | none => cases required <;> simp

end

end Rule

namespace Schema

/-- The data that is as a schema wants it. -/
structure Accepts (schema : Schema) (data : Fields) : Prop where
  key : ∀ name ∈ schema.key, ∃ value, Entries.get? data name = some value ∧ value.holds = true
  sequences : ∀ name ∈ schema.keySequences, ∃ items, Entries.get? data name = some (.sequence items)
  fields : Rule.Accepts (.object schema.fields) (.mapping data)

theorem presenceViolations_eq_nil_iff (schema : Schema) (data : Fields) :
    schema.presenceViolations data = [] ↔
      (∀ name ∈ schema.key, ∃ value, Entries.get? data name = some value ∧ value.holds = true) ∧
      ∀ name ∈ schema.keySequences, ∃ items, Entries.get? data name = some (.sequence items) := by
  have isSequence (found : Option Value) :
      (found.bind Value.items?).isNone = false ↔ ∃ items, found = some (.sequence items) := by
    cases found with
    | none => simp
    | some value => cases value <;> simp [Value.items?]
  rw [presenceViolations, List.append_eq_nil_iff, List.map_eq_nil_iff, List.map_eq_nil_iff,
    List.filter_eq_nil_iff, List.filter_eq_nil_iff]
  simp only [Bool.not_eq_true', Bool.not_eq_false, Bool.not_eq_true, Option.any_eq_true,
    isSequence]

theorem foldl_addNew_eq_nil_iff (known found : List Violation) :
    found.foldl addNew known = [] ↔ known = [] ∧ found = [] := by
  induction found generalizing known with
  | nil => simp
  | cons v found ih =>
    rw [List.foldl_cons, ih, addNew]
    refine iff_of_false (fun h => ?_) (by simp)
    have hknown := h.1
    split at hknown
    · rename_i mem
      rw [hknown] at mem
      cases mem
    · exact List.append_ne_nil_of_right_ne_nil _ (List.cons_ne_nil _ _) hknown

/-- No violation is found just where the data is accepted. -/
theorem violations_eq_nil_iff (schema : Schema) (data : Fields) :
    schema.violations data = [] ↔ schema.Accepts data := by
  rw [violations, foldl_addNew_eq_nil_iff, presenceViolations_eq_nil_iff,
    Rule.violationsOfParts_eq_nil_iff, ← Rule.accepts_object_iff]
  exact ⟨fun h => ⟨h.1.1, h.1.2, h.2⟩, fun h => ⟨⟨h.key, h.sequences⟩, h.fields⟩⟩

end Schema
end TripCards
