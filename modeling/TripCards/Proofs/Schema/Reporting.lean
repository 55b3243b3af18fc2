/-
What is reported of the data of a card.

Nothing is reported of data that the schema accepts, `Schema.violations_eq_nil_iff`. Of other data all
is reported, in the order of the schema, and each violation once. That two reports never read the
same needs names that are plain and differ, which `Schema.isWellNamed` checks and every known card has.
-/
import Mathlib
import TripCards.Catalog
import TripCards.Proofs.Schema.Traversal

namespace TripCards

theorem Rule.nodup_problems (value : Value) (rule : Rule) : (rule.problems value).Nodup := by
  cases rule with
  | text => cases value <;> simp [problems]
  | webAddress =>
    cases value with
    | text s =>
      rw [problems]
      split <;> simp
    | number | boolean | mapping | sequence => exact List.nodup_singleton _
  | number least most =>
    cases value with
    | number n =>
      rw [problems]
      generalize least.filter _ = below
      generalize most.filter _ = above
      cases below <;> cases above <;> simp
    | text | boolean | mapping | sequence => exact List.nodup_singleton _
  | list => cases value <;> simp [problems]
  | object => cases value <;> simp [problems]

namespace Site

theorem nodup_problems (site : Site) : site.problems.Nodup := by
  rw [problems]
  split
  · exact Rule.nodup_problems _ _
  · split <;> simp

theorem place_of_mem_violations {site : Site} {v : Violation} (mem : v ∈ site.violations) :
    v.place = site.place := by
  obtain ⟨problem, -, rfl⟩ := List.mem_map.mp mem
  rfl

theorem nodup_violations (site : Site) : site.violations.Nodup :=
  site.nodup_problems.map fun _ _ h => (Violation.mk.inj h).2

/-- Sites apart report apart. -/
theorem nodup_flatMap_violations {sites : List Site} (h : (sites.map Site.place).Nodup) :
    (sites.flatMap Site.violations).Nodup := by
  rw [List.nodup_flatMap]
  refine ⟨fun site _ => site.nodup_violations, (List.pairwise_map.mp h).imp ?_⟩
  intro site other hne v mem mem'
  exact hne ((place_of_mem_violations mem).symm.trans (place_of_mem_violations mem'))

end Site

namespace Schema

variable {schema : Schema} {data : Fields}

/-- What is reported of the fields that are to hold or to be sequences. -/
def presenceMessages (schema : Schema) (data : Fields) : List String :=
  (schema.key.filter fun name => !(Entries.get? data name).any Value.holds).map
      (· ++ " is required") ++
    (schema.keySequences.filter fun name =>
        ((Entries.get? data name).bind Value.items?).isNone).map
      (· ++ " array is required")

/-- What is wrong at the sites of the data, in their order. -/
def fieldMessages (schema : Schema) (data : Fields) : List String :=
  (Rule.sitesOfParts [] data schema.fields).flatMap fun site =>
    site.problems.map fun problem => site.place.text ++ problem.text

/-- All names are plain, and none stands twice in one list. -/
def isWellNamed (schema : Schema) : Bool :=
  Rule.areWellNamed schema.fields &&
    (schema.key.all isPlainName && decide schema.key.Nodup) &&
      (schema.keySequences.all isPlainName && decide schema.keySequences.Nodup)

theorem presenceMessages_eq (schema : Schema) (data : Fields) :
    schema.presenceMessages data = (schema.presenceViolations data).map Violation.message := by
  have text_eq (name : String) : Place.text [.field name] = name := String.append_empty
  rw [presenceMessages, presenceViolations, List.map_append, List.map_map, List.map_map]
  congr 2
  · funext name
    rw [Function.comp_apply, Violation.message, text_eq]
    rfl
  · funext name
    rw [Function.comp_apply, Violation.message, text_eq]
    rfl

theorem fieldMessages_eq (schema : Schema) (data : Fields) :
    schema.fieldMessages data =
      (Rule.violationsOfParts [] data schema.fields).map Violation.message := by
  rw [fieldMessages, Rule.violationsOfParts_eq, List.map_flatMap]
  refine congrArg (List.flatMap · _) (funext fun site => ?_)
  rw [Site.violations, List.map_map]
  rfl

/-- What is found once, and is known already, is left out. -/
theorem foldl_addNew_eq {found : List Violation} (hfound : found.Nodup) (known : List Violation) :
    found.foldl addNew known = known ++ found.filter (· ∉ known) := by
  induction found generalizing known with
  | nil => exact (List.append_nil known).symm
  | cons v found ih =>
    obtain ⟨hv, hfound⟩ := List.nodup_cons.mp hfound
    rw [List.foldl_cons, addNew, ih hfound]
    by_cases mem : v ∈ known
    · rw [if_pos mem, List.filter_cons_of_neg (by simpa using mem)]
    · rw [if_neg mem, List.filter_cons_of_pos (by simpa using mem), List.append_assoc,
        List.singleton_append]
      congr 2
      refine List.filter_congr fun w hw => ?_
      have hne : w ≠ v := fun h => hv (h ▸ hw)
      simp [hne]

theorem nodup_presenceViolations (hnamed : schema.isWellNamed = true) :
    (schema.presenceViolations data).Nodup := by
  rw [isWellNamed] at hnamed
  simp only [Bool.and_eq_true, decide_eq_true_eq] at hnamed
  obtain ⟨⟨-, -, hkey⟩, -, hsequences⟩ := hnamed
  rw [presenceViolations, List.nodup_append']
  refine ⟨(hkey.filter _).map ?_, (hsequences.filter _).map ?_, ?_⟩
  · rintro name other ⟨⟩
    rfl
  · rintro name other ⟨⟩
    rfl
  · intro v mem mem'
    obtain ⟨name, -, rfl⟩ := List.mem_map.mp mem
    obtain ⟨other, -, h⟩ := List.mem_map.mp mem'
    cases h

theorem isPlain_of_mem_presenceViolations (hnamed : schema.isWellNamed = true) {v : Violation}
    (mem : v ∈ schema.presenceViolations data) : v.place.IsPlain := by
  rw [isWellNamed] at hnamed
  simp only [Bool.and_eq_true, List.all_eq_true] at hnamed
  obtain ⟨⟨-, hkey, -⟩, hsequences, -⟩ := hnamed
  rcases List.mem_append.mp mem with mem | mem
  · obtain ⟨name, hname, rfl⟩ := List.mem_map.mp mem
    exact .mk (hkey name (List.mem_of_mem_filter hname)) (List.forall_mem_nil _)
  · obtain ⟨name, hname, rfl⟩ := List.mem_map.mp mem
    exact .mk (hsequences name (List.mem_of_mem_filter hname)) (List.forall_mem_nil _)

theorem nodup_violationsOfParts (hnamed : schema.isWellNamed = true) :
    (Rule.violationsOfParts [] data schema.fields).Nodup := by
  rw [isWellNamed, Bool.and_eq_true, Bool.and_eq_true] at hnamed
  rw [Rule.violationsOfParts_eq]
  exact Site.nodup_flatMap_violations (Rule.nodup_sitesOfParts [] data schema.fields hnamed.1.1)

theorem isPlain_of_mem_violationsOfParts (hnamed : schema.isWellNamed = true) {v : Violation}
    (mem : v ∈ Rule.violationsOfParts [] data schema.fields) : v.place.IsPlain := by
  rw [isWellNamed, Bool.and_eq_true, Bool.and_eq_true] at hnamed
  rw [Rule.violationsOfParts_eq, List.mem_flatMap] at mem
  obtain ⟨site, hsite, mem⟩ := mem
  obtain ⟨part, -, steps, hplace, hplain⟩ := Rule.liesAt_of_mem_sitesOfParts hnamed.1.1 hsite
  rw [Site.place_of_mem_violations mem, hplace, List.nil_append]
  rw [List.forall_mem_cons] at hplain
  exact .mk hplain.1 hplain.2

/-- The rules of the fields add to what is known what is not known yet. -/
theorem violations_eq (hnamed : schema.isWellNamed = true) :
    schema.violations data = schema.presenceViolations data ++
      (Rule.violationsOfParts [] data schema.fields).filter
        (· ∉ schema.presenceViolations data) :=
  foldl_addNew_eq (nodup_violationsOfParts hnamed) _

theorem nodup_violations (hnamed : schema.isWellNamed = true) :
    (schema.violations data).Nodup := by
  rw [violations_eq hnamed, List.nodup_append']
  refine ⟨nodup_presenceViolations hnamed, (nodup_violationsOfParts hnamed).filter _, ?_⟩
  intro v known mem
  have new := of_decide_eq_true (List.mem_filter.mp mem).2
  exact new known

theorem isPlain_of_mem_violations (hnamed : schema.isWellNamed = true) {v : Violation}
    (mem : v ∈ schema.violations data) : v.place.IsPlain := by
  rw [violations_eq hnamed] at mem
  rcases List.mem_append.mp mem with mem | mem
  · exact isPlain_of_mem_presenceViolations hnamed mem
  · exact isPlain_of_mem_violationsOfParts hnamed (List.mem_of_mem_filter mem)

/-- A violation is known just where its message is. -/
theorem messages_eq (hnamed : schema.isWellNamed = true) :
    (schema.violations data).map Violation.message = schema.presenceMessages data ++
      (schema.fieldMessages data).filter (· ∉ schema.presenceMessages data) := by
  rw [violations_eq hnamed, List.map_append, presenceMessages_eq, fieldMessages_eq,
    List.filter_map]
  congr 2
  refine List.filter_congr fun v mem => decide_eq_decide.mpr (not_congr ?_)
  refine ⟨List.mem_map_of_mem, fun known => ?_⟩
  obtain ⟨w, hw, same⟩ := List.mem_map.mp known
  have hplain := isPlain_of_mem_presenceViolations hnamed hw
  rwa [← Violation.message_injective hplain (isPlain_of_mem_violationsOfParts hnamed mem) same]

theorem nodup_messages (hnamed : schema.isWellNamed = true) :
    ((schema.violations data).map Violation.message).Nodup := by
  refine List.Nodup.map_on (fun v hv w hw => ?_) (nodup_violations hnamed)
  exact Violation.message_injective (isPlain_of_mem_violations hnamed hv)
    (isPlain_of_mem_violations hnamed hw)

end Schema

namespace Catalog

theorem isWellNamed_of_mem : ∀ card ∈ cards, card.schema.isWellNamed = true := by
  decide

/-- Data is reported nothing of just if its card accepts it. Else the fields that are to hold are
reported first, and then each violation of the rules once, in the order of the rules and items. -/
theorem violations_reported {id : String} {card : CardKind} (hcard : find? id = some card)
    (data : Fields) :
    (violations id data = [] ↔ card.schema.Accepts data) ∧
      (violations id data).map Violation.message =
        card.schema.presenceMessages data ++
          (card.schema.fieldMessages data).filter (· ∉ card.schema.presenceMessages data) ∧
      ((violations id data).map Violation.message).Nodup := by
  have hnamed := isWellNamed_of_mem card (List.mem_of_find?_eq_some hcard)
  have hviolations : violations id data = card.schema.violations data := by
    rw [violations, hcard]
  rw [hviolations]
  exact ⟨card.schema.violations_eq_nil_iff data, Schema.messages_eq hnamed,
    Schema.nodup_messages hnamed⟩

/-- Four violations, of which one is of a missing field that is to hold as well. -/
theorem violations_reported_nested :
    let data : Fields := [
      ("alert_title", .text "Late"),
      ("alert_message", .text "The train is late"),
      ("action_button_text", .text ""),
      ("action_alert_text", .boolean true),
      ("schedule_items", .sequence [
        .text "11:00",
        .mapping [("label", .text "New"), ("icon", .number (.whole 1)), ("icon_color", .text "red"),
          ("content", .text "11:30")]])]
    let messages := [
      "service_title is required",
      "action_alert_text must be a string",
      "schedule_items[0] must be an object",
      "schedule_items[1].icon must be a string"]
    find? "schedule-change" = some scheduleChange ∧
      ¬ scheduleChange.schema.Accepts data ∧
      (violations "schedule-change" data).map Violation.message = messages ∧ messages.Nodup := by
  intro data messages
  have hcard : find? "schedule-change" = some scheduleChange := rfl
  have hmessages : (violations "schedule-change" data).map Violation.message = messages := by
    decide +kernel
  obtain ⟨accepted, -, nodup⟩ := violations_reported hcard data
  refine ⟨hcard, fun h => ?_, hmessages, hmessages ▸ nodup⟩
  rw [accepted.mpr h] at hmessages
  exact List.cons_ne_nil _ _ hmessages.symm

end Catalog
end TripCards
