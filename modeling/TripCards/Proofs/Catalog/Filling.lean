/-
Which cards can be made of data that is accepted.

The rules for the data of five cards make sure of every slot in their templates. Those of the
schedule leave one thing open. An activity may have no buttons of its own, and then the template
finds the buttons of the day or of the whole schedule, which no rule says anything about.
`exists_fillSource_iff` says that this is all that can go wrong.
-/
import TripCards.Catalog.Shipped
import TripCards.Proofs.Schema.Defaults
import TripCards.Proofs.Template.Foresight
import TripCards.Proofs.Template.Joined

namespace TripCards

namespace Fields

/-- What a name stands for inside of values that lie one in another, the innermost of them first. -/
def seenFrom (data : Fields) : List Value → String → Option Value
  | [], name => Entries.get? data name
  | value :: outer, name =>
    match value.fields?.bind (Entries.get? · name) with
    | some own => some own
    | none => data.seenFrom outer name

/-- The activity has no buttons, finds buttons around it, and one of them has a class or a caption
that is no text. -/
def StraysAt (data : Fields) (day activity : Value) : Prop :=
  activity.fields?.bind (Entries.get? · "buttons") = none ∧
  ∃ buttons, data.seenFrom [day] "buttons" = some (.sequence buttons) ∧ ∃ button ∈ buttons,
  ∃ name ∈ ["class", "text"], ∃ value,
    data.seenFrom [button, activity, day] name = some value ∧ value.hasText = false

def HasStrayButtons (data : Fields) : Prop :=
  ∃ days, data.seenFrom [] "days" = some (.sequence days) ∧ ∃ day ∈ days,
  ∃ activities, data.seenFrom [day] "activities" = some (.sequence activities) ∧
  ∃ activity ∈ activities, data.StraysAt day activity

end Fields

theorem exists_mem_zipIdx {α : Type} {items : List α} {item : α} (mem : item ∈ items) :
    ∃ index, (item, index) ∈ items.zipIdx := by
  obtain ⟨index, isItem⟩ := List.mem_iff_getElem?.mp mem
  exact ⟨index, List.mk_mem_zipIdx_iff_getElem?.mpr isItem⟩

namespace Scope

theorem resolve_single (scope : Scope) (name : String) :
    scope.resolve ⟨name, []⟩ = scope.lookup name := by
  rw [resolve]
  cases scope.lookup name <;> rfl

/-- A name that does not tell a place is looked for in the values one after the other. -/
theorem lookup_item {data : Fields} {outer : Scope} {values : List Value} {name : String}
    (noPlace : Entries.has (placeOf 0 0) name = false)
    (seen : outer.lookup name = data.seenFrom values name) (value : Value) (index count : Nat) :
    (item value index count outer).lookup name = data.seenFrom (value :: values) name := by
  rw [lookup, get?_placeOf_eq_none index count noPlace, seen]
  rfl

/-- The items of a list that is known are as its rule wants them. -/
theorem Obeys.item {scope : Scope} {rules parts : List (FieldRule Rule)} {name : String}
    {items : List Value} {value : Value} (obeys : scope.Obeys rules)
    (leads : Rule.at? [name] (.object rules) = some (.list parts))
    (found : scope.lookup name = some (.sequence items)) (mem : value ∈ items) :
    (Rule.object parts).Accepts value := by
  rw [← scope.resolve_single] at found
  cases obeys.resolve leads found with
  | list accepted => exact accepted value mem

end Scope

theorem Value.walk_single (value : Value) (name : String) :
    value.walk [name] = value.fields?.bind (Entries.get? · name) := by
  cases value with
  | mapping fields =>
    show (match Entries.get? fields name with | some next => next.walk [] | none => none) =
      Entries.get? fields name
    cases Entries.get? fields name <;> rfl
  | text | number | boolean | sequence => rfl

namespace Node

open Catalog.Shipped (each)

theorem fillsAll_each {scope : Scope} {name : String} (single : Path.ofString name = ⟨name, []⟩)
    (body : List Node) :
    FillsAll scope (each name body) ↔
      ∀ items, scope.lookup name = some (.sequence items) →
        ∀ entry ∈ items.zipIdx, FillsAll (.item entry.1 entry.2 items.length scope) body := by
  rw [each, FillsAll, FillsAll, Fills, single, Scope.resolve_single, and_true]

/-- Of a repeated block only what is doubtful for its items is doubtful. -/
theorem fillsAll_each_iff_doubtful {scope : Scope} {rules parts : List (FieldRule Rule)}
    {name : String} (obeys : scope.Obeys rules) (single : Path.ofString name = ⟨name, []⟩)
    (leads : Rule.at? [name] (.object rules) = some (.list parts)) (body : List Node) :
    FillsAll scope (each name body) ↔
      ∀ items, scope.lookup name = some (.sequence items) → ∀ entry ∈ items.zipIdx,
        FillsAll (.item entry.1 entry.2 items.length scope) (doubtful (Rule.ofItem parts) body) := by
  rw [fillsAll_each single]
  refine forall₄_congr fun items found entry mem => ?_
  have accepted := obeys.item leads found (List.fst_mem_of_mem_zipIdx mem)
  exact fillsAll_iff_doubtful (Scope.obeys_item accepted entry.2 items.length scope) body

end Node

namespace Catalog

open Node (FillsAll doubtful fillsAll_each_iff_doubtful)
open Shipped

theorem fillsAll_activityButtons (scope : Scope) :
    FillsAll scope activityButtons ↔
      ∀ buttons, scope.lookup "buttons" = some (.sequence buttons) → ∀ entry ∈ buttons.zipIdx,
        ∀ name ∈ ["class", "text"], ∀ value,
          (Scope.item entry.1 entry.2 buttons.length scope).lookup name = some value →
            value.hasText = true := by
  have single : Path.ofString "buttons" = ⟨"buttons", []⟩ := rfl
  have button (inner : Scope) :
      FillsAll inner (shown "<button class=\"" "class" "\">" ++ shown "" "text" "</button>") ↔
        ∀ name ∈ ["class", "text"], ∀ value, inner.lookup name = some value →
          value.hasText = true := by
    show FillsAll inner [.text _, .slot ⟨"class", []⟩, .text _, .text _, .slot ⟨"text", []⟩,
      .text _] ↔ _
    simp [FillsAll, Node.Fills, Scope.resolve_single]
  rw [activityButtons, given, FillsAll, FillsAll, and_true, Node.Fills, single,
    scope.resolve_single]
  simp only [← button]
  rw [← Node.fillsAll_each single]
  constructor
  · intro h
    refine (Node.fillsAll_each single _).mpr fun buttons found => ?_
    rw [found] at h
    have filled := h rfl
    exact (Node.fillsAll_each single _).mp ⟨filled.2.1, trivial⟩ buttons found
  · intro h _
    exact ⟨trivial, h.1, trivial, trivial⟩

/-- Buttons of its own are right, and so nothing but stray ones can be in the way. -/
theorem fillsAll_activityButtons_iff {data : Fields} {outer : Scope} {day activity : Value}
    (accepted : (Rule.object Catalog.activity).Accepts activity) (index count : Nat)
    (seen : ∀ name, Entries.has (Scope.placeOf 0 0) name = false →
      outer.lookup name = data.seenFrom [day] name) :
    FillsAll (.item activity index count outer) activityButtons ↔ ¬ data.StraysAt day activity := by
  have inActivity {name : String} (noPlace : Entries.has (Scope.placeOf 0 0) name = false) :=
    Scope.lookup_item noPlace (seen name noPlace) activity index count
  have inButton {name : String} (mem : name ∈ ["class", "text"]) (entry : Value × Nat) (n : Nat) :
      (Scope.item entry.1 entry.2 n (.item activity index count outer)).lookup name =
        data.seenFrom [entry.1, activity, day] name := by
    have noPlace : ∀ name ∈ ["class", "text"], Entries.has (Scope.placeOf 0 0) name = false := by
      decide
    exact Scope.lookup_item (noPlace name mem) (inActivity (noPlace name mem)) entry.1 entry.2 n
  rw [fillsAll_activityButtons, inActivity rfl]
  constructor
  · rintro h ⟨noButtons, buttons, isButtons, button, buttonMem, name, nameMem, value, isValue, noText⟩
    have found : data.seenFrom [activity, day] "buttons" = some (.sequence buttons) := by
      rw [Fields.seenFrom, noButtons]
      exact isButtons
    obtain ⟨place, entryMem⟩ := exists_mem_zipIdx buttonMem
    have hasText := h buttons found _ entryMem name nameMem value
      ((inButton nameMem _ _).trans isValue)
    rw [noText] at hasText
    cases hasText
  · intro noStray buttons found entry entryMem name nameMem value isValue
    have buttonMem := List.fst_mem_of_mem_zipIdx entryMem
    cases own : activity.fields?.bind (Entries.get? · "buttons") with
    | none =>
      rw [Fields.seenFrom, own] at found
      by_contra noText
      exact noStray ⟨own, buttons, found, entry.1, buttonMem, name, nameMem, value,
        (inButton nameMem _ _).symm.trans isValue, eq_false_of_ne_true noText⟩
    | some held =>
      have isHeld : held = .sequence buttons := by
        rw [Fields.seenFrom, own] at found
        exact Option.some.inj found
      have leads : Rule.at? ["buttons"] (.object Catalog.activity) = some (.list button) := rfl
      rw [isHeld, ← Value.walk_single] at own
      cases accepted.walk leads own with
      | list given =>
        have obeys := Scope.obeys_item (given entry.1 buttonMem) entry.2 buttons.length
          (.item activity index count outer)
        have wantsText : ∀ name ∈ ["class", "text"],
            Rule.at? [name] (.object (Rule.ofItem button)) = some .text :=
          List.forall_mem_cons.mpr ⟨rfl, List.forall_mem_singleton.mpr rfl⟩
        rw [← Scope.resolve_single] at isValue
        exact (obeys.resolve (wantsText name nameMem) isValue).hasText rfl

/-- The schedule is filled if no activity is in the way. -/
theorem fillsAll_fullScheduleCard {data : Fields} (accepts : fullSchedule.schema.Accepts data) :
    FillsAll (.root data) fullScheduleCard ↔ ¬ data.HasStrayButtons := by
  have obeys := Scope.obeys_root accepts
  have inSchedule : doubtful fullSchedule.schema.fields fullScheduleCard = each "days" dayBlock := rfl
  have inDay : doubtful (Rule.ofItem day) dayBlock = each "activities" activityBlock := rfl
  have inActivity : doubtful (Rule.ofItem activity) activityBlock = activityButtons := rfl
  have perDay (day : Value) (accepted : (Rule.object Catalog.day).Accepts day) (index count : Nat) :
      FillsAll (.item day index count (.root data)) (each "activities" activityBlock) ↔
        ∀ activities, data.seenFrom [day] "activities" = some (.sequence activities) →
          ∀ activity ∈ activities, ¬ data.StraysAt day activity := by
    have seen (name : String) (noPlace : Entries.has (Scope.placeOf 0 0) name = false) :
        (Scope.item day index count (.root data)).lookup name = data.seenFrom [day] name :=
      Scope.lookup_item noPlace rfl day index count
    have obeys := Scope.obeys_item accepted index count (.root data)
    rw [fillsAll_each_iff_doubtful obeys rfl rfl, inActivity, ← seen "activities" rfl]
    refine forall₂_congr fun activities found => ?_
    constructor
    · intro h activity mem
      obtain ⟨place, entryMem⟩ := exists_mem_zipIdx mem
      exact (fillsAll_activityButtons_iff (obeys.item rfl found mem) _ _ seen).mp (h _ entryMem)
    · intro h entry entryMem
      have mem := List.fst_mem_of_mem_zipIdx entryMem
      exact (fillsAll_activityButtons_iff (obeys.item rfl found mem) _ _ seen).mpr (h _ mem)
  rw [Node.fillsAll_iff_doubtful obeys, inSchedule, fillsAll_each_iff_doubtful obeys rfl rfl, inDay]
  constructor
  · rintro h ⟨days, isDays, day, mem, activities, isActivities, activity, activityMem, strays⟩
    obtain ⟨place, entryMem⟩ := exists_mem_zipIdx mem
    have filled := h days isDays _ entryMem
    exact (perDay day (obeys.item rfl isDays mem) _ _).mp filled activities isActivities activity
      activityMem strays
  · intro noStray days isDays entry entryMem
    have mem := List.fst_mem_of_mem_zipIdx entryMem
    refine (perDay entry.1 (obeys.item rfl isDays mem) _ _).mpr ?_
    intro activities isActivities activity activityMem strays
    exact noStray ⟨days, isDays, entry.1, mem, activities, isActivities, activity, activityMem, strays⟩

theorem exists_template {id : String} (known : id ∈ ids) :
    ∃ card template, (card, template) ∈ templates ∧ id = card.id ∧ find? id = some card ∧
      source? id = some template.source := by
  have found : ∀ entry ∈ templates, find? entry.1.id = some entry.1 ∧
      source? entry.1.id = some entry.2.source := by
    simp only [templates, List.forall_mem_cons]
    exact ⟨⟨rfl, rfl⟩, ⟨rfl, rfl⟩, ⟨rfl, rfl⟩, ⟨rfl, rfl⟩, ⟨rfl, rfl⟩, ⟨rfl, rfl⟩, List.forall_mem_nil _⟩
  have named : ids = templates.map fun entry => entry.1.id := rfl
  rw [named] at known
  obtain ⟨entry, mem, rfl⟩ := List.mem_map.mp known
  exact ⟨entry.1, entry.2, mem, rfl, found entry mem⟩

theorem arePlain_of_mem : ∀ entry ∈ templates, Node.arePlain entry.2.nodes = true := by
  decide +kernel

theorem height_le_of_mem : ∀ entry ∈ templates, entry.2.height ≤ maxDepth := by
  decide +kernel

/-- Nothing is doubtful in any card but the schedule. -/
theorem doubtful_of_mem {card : CardKind} {template : Template} (mem : (card, template) ∈ templates) :
    card = fullSchedule ∧ template = ⟨fullScheduleCard⟩ ∨
      card.id ≠ fullSchedule.id ∧ doubtful card.schema.fields template.nodes = [] := by
  simp only [templates, List.mem_cons, List.not_mem_nil, or_false, Prod.mk.injEq] at mem
  rcases mem with ⟨rfl, rfl⟩ | ⟨rfl, rfl⟩ | ⟨rfl, rfl⟩ | ⟨rfl, rfl⟩ | ⟨rfl, rfl⟩ | ⟨rfl, rfl⟩
  · exact Or.inr ⟨by decide, rfl⟩
  · exact Or.inr ⟨by decide, rfl⟩
  · exact Or.inr ⟨by decide, rfl⟩
  · exact Or.inr ⟨by decide, rfl⟩
  · exact Or.inr ⟨by decide, rfl⟩
  · exact Or.inl ⟨rfl, rfl⟩

theorem fillsAll_of_mem {card : CardKind} {template : Template} (mem : (card, template) ∈ templates)
    {data : Fields} (accepts : card.schema.Accepts data) :
    FillsAll (.root data) template.nodes ↔ ¬ (card.id = fullSchedule.id ∧ data.HasStrayButtons) := by
  rcases doubtful_of_mem mem with ⟨rfl, rfl⟩ | ⟨other, safe⟩
  · rw [eq_self, true_and]
    exact fillsAll_fullScheduleCard accepts
  · rw [Node.fillsAll_iff_doubtful (Scope.obeys_root accepts), safe]
    exact iff_of_true trivial fun h => other h.1

/-- Data without violations makes a card, with its defaults and without them, unless it is a
schedule with stray buttons. The fault is then one of the data, and not of the template. -/
theorem exists_fillSource_iff {id : String} (known : id ∈ ids) :
    ∃ source, source? id = some source ∧ ∀ data, violations id data = [] →
      ∀ given ∈ [data, fillDefaults id data],
        ((∃ card, fillSource source given = .ok card) ↔
          ¬ (id = fullSchedule.id ∧ given.HasStrayButtons)) ∧
        ∀ fault, fillSource source given = .error fault → ∃ found, fault = .unprintable found := by
  obtain ⟨card, template, mem, rfl, isCard, isSource⟩ := exists_template known
  refine ⟨template.source, isSource, fun data valid given isGiven => ?_⟩
  have accepts : card.schema.Accepts data := by
    rw [violations, isCard] at valid
    exact (card.schema.violations_eq_nil_iff data).mp valid
  have acceptsGiven : card.schema.Accepts given := by
    rw [List.mem_pair, fillDefaults, isCard] at isGiven
    rcases isGiven with rfl | rfl
    · exact accepts
    · exact accepts.fillDefaults (hasTextDefaults_of_mem card (List.mem_of_find?_eq_some isCard))
  rw [Template.fillSource_source (arePlain_of_mem _ mem) (height_le_of_mem _ mem) given]
  refine ⟨(template.exists_fill_iff given).trans (fillsAll_of_mem mem acceptsGiven), ?_⟩
  intro fault fails
  rw [Template.fill] at fails
  cases rendered : template.render given with
  | ok card =>
    rw [rendered] at fails
    cases fails
  | error found =>
    rw [rendered] at fails
    exact ⟨found, (Except.error.inj fails).symm⟩

/-- A change of plans, without its colour and its icon. -/
def changedPlans : Fields := [
  ("alert_title", .text "Late"),
  ("alert_message", .text "The train is late"),
  ("service_title", .text "Train"),
  ("action_button_text", .text "Book"),
  ("action_alert_text", .text "Booked"),
  ("schedule_items", .sequence [.mapping [
    ("label", .text "New"), ("icon", .text "*"), ("icon_color", .text "red"),
    ("content", .text "11:30"), ("buttons", .mapping [])]])]

theorem exists_fillSource_changedPlans :
    "schedule-change" ∈ ids ∧ violations "schedule-change" changedPlans = [] ∧
      ∃ source, source? "schedule-change" = some source ∧
        (∃ card, fillSource source changedPlans = .ok card) ∧
        ∃ card, fillSource source (fillDefaults "schedule-change" changedPlans) = .ok card := by
  have known : "schedule-change" ∈ ids := by decide
  have valid : violations "schedule-change" changedPlans = [] := by decide +kernel
  obtain ⟨source, isSource, filled⟩ := exists_fillSource_iff known
  have unlike (given : Fields) :
      ¬ ("schedule-change" = fullSchedule.id ∧ given.HasStrayButtons) :=
    fun h => absurd h.1 (by decide)
  refine ⟨known, valid, source, isSource, ?_, ?_⟩
  · exact (filled changedPlans valid _ List.mem_cons_self).1.mpr (unlike _)
  · exact (filled changedPlans valid _ (List.mem_pair.mpr (Or.inr rfl))).1.mpr (unlike _)

/-- A schedule of one activity, with a button that is not the activity's own and has no class. -/
def strayPlans : Fields := [
  ("trip_title", .text "Trip"),
  ("header_title", .text "Title"),
  ("header_subtitle", .text "Subtitle"),
  ("itinerary_title", .text "Plan"),
  ("days", .sequence [.mapping [
    ("day_title", .text "Day 1"),
    ("activities", .sequence [.mapping [
      ("time", .text "09:00"), ("icon", .text "*"), ("title", .text "Walk"),
      ("description", .text "Old town"), ("price", .text "free")]])]]),
  ("footer_text", .text "Bye"),
  ("buttons", .sequence [.mapping [("class", .mapping []), ("text", .text "Book")]])]

theorem hasStrayButtons_strayPlans : strayPlans.HasStrayButtons :=
  ⟨_, rfl, _, List.mem_singleton_self _, _, rfl, _, List.mem_singleton_self _, rfl, _, rfl, _,
    List.mem_singleton_self _, "class", List.mem_cons_self, _, rfl, rfl⟩

/-- Without violations there is not always a card. -/
theorem not_forall_exists_fillSource :
    ¬ ∀ id ∈ ids, ∃ source, source? id = some source ∧ ∀ data, violations id data = [] →
      ∀ given ∈ [data, fillDefaults id data], ∃ card, fillSource source given = .ok card := by
  intro always
  have valid : violations fullSchedule.id strayPlans = [] := by decide +kernel
  have mem : (fullSchedule, (⟨fullScheduleCard⟩ : Template)) ∈ templates := by simp [templates]
  have isSource : source? fullSchedule.id = some (Template.source ⟨fullScheduleCard⟩) := rfl
  obtain ⟨source, isSource', fills⟩ := always fullSchedule.id (by decide)
  obtain rfl := Option.some.inj (isSource.symm.trans isSource')
  have filled := fills strayPlans valid strayPlans List.mem_cons_self
  rw [Template.fillSource_source (arePlain_of_mem _ mem) (height_le_of_mem _ mem),
    Template.exists_fill_iff] at filled
  have accepts := (fullSchedule.schema.violations_eq_nil_iff strayPlans).mp valid
  exact (fillsAll_fullScheduleCard accepts).mp filled hasStrayButtons_strayPlans

end Catalog
end TripCards
