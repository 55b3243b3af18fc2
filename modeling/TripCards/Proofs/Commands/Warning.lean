/-
How often a command warns of a card that is not known.

The warning is logged by whoever looks the card up, and every command that loads a template looks its
card up for that: making a card and checking data, `warns_render` and `warns_validate`, if there are
fields, and checking a template in any case. But checking a template looks the card up for its path as
well, so there the warning comes twice, `warns_check`. No other line begins as the warning does.
-/
import TripCards.Proofs.Commands.Checking
import TripCards.Proofs.Session.Rendering

namespace TripCards

namespace LogLine

/-- The line begins as the warning does that a card is not known, whichever card it is. -/
def SaysUnknown (line : LogLine) : Prop :=
  "Unknown template '".toList <+: line.message.toList

instance (line : LogLine) : Decidable line.SaysUnknown :=
  inferInstanceAs (Decidable (_ <+: _))

/-- The warnings among some lines that a card is not known. -/
def unknowns (lines : List LogLine) : List LogLine :=
  lines.filter (·.SaysUnknown)

variable {line : LogLine} {lines : List LogLine}

theorem unknowns_append (lines more : List LogLine) :
    unknowns (lines ++ more) = unknowns lines ++ unknowns more :=
  List.filter_append lines more

theorem unknowns_cons_of_not (h : ¬ line.SaysUnknown) (lines : List LogLine) :
    unknowns (line :: lines) = unknowns lines :=
  List.filter_cons_of_neg (by simpa using h)

/-- It is enough to look at the first letter. -/
theorem not_saysUnknown {level : LogLevel} {topic : LogTopic} {text rest : String}
    (first : text.toList.head?.any (· ≠ 'U') = true) :
    ¬ SaysUnknown ⟨level, topic, text ++ rest⟩ := by
  obtain ⟨c, head, other⟩ := (Option.any_eq_true _ _).mp first
  obtain ⟨s, begins⟩ := List.head?_eq_some_iff.mp head
  have word : "Unknown template '".toList = 'U' :: "nknown template '".toList := by decide
  rw [SaysUnknown, String.toList_append, begins, word, List.cons_append, List.cons_prefix_cons]
  intro h
  rw [← h.1] at other
  cases other

end LogLine

open LogLine

namespace Catalog

theorem unknowns_warnings (id : String) : unknowns (warnings id) = warnings id := by
  rw [warnings]
  by_cases known : isKnown id = true
  · rw [if_pos known]
    rfl
  · rw [if_neg known]
    apply List.filter_eq_self.mpr
    intro line mem
    rw [List.mem_singleton.mp mem, decide_eq_true_eq, SaysUnknown, String.append_assoc,
      String.toList_append]
    exact List.prefix_append _ _

end Catalog

namespace Shelf

theorem unknowns_loadLines (shelf : Shelf) (id : String) :
    unknowns (shelf.loadLines id) = Catalog.warnings id := by
  have misses : unknowns (shelf.misses (Catalog.fileOf id)) = [] := by
    rw [Shelf.misses]
    cases shelf.find? (shelf.pathOf (Catalog.fileOf id)) with
    | some text => rfl
    | none => exact unknowns_cons_of_not (not_saysUnknown (by decide)) []
  rw [loadLines, unknowns_append, misses, List.append_nil, Catalog.unknowns_warnings]

theorem unknowns_complaints (shelf : Shelf) (disk : Disk) (id : String) (data : Fields) :
    unknowns (shelf.complaints disk id data) = [] := by
  rw [complaints]
  cases shelf.card disk id data with
  | ok text => rfl
  | error e =>
    simp only [String.append_assoc]
    exact unknowns_cons_of_not (not_saysUnknown (by decide)) []

end Shelf

namespace Command

variable (templates : FilePath) (id : String) (data : Option FilePath) (assignments : List String)
  (output : Option FilePath) (options : RenderOptions) (world : World)

/-! ## What is logged on the way -/

theorem unknowns_deliver (text : String) (disk : Disk) :
    unknowns (deliver text output disk).logged = [] := by
  cases output with
  | none => rfl
  | some path =>
    rw [deliver]
    obtain ⟨made, prepared⟩ := preparedFor path disk
    cases made with
    | error fault => rfl
    | ok _ =>
      show unknowns (deliverTo path text prepared).logged = []
      rw [deliverTo]
      cases prepared.writeText path text with
      | error fault => rfl
      | ok written =>
        exact unknowns_cons_of_not (not_saysUnknown (by decide)) []

theorem unknowns_available : unknowns (available id) = [] := by
  rw [available]
  by_cases known : Catalog.isKnown id = true
  · rw [if_pos known]
    rfl
  · rw [if_neg known]
    exact unknowns_cons_of_not (not_saysUnknown (by decide)) []

theorem unknowns_fillingLines (fields : Fields) (fallback : Bool) (disk : Disk) :
    unknowns (fillingLines templates id fields fallback disk) = Catalog.warnings id := by
  rw [fillingLines]
  simp only [String.append_assoc]
  rw [unknowns_cons_of_not (not_saysUnknown (by decide))]
  cases fallback with
  | true =>
    show unknowns (Shelf.loadLines _ id ++ Shelf.complaints _ disk id fields) = _
    rw [unknowns_append, Shelf.unknowns_loadLines, Shelf.unknowns_complaints, List.append_nil]
  | false => exact Shelf.unknowns_loadLines _ id

/-- The warnings of a command that looks the card up if it has fields. -/
def warningsWith (fields : Except CommandError Fields) : List LogLine :=
  match fields with
  | .error _ => []
  | .ok _ => Catalog.warnings id

theorem unknowns_cardLines (disk : Disk) :
    unknowns (cardLines templates id data assignments options disk) =
      warningsWith id (fieldsOn disk data assignments) := by
  rw [cardLines, unknowns_append, unknowns_available, List.nil_append, loadedLines, cardFieldsOn]
  cases fieldsOn disk data assignments with
  | error fault => rfl
  | ok fields => exact unknowns_fillingLines templates id _ options.fallback disk

/-! ## Commands -/

/-- The command logs these warnings that a card is not known, and no others. -/
def Warns (command : Command Unit) (world : World) (warnings : List LogLine) : Prop :=
  ∃ lines, (command.run.run world).2.logged = world.logged ++ lines ∧ unknowns lines = warnings

theorem warns_render :
    Warns (render templates id data assignments output options) world
      (warningsWith id (fieldsOn world.disk data assignments)) := by
  rw [Warns, run_render, ← unknowns_cardLines templates id data assignments options world.disk]
  cases cardText templates id data assignments options world.disk with
  | error fault => exact ⟨_, rfl, rfl⟩
  | ok text =>
    refine ⟨_, List.append_assoc _ _ _, ?_⟩
    rw [unknowns_append, unknowns_deliver, List.append_nil]

theorem warns_validate (path : FilePath) :
    Warns (validate templates id path assignments) world
      (warningsWith id (fieldsOn world.disk (some path) assignments)) := by
  have opening : ¬ SaysUnknown
      ⟨.info, .commands, "Validating data for template: " ++ id⟩ :=
    not_saysUnknown (by decide)
  rw [Warns, run_validate]
  cases fieldsOn world.disk (some path) assignments with
  | error fault => exact ⟨_, rfl, unknowns_cons_of_not opening []⟩
  | ok fields =>
    have lines : unknowns (⟨.info, .commands, "Validating data for template: " ++ id⟩ ::
        (Shelf.empty templates).loadLines id) = Catalog.warnings id := by
      rw [unknowns_cons_of_not opening, Shelf.unknowns_loadLines]
    refine ⟨_, ?_, lines⟩
    cases (Shelf.empty templates).template world.disk id <;>
      exact List.append_assoc world.logged [_] _

theorem warns_check :
    Warns (check templates id) world (Catalog.warnings id ++ Catalog.warnings id) := by
  rw [Warns, run_check]
  refine ⟨Catalog.warnings id ++ (Shelf.empty templates).loadLines id, ?_, ?_⟩
  · cases (Shelf.empty templates).template world.disk id <;> rfl
  · rw [unknowns_append, Catalog.unknowns_warnings, Shelf.unknowns_loadLines]

theorem warningsWith_of_known (known : id ∈ Catalog.ids) (fields : Except CommandError Fields) :
    warningsWith id fields = [] := by
  cases fields with
  | error fault => rfl
  | ok fields => exact Catalog.warnings_of_mem known

/-- Making a card and checking data warn alike. -/
theorem warns_of_warningsWith {warnings : List LogLine}
    (h : warningsWith id (fieldsOn world.disk data assignments) = warnings) :
    (∀ output options, Warns (render templates id data assignments output options) world warnings) ∧
      ∀ path, data = some path → Warns (validate templates id path assignments) world warnings := by
  rw [← h]
  constructor
  · intro output options
    exact warns_render templates id data assignments output options world
  · intro path given
    rw [given]
    exact warns_validate templates id assignments world path

/-- A command that is asked for a card that is not known warns of that once if it has the fields that
it needs to go on to the template, and otherwise not. Only checking a template, which needs no fields,
warns of it twice. No command warns of a card that is known. -/
theorem warns_commands (templates : FilePath) (id : String) (world : World) :
    (id ∈ Catalog.ids →
      (∀ data assignments output options,
        Warns (render templates id data assignments output options) world []) ∧
      (∀ path assignments, Warns (validate templates id path assignments) world []) ∧
      Warns (check templates id) world []) ∧
    (id ∉ Catalog.ids →
      let warning : LogLine :=
        ⟨.warn, .registry, "Unknown template '" ++ id ++ "', falling back to 'gas-station'"⟩
      (∀ data assignments,
        (∀ fields, outcome (loadFields data assignments) world = .ok fields →
          (∀ output options,
            Warns (render templates id data assignments output options) world [warning]) ∧
          ∀ path, data = some path →
            Warns (validate templates id path assignments) world [warning]) ∧
        ∀ fault, outcome (loadFields data assignments) world = .error fault →
          (∀ output options,
            Warns (render templates id data assignments output options) world []) ∧
          ∀ path, data = some path → Warns (validate templates id path assignments) world []) ∧
      Warns (check templates id) world [warning, warning]) := by
  constructor
  · intro known
    have silent (data : Option FilePath) (assignments : List String) :=
      warns_of_warningsWith templates id data assignments world
        (warningsWith_of_known id known (fieldsOn world.disk data assignments))
    have checks := warns_check templates id world
    rw [Catalog.warnings_of_mem known] at checks
    refine ⟨?_, ?_, checks⟩
    · intro data assignments
      exact (silent data assignments).1
    · intro path assignments
      exact (silent (some path) assignments).2 path rfl
  · intro unknown warning
    have once : Catalog.warnings id = [warning] := Catalog.warnings_of_not_mem unknown
    have checks := warns_check templates id world
    rw [once] at checks
    refine ⟨?_, checks⟩
    intro data assignments
    rw [outcome_loadFields]
    constructor
    · intro fields loads
      apply warns_of_warningsWith
      rw [loads, warningsWith, once]
    · intro fault fails
      apply warns_of_warningsWith
      rw [fails, warningsWith]

/-- A template that is good is checked by a name that is not known. -/
theorem warns_check_twice :
    let world := World.fresh (cardFolder "fuel")
    "gsa" ∉ Catalog.ids ∧ outcome (check ⟨"."⟩ "gsa") world = .ok () ∧
      ¬ ∃ warning, Warns (check ⟨"."⟩ "gsa") world [warning] := by
  intro world
  have unknown : "gsa" ∉ Catalog.ids := by decide
  have parses : Template.parse "fuel" = .ok ⟨[.text "fuel"]⟩ := by cbv
  have loads : (Shelf.empty ⟨"."⟩).template world.disk "gsa" = .ok ⟨[.text "fuel"]⟩ :=
    (template_cardFolder _ rfl).trans parses
  refine ⟨unknown, check_eq_ok_iff.mpr ⟨_, loads⟩, ?_⟩
  rintro ⟨warning, lines, logged, once⟩
  obtain ⟨others, loggedToo, twice⟩ := warns_check ⟨"."⟩ "gsa" world
  have same : lines = others := List.append_cancel_left (logged.symm.trans loggedToo)
  rw [same, twice, Catalog.warnings_of_not_mem unknown] at once
  cases once

end Command
end TripCards
