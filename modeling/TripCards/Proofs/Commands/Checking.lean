/-
What checking a template says about the other commands.

Checking a template, checking data and making a card load the template in the same way, each from
the disk as it is: `Command.run_check`, `Command.run_validate`. So what the first finds wrong with
the template is what the others fail with. If it finds nothing, a card fails for the sake of its
data or of its output alone: `Command.check_decides`.
-/
import TripCards.Proofs.Commands.Leaving

namespace TripCards

/-- A machine that has printed more. -/
def World.printing (world : World) (text : String) : World :=
  { world with printed := world.printed ++ text }

theorem World.printing_printing (world : World) (text more : String) :
    (world.printing text).printing more = world.printing (text ++ more) := by
  rw [printing, printing, String.append_assoc]
  rfl

namespace Command

variable (templates : FilePath) (id : String) (world : World)

theorem run_printLine (text : String) :
    (liftM (Script.printLine text) : Command Unit).run.run world =
      (.ok (), world.printing (text ++ "\n")) :=
  run_lift _ world

/-! ## Checking a template -/

/-- What is printed about a template that can be read. -/
def checkReport (template : Template) : String :=
  "✓ Template '" ++ id ++ "' is valid" ++ "\n" ++
    ("  Path: " ++ (templates.join (Catalog.fileOf id)).text ++ "\n" ++
      ("  Blocks: " ++ (if template.hasBlocks then "yes" else "no") ++ "\n"))

theorem run_check :
    (check templates id).run.run world =
      let noted := world.noting (Catalog.warnings id ++ (Shelf.empty templates).loadLines id)
      match (Shelf.empty templates).template world.disk id with
      | .error e => (.error (.checkFailed id e), noted)
      | .ok template => (.ok (), noted.printing (checkReport templates id template)) := by
  rw [check]
  show (liftM (Catalog.resolve id) >>= _ : Command Unit).run.run world = _
  rw [run_andThen, run_lift, Catalog.run_resolve]
  simp only [run_andThen, run_ofScript, run_fst, Shelf.run_load, World.noting_noting,
    World.noting_disk]
  cases (Shelf.empty templates).template world.disk id with
  | error e => rfl
  | ok template =>
    show ((liftM (Script.printLine _) : Command Unit).run.run _) = _
    rw [run_printLine]
    show (_, World.printing (World.printing (World.printing _ _) _) _) = _
    rw [World.printing_printing, World.printing_printing]
    rfl

/-! ## Checking data -/

/-- What is found about data, and what is printed about it. -/
def verdict (fields : Fields) : Except CommandError Unit × String :=
  match Catalog.violations id fields with
  | [] =>
    (.ok (), "✓ Data for template '" ++ id ++ "' is valid" ++ "\n" ++
      ("  Fields: " ++ toString fields.length ++ "\n"))
  | violations =>
    (.error (.dataRejected id violations.length),
      String.join (violations.map fun v => "  ✗ " ++ v.message ++ "\n"))

theorem run_forM_printLine (violations : List Violation) :
    (violations.forM fun v => (Script.printLine ("  ✗ " ++ v.message) : Command Unit)).run.run
        world =
      (.ok (),
        world.printing (String.join (violations.map fun v => "  ✗ " ++ v.message ++ "\n"))) := by
  induction violations generalizing world with
  | nil =>
    show (Except.ok (), world) = (_, World.printing world "")
    rw [World.printing, String.append_empty]
  | cons v violations ih =>
    show ((liftM (Script.printLine _) >>= _ : Command Unit).run.run _) = _
    rw [run_andThen, run_printLine]
    show ((violations.forM _ : Command Unit).run.run (world.printing _)) = _
    rw [ih, World.printing_printing, List.map_cons, String.join_cons]

theorem run_validate (data : FilePath) (assignments : List String) :
    (validate templates id data assignments).run.run world =
      let noted := world.noting [⟨.info, .commands, "Validating data for template: " ++ id⟩]
      match fieldsOn world.disk (some data) assignments with
      | .error fault => (.error fault, noted)
      | .ok fields =>
        let noted := noted.noting ((Shelf.empty templates).loadLines id)
        match (Shelf.empty templates).template world.disk id with
        | .error e => (.error (.loadFailed id e), noted)
        | .ok _ => ((verdict id fields).1, noted.printing (verdict id fields).2) := by
  rw [validate]
  show (liftM (Script.note _ _ _) >>= _ : Command Unit).run.run world = _
  rw [run_andThen, run_lift]
  show ((loadFields (some data) assignments >>= _).run.run (world.noting [_])) = _
  rw [run_andThen, run_loadFields, World.noting_disk]
  cases fieldsOn world.disk (some data) assignments with
  | error fault => rfl
  | ok fields =>
    simp only [run_andThen, run_ofScript, run_fst, Shelf.run_load, World.noting_disk]
    cases (Shelf.empty templates).template world.disk id with
    | error e => rfl
    | ok template =>
      rw [verdict]
      cases Catalog.violations id fields with
      | nil =>
        show ((liftM (Script.printLine _) >>= _ : Command Unit).run.run _) = _
        rw [run_andThen, run_printLine]
        show ((liftM (Script.printLine _) : Command Unit).run.run _) = _
        rw [run_printLine, World.printing_printing]
      | cons v violations =>
        show (((v :: violations).forM _ >>= _ : Command Unit).run.run _) = _
        rw [run_andThen, run_forM_printLine]
        rfl

/-! ## What the template decides -/

section

variable {templates : FilePath} {id : String} {world : World}

theorem outcome_loadFields (data : Option FilePath) (assignments : List String) (world : World) :
    outcome (loadFields data assignments) world = fieldsOn world.disk data assignments := by
  rw [outcome, run_loadFields]

theorem check_eq_ok_iff :
    outcome (check templates id) world = .ok () ↔
      ∃ template, (Shelf.empty templates).template world.disk id = .ok template := by
  rw [outcome, run_check]
  cases (Shelf.empty templates).template world.disk id <;> simp

theorem check_eq_error_iff {fault : CommandError} :
    outcome (check templates id) world = .error fault ↔
      ∃ e, fault = .checkFailed id e ∧
        (Shelf.empty templates).template world.disk id = .error e := by
  rw [outcome, run_check]
  cases (Shelf.empty templates).template world.disk id <;> simp [eq_comm]

section Loads

variable {data : Option FilePath} {assignments : List String} {fields : Fields}
  {output : Option FilePath} {defaults : Bool}

theorem render_of_badTemplate {e : CardError}
    (bad : (Shelf.empty templates).template world.disk id = .error e)
    (loads : fieldsOn world.disk data assignments = .ok fields) :
    outcome (render templates id data assignments output ⟨false, defaults⟩) world =
      .error (.cardFailed id e) := by
  have text : cardText templates id data assignments ⟨false, defaults⟩ world.disk =
      .error (.cardFailed id e) := by
    rw [cardText_of_fields loads, filledText, if_neg Bool.false_ne_true, Shelf.card, bad]
    rfl
  rw [outcome, run_render, text]
  rfl

theorem fault_of_goodTemplate {template : Template} {fault : CommandError}
    (good : (Shelf.empty templates).template world.disk id = .ok template)
    (loads : fieldsOn world.disk data assignments = .ok fields)
    (fails : outcome (render templates id data assignments output ⟨false, defaults⟩) world =
      .error fault) :
    (∃ u, fault = .cardFailed id (.unprintable u)) ∨ fault.isOfOutput = true := by
  obtain ⟨given, text⟩ : ∃ given, cardText templates id data assignments ⟨false, defaults⟩
      world.disk = ((template.fill given).mapError (.cardFailed id)) := by
    rw [cardText_of_fields loads, filledText, if_neg Bool.false_ne_true, Shelf.card, good]
    exact ⟨_, rfl⟩
  rw [outcome, run_render, text, Template.fill] at fails
  cases filled : template.render given with
  | error u =>
    rw [filled] at fails
    exact .inl ⟨u, (Except.error.inj fails).symm⟩
  | ok text =>
    rw [filled] at fails
    exact .inr (isOfOutput_of_deliver fails)

end Loads

theorem validate_of_badTemplate {data : FilePath} {assignments : List String} {fields : Fields}
    {e : CardError} (bad : (Shelf.empty templates).template world.disk id = .error e)
    (loads : fieldsOn world.disk (some data) assignments = .ok fields) :
    outcome (validate templates id data assignments) world = .error (.loadFailed id e) := by
  rw [outcome, run_validate, loads]
  simp only [bad]

end

/-- Checking the template of a card finds it good just if it can be loaded into an empty shelf. What
it finds wrong is what a card and the checking of data fail with on the same disk, if there are
fields. If it finds nothing, a card fails for a value without a text, or for its output, alone. -/
theorem check_decides (templates : FilePath) (id : String) (world : World) :
    let checked := outcome (check templates id) world
    let loaded := (((Shelf.empty templates).load id).run world).1.1
    (checked = .ok () ↔ ∃ template, loaded = .ok template) ∧
    (∀ fault, checked = .error fault → ∃ e, fault = .checkFailed id e ∧ loaded = .error e) ∧
    ∀ (other : World) (data : Option FilePath) (assignments : List String) (fields : Fields),
      other.disk = world.disk → outcome (loadFields data assignments) other = .ok fields →
      (∀ e, checked = .error (.checkFailed id e) →
        (∀ output defaults,
          outcome (render templates id data assignments output ⟨false, defaults⟩) other =
            .error (.cardFailed id e)) ∧
        ∀ path, data = some path →
          outcome (validate templates id path assignments) other = .error (.loadFailed id e)) ∧
      (checked = .ok () → ∀ output defaults fault,
        outcome (render templates id data assignments output ⟨false, defaults⟩) other =
            .error fault →
          (∃ u, fault = .cardFailed id (.unprintable u)) ∨ fault.isOfOutput = true) := by
  intro checked loaded
  have isLoaded : loaded = (Shelf.empty templates).template world.disk id :=
    congrArg (·.1.1) (Shelf.run_load _ _ _)
  rw [isLoaded]
  refine ⟨check_eq_ok_iff, fun fault => check_eq_error_iff.mp, ?_⟩
  intro other data assignments fields same loads
  rw [outcome_loadFields] at loads
  rw [← same] at isLoaded
  constructor
  · intro e fails
    obtain ⟨_, isFault, bad⟩ := check_eq_error_iff.mp fails
    cases isFault
    rw [← same] at bad
    refine ⟨fun output defaults => render_of_badTemplate bad loads, ?_⟩
    rintro path rfl
    exact validate_of_badTemplate bad loads
  · intro succeeds output defaults fault fails
    obtain ⟨template, good⟩ := check_eq_ok_iff.mp succeeds
    rw [← same] at good
    exact fault_of_goodTemplate good loads fails

/-- A folder with one template, and with data that has a mapping under `x`. -/
def cardFolder (source : String) : Disk :=
  ⟨.folder [("recommendation", .folder [("gas-station.html", .file source.toUTF8)]),
    ("d", .file "\x7b\"x\":\x7b\x7d\x7d".toUTF8)], []⟩

theorem readText_cardFolder (source : String) {id : String}
    (isFile : Catalog.fileOf id = ⟨"recommendation/gas-station.html"⟩) :
    (cardFolder source).readText (FilePath.join ⟨"."⟩ (Catalog.fileOf id)) = .ok source := by
  have located : (cardFolder source).locate ⟨"./recommendation/gas-station.html"⟩ =
      .ok ["recommendation", "gas-station.html"] := rfl
  rw [isFile]
  exact Disk.readText_eq_ok_iff.mpr ⟨_, _, located, rfl, Disk.textOfBytes_toUTF8 source⟩

theorem template_cardFolder (source : String) {id : String}
    (isFile : Catalog.fileOf id = ⟨"recommendation/gas-station.html"⟩) :
    (Shelf.empty ⟨"."⟩).template (cardFolder source) id = Template.parse source := by
  rw [Shelf.template, Shelf.got_empty_of_readText (readText_cardFolder source isFile)]
  rfl

/-- A template with a closing tag alone is asked for by a name that is not known, and a good
template with data that has no text for it. -/
theorem check_decides_cardFolder :
    let stray := World.fresh (cardFolder "\x7b\x7b/if\x7d\x7d")
    let good := World.fresh (cardFolder "\x7b\x7bx\x7d\x7d")
    let here : FilePath := ⟨"."⟩
    let data : FilePath := ⟨"d"⟩
    let e : CardError := .badTemplate ⟨.strayClosing .conditional, ⟨1, 1⟩⟩
    outcome (check here "gsa") stray = .error (.checkFailed "gsa" e) ∧
      outcome (render here "gsa" (some data) ["y=1"] none ⟨false, true⟩) stray =
        .error (.cardFailed "gsa" e) ∧
      outcome (validate here "gsa" data ["y=1"]) stray = .error (.loadFailed "gsa" e) ∧
      outcome (check here "gas-station") good = .ok () ∧
      ∃ fault, outcome (render here "gas-station" (some data) [] none ⟨false, true⟩) good =
          .error fault ∧
        ((∃ u, fault = .cardFailed "gas-station" (.unprintable u)) ∨ fault.isOfOutput = true) := by
  intro stray good here data e
  have parsesNot : Template.parse "\x7b\x7b/if\x7d\x7d" = .error e := by cbv
  have parses : Template.parse "\x7b\x7bx\x7d\x7d" = .ok ⟨[.slot ⟨"x", []⟩]⟩ := by cbv
  have bad : (Shelf.empty here).template stray.disk "gsa" = .error e :=
    (template_cardFolder _ rfl).trans parsesNot
  have sound : (Shelf.empty here).template good.disk "gas-station" = .ok ⟨[.slot ⟨"x", []⟩]⟩ :=
    (template_cardFolder _ rfl).trans parses
  have loads : fieldsOn stray.disk (some data) ["y=1"] =
      .ok [("x", .mapping []), ("y", .text "1")] := by cbv
  have loadsMapping : fieldsOn good.disk (some data) [] = .ok [("x", .mapping [])] := by cbv
  have fillsNot : (Template.fill ⟨[.slot ⟨"x", []⟩]⟩
      (Catalog.fillDefaults "gas-station" [("x", .mapping [])])) =
        .error (.unprintable ⟨⟨"x", []⟩, .mapping⟩) := by cbv
  have refused := check_eq_error_iff.mpr ⟨e, rfl, bad⟩
  have accepted := check_eq_ok_iff.mpr ⟨_, sound⟩
  have fails : outcome (render here "gas-station" (some data) [] none ⟨false, true⟩) good =
      .error (.cardFailed "gas-station" (.unprintable ⟨⟨"x", []⟩, .mapping⟩)) := by
    rw [outcome, run_render, cardText_of_fields loadsMapping, filledText,
      if_neg Bool.false_ne_true, Shelf.card, sound, if_pos rfl]
    show (putOut ((Template.fill _ _).mapError _) none _ good).1 = _
    rw [fillsNot]
    rfl
  obtain ⟨-, -, onStray⟩ := check_decides here "gsa" stray
  obtain ⟨-, -, onGood⟩ := check_decides here "gas-station" good
  obtain ⟨failsToo, -⟩ := onStray stray (some data) ["y=1"] _ rfl
    ((outcome_loadFields _ _ _).trans loads)
  obtain ⟨-, failsOnData⟩ := onGood good (some data) [] _ rfl
    ((outcome_loadFields _ _ _).trans loadsMapping)
  obtain ⟨renders, validates⟩ := failsToo e refused
  exact ⟨refused, renders none true, validates data rfl, accepted, _, fails,
    failsOnData accepted none true _ fails⟩

end Command
end TripCards
