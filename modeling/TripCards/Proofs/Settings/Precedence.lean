/-
Where each field of the settings comes from.

One file counts, `chosenFile?`. What it gives is a field or nothing for each field, `FileGives`, and
what it does not give is as usual. Over that lies the environment, and the folder of the templates
that the command line names lies over both: `layered` says so for one field after the other. A file
that cannot be read or understood is a failure whatever lies over it: `CommandLine.settings_layered`.
-/
import Mathlib.Logic.Function.Basic
import TripCards.Program
import TripCards.Proofs.Commands.Making
import TripCards.Proofs.Settings.Document

namespace TripCards
namespace Settings

/-! ## Which file counts -/

/-- Where settings are looked for if no file is asked for. -/
def searched (home : Option FilePath) : List FilePath :=
  [⟨"cardrender.yaml"⟩, ⟨"cardrender.yml"⟩, ⟨".cardrender.yaml"⟩] ++
    (home.map fun home => (home.join ⟨".cardrender"⟩).join ⟨"config.yaml"⟩).toList

/-- The file that is asked for, or the first of the others that is there. -/
def chosenFile? (disk : Disk) (asked home : Option FilePath) : Option FilePath :=
  asked.or ((searched home).find? disk.isPresent)

/-- What the chosen file gives: nothing if it is not there. -/
inductive FileGives (disk : Disk) : Option FilePath → Written → Prop where
  | nowhere : FileGives disk none .nothing
  | missing {path : FilePath} : disk.isPresent path = false → FileGives disk (some path) .nothing
  | text {path : FilePath} {text : String} {given : Written} : disk.isPresent path = true →
      disk.readText path = .ok text → TextGives text given → FileGives disk (some path) given

/-- The settings of a file that is there. -/
def ofPresent (disk : Disk) (path : FilePath) : Except CommandError Settings :=
  ((disk.readText path).mapError (.settingsUnreadable path)).bind fun text =>
    (ofString text).mapError (.settingsInvalid path)

/-- The settings of a file that may be there. -/
def ofFile (disk : Disk) (path : FilePath) : Except CommandError Settings :=
  if disk.isPresent path then ofPresent disk path else .ok usual

/-- The settings of the chosen file. -/
def ofChosen (disk : Disk) (chosen : Option FilePath) : Except CommandError Settings :=
  match chosen with
  | none => .ok usual
  | some path => ofFile disk path

theorem ofFile_eq_ok_iff {disk : Disk} {path : FilePath} {settings : Settings} :
    ofFile disk path = .ok settings ↔
      ∃ given, FileGives disk (some path) given ∧ given.settings = settings := by
  rw [ofFile]
  by_cases isThere : disk.isPresent path = true
  · rw [if_pos isThere, ofPresent, bind_eq_ok_iff]
    simp only [mapError_eq_ok_iff, ofString_eq_ok_iff]
    constructor
    · rintro ⟨text, read, given, gives, rfl⟩
      exact ⟨given, .text isThere read gives, rfl⟩
    · rintro ⟨given, gives, rfl⟩
      cases gives with
      | missing isNotThere =>
        rw [isThere] at isNotThere
        cases isNotThere
      | text _ read gives => exact ⟨_, read, given, gives, rfl⟩
  · have isNotThere : disk.isPresent path = false := by simpa using isThere
    rw [if_neg isThere]
    constructor
    · intro h
      exact ⟨.nothing, .missing isNotThere, Except.ok.inj h⟩
    · rintro ⟨given, gives, rfl⟩
      cases gives with
      | missing => rfl
      | text found => exact absurd found isThere

theorem ofChosen_eq_ok_iff {disk : Disk} {chosen : Option FilePath} {settings : Settings} :
    ofChosen disk chosen = .ok settings ↔
      ∃ given, FileGives disk chosen given ∧ given.settings = settings := by
  cases chosen with
  | some path => exact ofFile_eq_ok_iff
  | none =>
    constructor
    · intro h
      exact ⟨.nothing, .nowhere, Except.ok.inj h⟩
    · rintro ⟨given, gives, rfl⟩
      cases gives
      rfl

/-- A file that is there fails just if it cannot be read or gives nothing that counts. -/
theorem ofPresent_eq_error_iff {disk : Disk} {path : FilePath} :
    (∃ fault, ofPresent disk path = .error fault) ↔
      (∃ fault, disk.readText path = .error fault) ∨
        ∃ text, disk.readText path = .ok text ∧ ¬∃ given, TextGives text given := by
  simp only [ofPresent, bind_eq_error_iff, mapError_eq_error_iff, mapError_eq_ok_iff,
    ← ofString_eq_error_iff]
  constructor
  · rintro ⟨_, ⟨fault, unreadable, rfl⟩ | ⟨text, read, fault, invalid, rfl⟩⟩
    · exact .inl ⟨fault, unreadable⟩
    · exact .inr ⟨text, read, fault, invalid⟩
  · rintro (⟨fault, unreadable⟩ | ⟨text, read, fault, invalid⟩)
    · exact ⟨_, .inl ⟨fault, unreadable, rfl⟩⟩
    · exact ⟨_, .inr ⟨text, read, fault, invalid, rfl⟩⟩

theorem ofChosen_eq_error_iff {disk : Disk} {chosen : Option FilePath} :
    (∃ fault, ofChosen disk chosen = .error fault) ↔
      ∃ path, chosen = some path ∧ disk.isPresent path = true ∧
        ((∃ fault, disk.readText path = .error fault) ∨
          ∃ text, disk.readText path = .ok text ∧ ¬∃ given, TextGives text given) := by
  simp only [← ofPresent_eq_error_iff]
  cases chosen with
  | none => simp [ofChosen]
  | some path =>
    by_cases isThere : disk.isPresent path = true
    · simp [ofChosen, ofFile, isThere]
    · simp [ofChosen, ofFile, isThere]

/-! ## Reading the chosen file -/

theorem run_firstPresent (paths : List FilePath) (world : World) :
    (firstPresent paths).run world = (paths.find? world.disk.isPresent, world) := by
  induction paths with
  | nil => rfl
  | cons path paths ih =>
    rw [firstPresent, Script.run, List.find?_cons]
    cases world.disk.isPresent path with
    | true => rfl
    | false => exact ih

theorem run_file (env : Environment) (asked : Option FilePath) (world : World) :
    (file env asked).run world =
      ((chosenFile? world.disk asked env.home).filter world.disk.isPresent, world) := by
  cases asked with
  | some path =>
    show (firstPresent [path]).run world = _
    rw [run_firstPresent, List.find?_cons, chosenFile?, Option.some_or, Option.filter_some]
    cases world.disk.isPresent path <;> rfl
  | none =>
    show (firstPresent (searched env.home)).run world = _
    rw [run_firstPresent, chosenFile?, Option.none_or]
    cases found : (searched env.home).find? world.disk.isPresent with
    | none => rfl
    | some path => rw [Option.filter_some, if_pos (List.find?_some found)]

theorem run_readFile (path : FilePath) (world : World) :
    (readFile path).run.run world = (ofPresent world.disk path, world) := by
  rw [readFile, Command.run_andThen, Command.run_readText, ofPresent]
  cases world.disk.readText path with
  | error fault => rfl
  | ok text => exact Command.run_ofScript _ _ world

/-- What the chosen file gives, under what the environment gives. -/
theorem run_load (env : Environment) (asked : Option FilePath) (world : World) :
    (load env asked).run.run world =
      ((ofChosen world.disk (chosenFile? world.disk asked env.home)).map
        (·.underEnvironment env), world) := by
  rw [load, Command.run_andThen, Command.run_lift, run_file]
  cases chosenFile? world.disk asked env.home with
  | none => rfl
  | some path =>
    rw [Option.filter_some, ofChosen, ofFile]
    cases world.disk.isPresent path with
    | false => rfl
    | true =>
      show ((readFile path >>= _).run.run world) = _
      rw [Command.run_andThen, run_readFile, if_pos rfl]
      cases ofPresent world.disk path <;> rfl

/-! ## All fields but one -/

def butTemplates (settings : Settings) : Bool × LogSettings :=
  (settings.fillsDefaults, settings.log)

def butLevel (settings : Settings) : FilePath × Bool × String :=
  (settings.templates, settings.fillsDefaults, settings.log.format)

def butFormat (settings : Settings) : FilePath × Bool × String :=
  (settings.templates, settings.fillsDefaults, settings.log.level)

end Settings

open Settings

namespace CommandLine

/-! ## What lies over the file -/

/-- The settings of a file with what the command line and the environment put over them. -/
def covering (line : CommandLine) (env : Environment) (settings : Settings) : Settings :=
  let under := settings.underEnvironment env
  { under with templates := line.options.templates.getD under.templates }

/-- Field by field: the command line, else the environment, else the file, else as usual. -/
def layered (line : CommandLine) (valueOf : String → Option String) (given : Settings.Written) :
    Settings where
  templates :=
    ((line.options.templates.or ((valueOf "CARDRENDER_TEMPLATE_DIR").map FilePath.mk)).or
      (given.templates.map FilePath.mk)).getD ⟨"templates"⟩
  fillsDefaults := given.fillsDefaults.getD true
  log := {
    level := ((valueOf "CARDRENDER_LOG_LEVEL").or given.logLevel).getD "info"
    format := ((valueOf "CARDRENDER_LOG_FORMAT").or given.logFormat).getD "pretty" }

/-- The settings that the program starts with, or why it does not, on a machine with this home
folder and these values of variables. The home folder is what the machine answers with, which none of
the variables for the settings has a part in. -/
def settingsOn (line : CommandLine) (home : Option FilePath) (valueOf : String → Option String)
    (world : World) : Except CommandError Settings :=
  Command.outcome (line.settings (.of home valueOf)) world

section Layers

variable (line : CommandLine) (home : Option FilePath) (valueOf : String → Option String)
  (world : World)

theorem covering_settings (given : Settings.Written) :
    line.covering (.of home valueOf) given.settings = line.layered valueOf given := by
  have templates : given.settings.templates =
      (given.templates.map FilePath.mk).getD ⟨"templates"⟩ := by
    cases h : given.templates <;> simp [Settings.Written.settings, h]
  simp only [covering, layered, underEnvironment, Environment.of, templates, Option.getD_or]
  rfl

theorem settingsOn_eq :
    line.settingsOn home valueOf world =
      (ofChosen world.disk (chosenFile? world.disk line.options.settings home)).map
        (line.covering (.of home valueOf)) := by
  rw [settingsOn, Command.outcome, CommandLine.settings, Command.run_andThen, run_load]
  show _ = (ofChosen world.disk (chosenFile? world.disk _ (Environment.of home valueOf).home)).map _
  cases ofChosen world.disk _ <;> rfl

theorem settingsOn_eq_ok_iff {settings : Settings} :
    line.settingsOn home valueOf world = .ok settings ↔
      ∃ given, FileGives world.disk
          (chosenFile? world.disk line.options.settings home) given ∧
        line.layered valueOf given = settings := by
  rw [settingsOn_eq, map_eq_ok_iff]
  constructor
  · rintro ⟨ofFile, chosen, rfl⟩
    obtain ⟨given, gives, rfl⟩ := ofChosen_eq_ok_iff.mp chosen
    exact ⟨given, gives, (covering_settings line home valueOf given).symm⟩
  · rintro ⟨given, gives, rfl⟩
    exact ⟨given.settings, ofChosen_eq_ok_iff.mpr ⟨given, gives, rfl⟩,
      covering_settings line home valueOf given⟩

theorem settingsOn_eq_error_iff :
    (∃ fault, line.settingsOn home valueOf world = .error fault) ↔
      ∃ path, chosenFile? world.disk line.options.settings home = some path ∧
        world.disk.isPresent path = true ∧
        ((∃ fault, world.disk.readText path = .error fault) ∨
          ∃ text, world.disk.readText path = .ok text ∧ ¬∃ given, TextGives text given) := by
  simp only [settingsOn_eq, map_eq_error_iff]
  exact ofChosen_eq_error_iff

end Layers

/-- What is the same over every file is the same in the outcome, if the same file is asked for. -/
theorem map_settingsOn_congr {α : Type} {line line' : CommandLine}
    {valueOf valueOf' : String → Option String} (home : Option FilePath) (world : World)
    (f : Settings → α)
    (sameFile : line'.options.settings = line.options.settings)
    (same : ∀ settings, f (line'.covering (.of home valueOf') settings) =
      f (line.covering (.of home valueOf) settings)) :
    (line'.settingsOn home valueOf' world).map f = (line.settingsOn home valueOf world).map f := by
  rw [settingsOn_eq, settingsOn_eq, sameFile]
  cases ofChosen world.disk _ with
  | error fault => rfl
  | ok settings => exact congrArg Except.ok (same settings)

/-- Every field of the settings comes from the first of its places that has it.

The file of the settings is the one that is asked for, or the first of the others that is there. The
program does not start just if that file is there and cannot be read or gives no settings. Otherwise
the fields are those of `layered`. A variable, and the folder of the templates on the command line,
changes only its own field, and whether defaults are filled in follows from the file alone. -/
theorem settings_layered (line : CommandLine) (home : Option FilePath)
    (valueOf : String → Option String) (world : World) :
    let chosen := chosenFile? world.disk line.options.settings home
    let outcome := line.settingsOn home valueOf world
    let updated (name : String) (value : Option String) :=
      line.settingsOn home (Function.update valueOf name value) world
    (∀ settings, outcome = .ok settings ↔
      ∃ given, FileGives world.disk chosen given ∧ line.layered valueOf given = settings) ∧
    ((∃ fault, outcome = .error fault) ↔
      ∃ path, chosen = some path ∧ world.disk.isPresent path = true ∧
        ((∃ fault, world.disk.readText path = .error fault) ∨
          ∃ text, world.disk.readText path = .ok text ∧ ¬∃ given, TextGives text given)) ∧
    (∀ value, (updated "CARDRENDER_TEMPLATE_DIR" value).map butTemplates =
      outcome.map butTemplates) ∧
    (∀ value, (updated "CARDRENDER_LOG_LEVEL" value).map butLevel = outcome.map butLevel) ∧
    (∀ value, (updated "CARDRENDER_LOG_FORMAT" value).map butFormat = outcome.map butFormat) ∧
    (∀ templates,
      ({ line with options := { line.options with templates } }.settingsOn home valueOf world).map
          butTemplates = outcome.map butTemplates) ∧
    (∀ (other : CommandLine) (valueOf' : String → Option String),
      other.options.settings = line.options.settings →
        (other.settingsOn home valueOf' world).map (·.fillsDefaults) =
          outcome.map (·.fillsDefaults)) := by
  intro chosen outcome updated
  refine ⟨fun settings => settingsOn_eq_ok_iff line home valueOf world,
    settingsOn_eq_error_iff line home valueOf world, ?_, ?_, ?_, ?_, ?_⟩
  · intro value
    apply map_settingsOn_congr home world _ rfl
    intro settings
    simp [butTemplates, covering, underEnvironment, Environment.of]
  · intro value
    apply map_settingsOn_congr home world _ rfl
    intro settings
    simp [butLevel, covering, underEnvironment, Environment.of]
  · intro value
    apply map_settingsOn_congr home world _ rfl
    intro settings
    simp [butFormat, covering, underEnvironment, Environment.of]
  · intro templates
    exact map_settingsOn_congr home world _ rfl fun settings => rfl
  · intro other valueOf' sameFile
    exact map_settingsOn_congr home world _ sameFile fun settings => rfl

/-! ## A file in the home folder -/

/-- A file that gives every field but the level of the log. -/
def officeText : String :=
  "template_dir: /srv/cards\napply_defaults: false\nlogging:\n  format: compact\n"

def officeLog : Yaml.Node :=
  .mapping none [(.scalar none none .plain "format", .scalar none none .plain "compact")]

def officeDocument : Yaml.Node :=
  .mapping none [
    (.scalar none none .plain "template_dir", .scalar none none .plain "/srv/cards"),
    (.scalar none none .plain "apply_defaults", .scalar none none .plain "false"),
    (.scalar none none .plain "logging", officeLog)]

def officeDisk : Disk :=
  ⟨.folder [("home", .folder [(".cardrender", .folder [("config.yaml", .file officeText.toUTF8)])])],
    []⟩

theorem logGives_office : LogGives officeDocument officeLog ⟨none, some "compact"⟩ := by
  refine .fields ⟨.mapping rfl, ?_⟩ (.absent rfl) (.present rfl rfl)
  exact List.forall_mem_singleton.mpr rfl

theorem documentGives_office : DocumentGives officeDocument
    ⟨some "/srv/cards", some false, some ⟨none, some "compact"⟩⟩ := by
  refine .fields ⟨.mapping rfl, ?_⟩ (.present rfl rfl) (.present rfl (.plain rfl (by decide)))
    (.present rfl logGives_office)
  simp only [List.forall_mem_cons]
  exact ⟨rfl, rfl, rfl, List.forall_mem_nil _⟩

theorem fileGives_office : FileGives officeDisk (chosenFile? officeDisk none (some ⟨"/home"⟩))
    ⟨some "/srv/cards", some false, some ⟨none, some "compact"⟩⟩ := by
  have chosen : chosenFile? officeDisk none (some ⟨"/home"⟩) =
      some ⟨"/home/.cardrender/config.yaml"⟩ := by
    decide +kernel
  have isThere : officeDisk.isPresent ⟨"/home/.cardrender/config.yaml"⟩ = true := by decide +kernel
  have read : officeDisk.readText ⟨"/home/.cardrender/config.yaml"⟩ = .ok officeText := by
    decide +kernel
  have parsed : Yaml.Node.ofString officeText = .ok (some officeDocument) := by cbv
  rw [chosen]
  exact .text isThere read (.document parsed documentGives_office)

/-- The file in the home folder gives all but the level of the log, which a variable gives. What is
put over the file changes nothing about whether defaults are filled in. -/
theorem settings_layered_office :
    let valueOf (name : String) := if name = "CARDRENDER_LOG_LEVEL" then some "debug" else none
    let line : CommandLine := ⟨⟨false, false, none, none⟩, .list⟩
    let other : CommandLine := ⟨⟨true, false, none, some ⟨"cards"⟩⟩, .list⟩
    line.settingsOn (some ⟨"/home"⟩) valueOf (World.fresh officeDisk) =
        .ok ⟨⟨"/srv/cards"⟩, false, ⟨"debug", "compact"⟩⟩ ∧
      other.options.settings = line.options.settings ∧
      (other.settingsOn (some ⟨"/home"⟩) (fun _ => none) (World.fresh officeDisk)).map
        (·.fillsDefaults) = .ok false := by
  intro valueOf line other
  obtain ⟨succeeds, -, -, -, -, -, fromFile⟩ :=
    settings_layered line (some ⟨"/home"⟩) valueOf (World.fresh officeDisk)
  have settings := (succeeds ⟨⟨"/srv/cards"⟩, false, ⟨"debug", "compact"⟩⟩).mpr
    ⟨_, fileGives_office, rfl⟩
  have same := fromFile other (fun _ => none) rfl
  rw [settings] at same
  exact ⟨settings, rfl, same⟩
end CommandLine
end TripCards
