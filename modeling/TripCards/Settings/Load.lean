/-
Where settings come from: a file, then the environment.

The file is the one that is asked for, or the first of the usual ones that is there. A file that is
there has to be readable, whatever the environment says. What the environment gives takes the place
of what the file gives, field by field.
-/
import TripCards.Commands

namespace TripCards

/-- What the environment gives. -/
structure Environment where
  home : Option FilePath
  templates : Option FilePath
  logLevel : Option String
  logFormat : Option String
  logFilter : Option String
deriving DecidableEq, Repr

/-- The variables that are asked for. -/
def Environment.names : List String :=
  ["HOME", "CARDRENDER_TEMPLATE_DIR", "CARDRENDER_LOG_LEVEL", "CARDRENDER_LOG_FORMAT", "RUST_LOG"]

/-- The environment as its variables give it, on a machine with this home folder. -/
def Environment.of (home : Option FilePath) (valueOf : String → Option String) : Environment where
  home := home
  templates := (valueOf "CARDRENDER_TEMPLATE_DIR").map FilePath.mk
  logLevel := valueOf "CARDRENDER_LOG_LEVEL"
  logFormat := valueOf "CARDRENDER_LOG_FORMAT"
  logFilter := valueOf "RUST_LOG"

/-- The environment of a machine that knows its home folder by a variable alone. -/
def Environment.ofVariables (valueOf : String → Option String) : Environment :=
  .of (((valueOf "HOME").filter (!·.isEmpty)).map FilePath.mk) valueOf

namespace Settings

/-- The settings with what the environment gives. -/
def underEnvironment (settings : Settings) (env : Environment) : Settings where
  templates := env.templates.getD settings.templates
  fillsDefaults := settings.fillsDefaults
  log := ⟨env.logLevel.getD settings.log.level, env.logFormat.getD settings.log.format⟩

/-- Where settings are looked for, in this order. -/
def usualFiles (env : Environment) : List FilePath :=
  [⟨"cardrender.yaml"⟩, ⟨"cardrender.yml"⟩, ⟨".cardrender.yaml"⟩] ++
    (env.home.map fun home => (home.join ⟨".cardrender"⟩).join ⟨"config.yaml"⟩).toList

/-- The first of some files that is there. -/
def firstPresent : List FilePath → Script (Option FilePath)
  | [] => .done none
  | path :: rest =>
    .isPresent path fun isThere => if isThere then .done (some path) else firstPresent rest

/-- The file of the settings, if it is there. -/
def file (env : Environment) (path : Option FilePath) : Script (Option FilePath) :=
  match path with
  | some path => firstPresent [path]
  | none => firstPresent (usualFiles env)

def readFile (path : FilePath) : Command Settings := do
  let text ← Command.ofScript (.settingsUnreadable path) (.readText path .done)
  Command.ofScript (.settingsInvalid path) (.done (Settings.ofString text))

def load (env : Environment) (path : Option FilePath) : Command Settings := do
  let settings ← match ← file env path with
    | some path => readFile path
    | none => pure usual
  return settings.underEnvironment env

end Settings
end TripCards
