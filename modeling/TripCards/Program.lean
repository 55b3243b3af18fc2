/-
The program: from a command line and an environment to what is printed and written.
-/
import TripCards.CommandLine.Reader
import TripCards.Log.Filter
import TripCards.Settings.Load

namespace TripCards

/-- How lines of the log are shown. -/
structure Console where
  filter : LogFilter
  inColour : Bool

namespace Script

variable {α : Type}

/-- The script with its log on the console. -/
def onConsole (console : Console) : Script α → Script α
  | done a => done a
  | readText path next => readText path fun answer => (next answer).onConsole console
  | isPresent path next => isPresent path fun answer => (next answer).onConsole console
  | createFolders path next => createFolders path fun answer => (next answer).onConsole console
  | writeText path text next => writeText path text fun answer => (next answer).onConsole console
  | print text next => print text (next.onConsole console)
  | printError text next => printError text (next.onConsole console)
  | time next => time fun answer => (next answer).onConsole console
  | log line next =>
    if console.filter.shows line then
      time fun now =>
        printError (line.shown now console.inColour ++ "\n") (next.onConsole console)
    else next.onConsole console

end Script

/-- What a task does under the settings. -/
def Task.run (task : Task) (settings : Settings) : Command Unit :=
  match task with
  | .render id data assignments output fallback noDefaults =>
      Command.render settings.templates id data assignments output
        ⟨fallback, settings.fillsDefaults && !noDefaults⟩
  | .inline file data assignments output => Command.inline file data assignments output
  | .validate id data assignments => Command.validate settings.templates id data assignments
  | .check id => Command.check settings.templates id
  | .list => Command.list settings.templates

namespace CommandLine

/-- The settings of a command line. The folder of the templates that it names comes first. -/
def settings (line : CommandLine) (env : Environment) : Command Settings := do
  let settings ← Settings.load env line.options.settings
  return { settings with templates := line.options.templates.getD settings.templates }

/-- The level up to which the log is shown if the environment gives no filter. -/
def logLevel (line : CommandLine) (settings : Settings) : String :=
  if line.options.verbose then "debug" else settings.log.level

/-- The filter of the environment, if it can be read, and what is said about a level that cannot. -/
def logFilter (line : CommandLine) (env : Environment) (settings : Settings) :
    LogFilter × List String :=
  match env.logFilter.bind LogFilter.ofString? with
  | some filter => (filter, [])
  | none =>
    let level := line.logLevel settings
    (LogFilter.ofReadable level, LogFilter.complaints level)

/-- The log of the program's start, then the task. -/
def runTask (line : CommandLine) (settings : Settings) : Command Unit := do
  Script.note .debug .app ("Logging initialized with level: " ++ line.logLevel settings)
  Script.note .info .app "Starting cardrender v0.1.0"
  Script.note .debug .app ("Templates read from: " ++ settings.templates.text)
  line.task.run settings

def run (line : CommandLine) (env : Environment) : Command Unit := do
  let settings ← line.settings env
  let (filter, complaints) := line.logFilter env settings
  complaints.forM fun complaint => (Script.printErrorLine complaint : Command Unit)
  ExceptT.mk ((line.runTask settings).run.onConsole ⟨filter, !line.options.noColour⟩)

end CommandLine

namespace CommandError

/-- The lines of a cause, the first of them behind `head`. -/
def indented (head rest cause : String) : List String :=
  match Text.splitAt '\n' cause.toList with
  | [] => [head]
  | first :: others =>
      (head ++ String.ofList first) :: others.map fun line => rest ++ String.ofList line

/-- Several causes are numbered from zero. -/
def causeLines : List String → List String
  | [] => []
  | [cause] => indented "    " "    " cause
  | causes =>
      causes.zipIdx.flatMap fun (cause, n) =>
        let number := toString n
        let margin := String.ofList (List.replicate (5 - number.length) ' ')
        indented (margin ++ number ++ ": ") "       " cause

/-- What is printed about a failure. -/
def report (e : CommandError) : String :=
  let causes := causeLines e.causes
  let lines := if causes.isEmpty then [] else ["", "Caused by:"] ++ causes
  String.join ((("Error: " ++ e.message) :: lines).map (· ++ "\n"))

end CommandError

/-- The status with which the program ends. -/
inductive ExitStatus where
  | success
  | failure
  | misuse
deriving DecidableEq, Repr

def ExitStatus.code : ExitStatus → Nat
  | success => 0
  | failure => 1
  | misuse => 2

/-- The whole program. -/
def program (args : List String) (env : Environment) : Script ExitStatus :=
  match CommandLine.read args with
  | .error halt =>
    if halt.isAnswer then .print (halt.message ++ "\n") (.done .success)
    else .printError ("error: " ++ halt.message ++ "\n") (.done .misuse)
  | .ok line =>
    (line.run env).run.bind fun
      | .ok () => .done .success
      | .error e => .printError e.report (.done .failure)

end TripCards
