/-
What a command asks of the machine that it runs on, step by step.

A script is data. The same script is run on a described machine, where what it does can be reasoned
about, and on the real one.
-/
import TripCards.Files.Disk
import TripCards.Log.Line

namespace TripCards

inductive Script (α : Type) where
  | done (a : α)
  | readText (path : FilePath) (next : Except FileError String → Script α)
  | isPresent (path : FilePath) (next : Bool → Script α)
  | createFolders (path : FilePath) (next : Except FileError Unit → Script α)
  | writeText (path : FilePath) (text : String) (next : Except FileError Unit → Script α)
  | print (text : String) (next : Script α)
  | printError (text : String) (next : Script α)
  | time (next : String → Script α)
  | log (line : LogLine) (next : Script α)

namespace Script

variable {α β γ : Type}

/-- Goes on with `f` where the script is done. -/
protected def bind (script : Script α) (f : α → Script β) : Script β :=
  match script with
  | done a => f a
  | readText path next => readText path fun answer => (next answer).bind f
  | isPresent path next => isPresent path fun answer => (next answer).bind f
  | createFolders path next => createFolders path fun answer => (next answer).bind f
  | writeText path text next => writeText path text fun answer => (next answer).bind f
  | print text next => print text (next.bind f)
  | printError text next => printError text (next.bind f)
  | time next => time fun answer => (next answer).bind f
  | log line next => log line (next.bind f)

instance : Monad Script where
  pure := done
  bind := Script.bind

theorem bind_done (script : Script α) : script.bind done = script := by
  induction script with
  | done a => rfl
  | readText path next ih => exact congrArg (readText path) (funext ih)
  | isPresent path next ih => exact congrArg (isPresent path) (funext ih)
  | createFolders path next ih => exact congrArg (createFolders path) (funext ih)
  | writeText path text next ih => exact congrArg (writeText path text) (funext ih)
  | print text next ih => exact congrArg (print text) ih
  | printError text next ih => exact congrArg (printError text) ih
  | time next ih => exact congrArg time (funext ih)
  | log line next ih => exact congrArg (log line) ih

theorem bind_bind (script : Script α) (f : α → Script β) (g : β → Script γ) :
    (script.bind f).bind g = script.bind fun a => (f a).bind g := by
  induction script with
  | done a => rfl
  | readText path next ih => exact congrArg (readText path) (funext ih)
  | isPresent path next ih => exact congrArg (isPresent path) (funext ih)
  | createFolders path next ih => exact congrArg (createFolders path) (funext ih)
  | writeText path text next ih => exact congrArg (writeText path text) (funext ih)
  | print text next ih => exact congrArg (print text) ih
  | printError text next ih => exact congrArg (printError text) ih
  | time next ih => exact congrArg time (funext ih)
  | log line next ih => exact congrArg (log line) ih

instance : LawfulMonad Script := LawfulMonad.mk' Script
  (fun script => bind_done script)
  (fun _ _ => rfl)
  (fun script f g => bind_bind script f g)

/-- Writes a line of the log. -/
def note (level : LogLevel) (topic : LogTopic) (message : String) : Script Unit :=
  log ⟨level, topic, message⟩ (done ())

def printLine (text : String) : Script Unit :=
  print (text ++ "\n") (done ())

def printErrorLine (text : String) : Script Unit :=
  printError (text ++ "\n") (done ())

end Script

/-- A machine as scripts see it: its disk and its clock, which stands still, and what has been
printed and logged. -/
structure World where
  disk : Disk
  clock : String
  printed : String
  printedErrors : String
  logged : List LogLine

/-- A machine with a disk on which nothing has run. -/
def World.fresh (disk : Disk) : World :=
  ⟨disk, "", "", "", []⟩

namespace Script

variable {α β : Type}

/-- The outcome of a script on a machine, and the machine afterwards. A file that cannot be written
leaves the disk as it was. -/
def run : Script α → World → α × World
  | done a, w => (a, w)
  | readText path next, w => (next (w.disk.readText path)).run w
  | isPresent path next, w => (next (w.disk.isPresent path)).run w
  | createFolders path next, w =>
    let (answer, disk) := w.disk.createFolders path
    (next answer).run { w with disk }
  | writeText path text next, w =>
    match w.disk.writeText path text with
    | .ok disk => (next (.ok ())).run { w with disk }
    | .error e => (next (.error e)).run w
  | print text next, w => next.run { w with printed := w.printed ++ text }
  | printError text next, w => next.run { w with printedErrors := w.printedErrors ++ text }
  | time next, w => (next w.clock).run w
  | log line next, w => next.run { w with logged := w.logged ++ [line] }

theorem run_bind (script : Script α) (f : α → Script β) (w : World) :
    (script.bind f).run w = (f (script.run w).1).run (script.run w).2 := by
  induction script generalizing w with
  | done a => rfl
  | readText path next ih => exact ih _ w
  | isPresent path next ih => exact ih _ w
  | createFolders path next ih => exact ih _ _
  | writeText path text next ih =>
    simp only [Script.bind, run]
    split <;> exact ih _ _
  | print text next ih => exact ih _
  | printError text next ih => exact ih _
  | time next ih => exact ih _ w
  | log line next ih => exact ih _

end Script
end TripCards
