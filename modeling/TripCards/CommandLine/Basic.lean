/-
What a command line asks for.
-/
import TripCards.Files.FilePath

namespace TripCards

/-- The options of every command. -/
structure GlobalOptions where
  verbose : Bool
  noColour : Bool
  settings : Option FilePath
  templates : Option FilePath
deriving DecidableEq, Repr

inductive Task where
  | render (id : String) (data : Option FilePath) (assignments : List String)
      (output : Option FilePath) (fallback noDefaults : Bool)
  | inline (file : FilePath) (data : Option FilePath) (assignments : List String)
      (output : Option FilePath)
  | validate (id : String) (data : FilePath) (assignments : List String)
  | check (id : String)
  | list
deriving DecidableEq, Repr

structure CommandLine where
  options : GlobalOptions
  task : Task
deriving DecidableEq, Repr

/-- Why a command line asks for no task: it asks for help or for the version, or it is wrong. -/
inductive Halt where
  | help
  | version
  | nothingGiven
  | missingCommand
  | unknownCommand
  | unknownArgument
  | missingArgument
  /-- A value is left out, or is empty where a path is needed. -/
  | badValue
  /-- A value is given to a switch. -/
  | strayValue
  /-- What is given once at most is given again. -/
  | repeated
deriving DecidableEq, Repr

namespace Halt

/-- A line for whoever wrote the command line. -/
def message : Halt → String
  | help => "cardrender [OPTIONS] <render|inline|validate|check|list>"
  | version => "cardrender 0.1.0"
  | nothingGiven => "a command is needed: render, inline, validate, check or list"
  | missingCommand => "a command is missing"
  | unknownCommand => "the command is not known"
  | unknownArgument => "an argument is not known"
  | missingArgument => "an argument is missing"
  | badValue => "an option has no value"
  | strayValue => "a switch has a value"
  | repeated => "an option is repeated"

/-- Asking for help or for the version is no mistake. -/
def isAnswer : Halt → Bool
  | help | version => true
  | _ => false

end Halt
end TripCards
