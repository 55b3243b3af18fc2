/-
Reading a command line.

The arguments up to the name of a command are read with the options of the program, those behind it
with the options of the command, which are the global ones and its own. What is given to an option
counts when the next thing is read; so a mistake in a value is found before one behind it, unless
the thing behind it cannot be read at all.
-/
import TripCards.CommandLine.Basic
import TripCards.Text.Parts

namespace TripCards

inductive Opt where
  | help
  | version
  | verbose
  | noColour
  | settings
  | templates
  | data
  | field
  | output
  | fallback
  | noDefaults
deriving DecidableEq, Repr

/-- What an option takes. -/
inductive Takes where
  | nothing
  | text
  | path
deriving DecidableEq, Repr

namespace Opt

def long : Opt → String
  | help => "help"
  | version => "version"
  | verbose => "verbose"
  | noColour => "no-color"
  | settings => "config"
  | templates => "template-dir"
  | data => "data"
  | field => "var"
  | output => "output"
  | fallback => "fallback"
  | noDefaults => "no-defaults"

def short? : Opt → Option Char
  | help => some 'h'
  | version => some 'V'
  | verbose => some 'v'
  | settings => some 'c'
  | data => some 'd'
  | field => some 'V'
  | output => some 'o'
  | noColour | templates | fallback | noDefaults => none

def takes : Opt → Takes
  | help | version | verbose | noColour | fallback | noDefaults => .nothing
  | settings | templates | data | output => .path
  | field => .text

end Opt

/-- What a value is given to: an option, or the operand of a command. -/
inductive Slot where
  | option (o : Opt)
  | operand
deriving DecidableEq, Repr

/-- The arguments that can be read at one level. -/
structure ArgumentSet where
  options : List Opt
  operand : Option Takes
  commands : List String

namespace ArgumentSet

def globals : List Opt := [.verbose, .settings, .noColour, .templates]

def program : ArgumentSet where
  options := globals ++ [.help, .version]
  operand := none
  commands := ["render", "inline", "validate", "check", "list", "help"]

/-- The arguments of a command with options of its own. -/
def command (own : List Opt) (operand : Option Takes) : ArgumentSet where
  options := own ++ globals ++ [.help]
  operand := operand
  commands := []

def long? (set : ArgumentSet) (name : List Char) : Option Opt :=
  set.options.find? fun o => o.long.toList == name

def short? (set : ArgumentSet) (c : Char) : Option Opt :=
  set.options.find? fun o => o.short? == some c

def takes (set : ArgumentSet) : Slot → Takes
  | .option o => o.takes
  | .operand => set.operand.getD .text

end ArgumentSet

/-- What is given so far, and what is still open: a slot with its value or without it. -/
structure Given where
  values : List (Slot × String)
  pending : Option (Slot × Option String)

namespace Given

def nothing : Given := ⟨[], none⟩

def has (given : Given) (slot : Slot) : Bool :=
  given.values.any (·.1 == slot)

/-- The next argument is the value of an option. -/
def awaitsValue (given : Given) : Bool :=
  given.pending.any (·.2.isNone)

/-- Whether the operand is there, counted or not. -/
def hasOperand (given : Given) : Bool :=
  given.has .operand || given.pending.any (·.1 == .operand)

/-- Only fields are given more than once. -/
def mayRepeat : Slot → Bool
  | .option .field => true
  | _ => false

/-- Counts a value. A switch has the value that is nothing. -/
def count (set : ArgumentSet) (given : Given) (slot : Slot) (value : String) : Except Halt Given :=
  if given.has slot && !mayRepeat slot then .error .repeated
  else if set.takes slot == .path && value.isEmpty then .error .badValue
  else .ok { given with values := given.values ++ [(slot, value)] }

/-- Counts what is open. -/
def settle (set : ArgumentSet) (given : Given) : Except Halt Given :=
  match given.pending with
  | none => .ok given
  | some (_, none) => .error .badValue
  | some (slot, some value) => { given with pending := none }.count set slot value

/-- Counts what is open, then a value that is attached to its option. -/
def attach (set : ArgumentSet) (given : Given) (o : Opt) (value : String) : Except Halt Given := do
  let given ← given.settle set
  given.count set (.option o) value

def switchOn (set : ArgumentSet) (given : Given) (o : Opt) : Except Halt Given := do
  let given ← given.settle set
  match o with
  | .help => throw .help
  | .version => throw .version
  | _ => given.count set (.option o) ""

/-- Opens a slot whose value, if it is not there yet, is the next argument. -/
def begin (set : ArgumentSet) (given : Given) (slot : Slot) (value : Option String) :
    Except Halt Given := do
  let given ← given.settle set
  return { given with pending := some (slot, value) }

/-- Behind two dashes: an option by its name, with a value behind an equals sign or without. -/
def readLong (set : ArgumentSet) (given : Given) (text : List Char) : Except Halt Given :=
  let (name, value) := match Text.cutAt? '=' text with
    | some (name, value) => (name, some (String.ofList value))
    | none => (text, none)
  match set.long? name with
  | none => .error .unknownArgument
  | some o =>
    match o.takes, value with
    | .nothing, none => given.switchOn set o
    | .nothing, some _ => .error .strayValue
    | _, some value => given.attach set o value
    | _, none => given.begin set (.option o) none

/-- Behind one dash: switches by their letters, and at the end perhaps an option with a value. -/
def readShort (set : ArgumentSet) (given : Given) : List Char → Except Halt Given
  | [] => .ok given
  | c :: rest =>
    match set.short? c with
    | none => .error .unknownArgument
    | some o =>
      if o.takes == .nothing then do
        let given ← given.switchOn set o
        given.readShort set rest
      else
        match rest with
        | [] => given.begin set (.option o) none
        | '=' :: value => given.attach set o (String.ofList value)
        | value => given.attach set o (String.ofList value)

/-- An argument that is no option and no value of one. -/
def readOperand (set : ArgumentSet) (given : Given) (onlyOperands : Bool) (arg : String) :
    Except Halt Given :=
  if set.operand.isSome && !given.hasOperand then given.begin set .operand (some arg)
  else if set.commands.isEmpty || (onlyOperands && set.commands.contains arg) then
    .error .unknownArgument
  else .error .unknownCommand

/-- Reads arguments up to the name of a command, which is returned with what follows it. Behind two
dashes alone there are only operands. -/
def readAll (set : ArgumentSet) (given : Given) (onlyOperands : Bool) :
    List String → Except Halt (Given × Option (String × List String))
  | [] => .ok (given, none)
  | arg :: rest =>
    if onlyOperands then do
      let given ← given.readOperand set true arg
      given.readAll set true rest
    else if !given.awaitsValue && set.commands.contains arg then .ok (given, some (arg, rest))
    else
      match arg.toList with
      | ['-', '-'] => given.readAll set true rest
      | '-' :: '-' :: name => do
        let given ← given.readLong set name
        given.readAll set false rest
      | '-' :: c :: letters => do
        let given ← given.readShort set (c :: letters)
        given.readAll set false rest
      | _ =>
        match given.pending with
        | some (slot, none) =>
          { given with pending := some (slot, some arg) }.readAll set false rest
        | _ => do
          let given ← given.readOperand set false arg
          given.readAll set false rest

def value? (given : Given) (slot : Slot) : Option String :=
  (given.values.find? (·.1 == slot)).map Prod.snd

def path? (given : Given) (o : Opt) : Option FilePath :=
  (given.value? (.option o)).map FilePath.mk

def isOn (given : Given) (o : Opt) : Bool :=
  given.has (.option o)

def assignments (given : Given) : List String :=
  (given.values.filter (·.1 == .option .field)).map Prod.snd

/-- What has to be given, or else the command line is wrong. -/
def require (value : Option String) : Except Halt String :=
  match value with
  | some value => .ok value
  | none => .error .missingArgument

end Given

namespace Task

def arguments : String → ArgumentSet
  | "render" => .command [.data, .field, .output, .fallback, .noDefaults] (some .text)
  | "inline" => .command [.data, .field, .output] (some .path)
  | "validate" => .command [.data, .field] (some .text)
  | "check" => .command [] (some .text)
  | _ => .command [] none

/-- The task of a command with what is given to it. -/
def ofGiven (name : String) (given : Given) : Except Halt Task :=
  let operand := Given.require (given.value? .operand)
  match name with
  | "render" => operand.map fun id =>
      render id (given.path? .data) given.assignments (given.path? .output) (given.isOn .fallback)
        (given.isOn .noDefaults)
  | "inline" => operand.map fun file =>
      inline ⟨file⟩ (given.path? .data) given.assignments (given.path? .output)
  | "validate" => do
      let id ← operand
      let data ← Given.require (given.value? (.option .data))
      return validate id ⟨data⟩ given.assignments
  | "check" => operand.map check
  | _ => .ok list

end Task

namespace CommandLine

/-- Help is there for the program and for each command. -/
def helpOn : List String → Halt
  | [] => .help
  | [name] => if ArgumentSet.program.commands.contains name then .help else .unknownCommand
  | _ => .unknownCommand

/-- An option that is given on both sides of the name of the command counts as it is given behind
it. -/
def mergedOptions (outer inner : Given) : GlobalOptions where
  verbose := outer.isOn .verbose || inner.isOn .verbose
  noColour := outer.isOn .noColour || inner.isOn .noColour
  settings := (inner.path? .settings).or (outer.path? .settings)
  templates := (inner.path? .templates).or (outer.path? .templates)

def read (args : List String) : Except Halt CommandLine := do
  let (outer, command) ← Given.nothing.readAll .program false args
  match command with
  | none =>
    let outer ← outer.settle .program
    throw (if outer.values.isEmpty then .nothingGiven else .missingCommand)
  | some (name, rest) =>
    if name == "help" then throw (helpOn rest)
    let set := Task.arguments name
    let (inner, _) ← Given.nothing.readAll set false rest
    let inner ← inner.settle set
    let task ← Task.ofGiven name inner
    let outer ← outer.settle .program
    return ⟨mergedOptions outer inner, task⟩

end CommandLine
end TripCards
