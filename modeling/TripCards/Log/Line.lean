/-
Lines of the log.
-/

namespace TripCards

/-- From the gravest to the most detailed. -/
inductive LogLevel where
  | error
  | warn
  | info
  | debug
  | trace
deriving DecidableEq, Repr

namespace LogLevel

def detail : LogLevel → Nat
  | error => 1
  | warn => 2
  | info => 3
  | debug => 4
  | trace => 5

/-- The name, five columns wide. -/
def label : LogLevel → String
  | error => "ERROR"
  | warn => " WARN"
  | info => " INFO"
  | debug => "DEBUG"
  | trace => "TRACE"

/-- The number of the colour in which a terminal shows the level. -/
def colour : LogLevel → String
  | error => "31"
  | warn => "33"
  | info => "32"
  | debug => "34"
  | trace => "35"

end LogLevel

/-- The part of the program that writes a line. -/
inductive LogTopic where
  | app
  | commands
  | registry
  | cache
  | renderer
deriving DecidableEq, Repr

/-- The name by which a filter refers to a part. -/
def LogTopic.name : LogTopic → String
  | app => "cardrender::cli::app"
  | commands => "cardrender::cli::commands"
  | registry => "cardrender::template::registry"
  | cache => "cardrender::template::cache"
  | renderer => "cardrender::template::renderer"

structure LogLine where
  level : LogLevel
  topic : LogTopic
  message : String
deriving DecidableEq, Repr

namespace LogLine

def hexDigits (n : Nat) : List Char :=
  Nat.toDigits 16 n

/-- A character of a message, spelled out if a terminal would act on it. -/
def visible (c : Char) : List Char :=
  if c == '\x1b' || c == '\x07' || c == '\x08' || c == '\x0c' || c == '\x7f' then
    '\\' :: 'x' :: (if c.toNat < 0x10 then '0' :: hexDigits c.toNat else hexDigits c.toNat)
  else if 0x80 ≤ c.toNat && c.toNat ≤ 0x9f then
    ['\\', 'u', '\x7b'] ++ hexDigits c.toNat ++ ['\x7d']
  else [c]

/-- A text between the codes that set a style and reset it. -/
def styled (style text : String) : String :=
  "\x1b[" ++ style ++ "m" ++ text ++ "\x1b[0m"

/-- The line as it is shown: the time, dimmed if in colour, the level, and the message. -/
def shown (line : LogLine) (time : String) (inColour : Bool) : String :=
  let time := if inColour then styled "2" time else time
  let label := if inColour then styled line.level.colour line.level.label else line.level.label
  time ++ " " ++ label ++ " " ++ String.ofList (line.message.toList.flatMap visible)

end LogLine
end TripCards
