/-
The program on a real machine.
-/
import Std.Time.Format
import TripCards.Program

namespace TripCards

/-- The fault with a number of the operating system, which some calls give negated. -/
def FileError.ofCode (code : UInt32) (report : String) : FileError :=
  let code := if code < 0x80000000 then code else 0 - code
  match code with
  | 2 => .notFound
  | 17 => .alreadyExists
  | 20 => .notDirectory
  | 21 => .isDirectory
  | 36 => .nameTooLong
  | _ => .other (report ++ " (os error " ++ toString code ++ ")")

def FileError.ofIO : IO.Error → FileError
  | .alreadyExists _ code report | .noFileOrDirectory _ code report
  | .invalidArgument _ code report | .permissionDenied _ code report
  | .resourceExhausted _ code report | .inappropriateType _ code report
  | .noSuchThing _ code report => ofCode code report
  | .otherError code report | .resourceBusy code report | .resourceVanished code report
  | .unsupportedOperation code report | .hardwareFault code report
  | .unsatisfiedConstraints code report | .illegalOperation code report
  | .protocolError code report | .timeExpired code report => ofCode code report
  | .interrupted _ code report => ofCode code report
  | .unexpectedEof => .other "unexpected end of file"
  | .userError report => .other report

namespace Script

/-- Does something with the file at a path. -/
def tryAt {α : Type} (path : FilePath) (act : String → IO α) : IO (Except FileError α) := do
  if Disk.hasNul path then return .error .nulInName
  try return .ok (← act path.text)
  catch e => return .error (FileError.ofIO e)

def readTextAt (path : FilePath) : IO (Except FileError String) := do
  let content ← tryAt path fun text => IO.FS.readBinFile text
  return content.bind Disk.textOfBytes

/-- What cannot be opened is there all the same, unless nothing is found. -/
def isPresentAt (path : FilePath) : IO Bool := do
  match ← tryAt path fun text => IO.FS.Handle.mk text .read with
  | .ok _ => return true
  | .error e =>
    return e != .notFound && e != .notDirectory && e != .nameTooLong && e != .nulInName

/-- The time as the log shows it, in Coordinated Universal Time. -/
def timeNow : IO String := do
  let now ← Std.Time.Timestamp.now
  let now := Std.Time.PlainDateTime.ofWallTime (now.toWallTime Std.Time.TimeZone.UTC.offset)
  return now.format "uuuu-MM-dd'T'HH:mm:ss.SSSSSS" ++ "Z"

/-- Runs a script on the machine. -/
def perform {α : Type} : Script α → IO α
  | done a => return a
  | readText path next => do (next (← readTextAt path)).perform
  | isPresent path next => do (next (← isPresentAt path)).perform
  | createFolders path next => do
    (next (← tryAt path fun text => IO.FS.createDirAll text)).perform
  | writeText path text next => do
    (next (← tryAt path fun file => IO.FS.writeFile file text)).perform
  | print text next => do
    IO.print text
    next.perform
  | printError text next => do
    IO.eprint text
    next.perform
  | time next => do (next (← timeNow)).perform
  | log line next => do
    IO.eprintln (line.shown (← timeNow) false)
    next.perform

end Script
end TripCards

def main (args : List String) : IO UInt32 := do
  let mut given : List (String × String) := []
  for name in TripCards.Environment.names do
    if let some value ← IO.getEnv name then
      given := (name, value) :: given
  let env := TripCards.Environment.ofVariables fun name => given.lookup name
  let status ← (TripCards.program args env).perform
  return status.code.toUInt32
