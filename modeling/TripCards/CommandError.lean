/-
Why a command fails.
-/
import TripCards.CardError
import TripCards.Settings.Basic

namespace TripCards

inductive CommandError where
  | dataUnreadable (path : FilePath) (fault : FileError)
  | dataInvalid (path : FilePath) (fault : CardError)
  | badAssignment (text : String)
  | cardFailed (id : String) (fault : CardError)
  | sourceUnreadable (path : FilePath) (fault : FileError)
  | sourceFailed (path : FilePath) (fault : CardError)
  | loadFailed (id : String) (fault : CardError)
  | checkFailed (id : String) (fault : CardError)
  | dataRejected (id : String) (count : Nat)
  | folderFailed (path : FilePath) (fault : FileError)
  | outputFailed (path : FilePath) (fault : FileError)
  | settingsUnreadable (path : FilePath) (fault : FileError)
  | settingsInvalid (path : FilePath) (fault : SettingsFault)
deriving DecidableEq, Repr

namespace CommandError

def message : CommandError → String
  | dataUnreadable path _ => "Failed to read data file " ++ path.text
  | dataInvalid path _ => "Invalid data file " ++ path.text
  | badAssignment text => "Invalid variable format '" ++ text ++ "'. Expected 'key=value'"
  | cardFailed id _ => "Failed to render template '" ++ id ++ "'"
  | sourceUnreadable path _ => "Failed to read template " ++ path.text
  | sourceFailed path _ => "Failed to render template " ++ path.text
  | loadFailed id _ => "Template '" ++ id ++ "' failed to load"
  | checkFailed id _ => "Template check failed for '" ++ id ++ "'"
  | dataRejected id count =>
      "Data for template '" ++ id ++ "' is invalid (" ++ toString count ++ " errors)"
  | folderFailed path _ => "Failed to create output directory " ++ path.text
  | outputFailed path _ => "Failed to write output file " ++ path.text
  | settingsUnreadable path _ => "Failed to read config file " ++ path.text
  | settingsInvalid path _ => "Invalid config file " ++ path.text

/-- The messages of the faults that lie under the failure, from the outside in. -/
def causes : CommandError → List String
  | dataUnreadable _ fault | sourceUnreadable _ fault | folderFailed _ fault
  | outputFailed _ fault | settingsUnreadable _ fault => [fault.message]
  | dataInvalid _ fault | cardFailed _ fault | sourceFailed _ fault | loadFailed _ fault
  | checkFailed _ fault => fault.chain
  | settingsInvalid _ fault => [fault.message]
  | badAssignment _ | dataRejected _ _ => []

end CommandError
end TripCards
