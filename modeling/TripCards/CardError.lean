/-
Why a card cannot be made.
-/
import TripCards.Files.Disk
import TripCards.Json.Misread
import TripCards.Template.Reader
import TripCards.Value

namespace TripCards

inductive CardError where
  | notFound (path : FilePath)
  | badTemplate (misfit : Misfit Position)
  | unprintable (fault : Unprintable)
  | notAnObject (found : String)
  | unreadable (fault : FileError)
  | badJson (misread : Json.Misread)
deriving DecidableEq, Repr

namespace CardError

def message : CardError → String
  | notFound path => "Template not found: " ++ path.text
  | badTemplate misfit =>
      "Template parse error at " ++ misfit.place.text ++ ": " ++ misfit.fault.message
  | unprintable fault => fault.message
  | notAnObject found =>
      "Invalid render context: expected a JSON object at the root, found " ++ found
  | unreadable fault => "IO error: " ++ fault.message
  | badJson misread => "JSON error: " ++ misread.message

/-- The message, then those of the faults that lie under it. -/
def chain (e : CardError) : List String :=
  e.message ::
    match e with
    | unreadable fault => [fault.message]
    | badJson misread => [misread.message]
    | _ => []

end CardError
end TripCards
