/-
The commands: making a card, filling a template of one's own, checking data and templates, and
listing the cards.
-/
import TripCards.CommandError
import TripCards.Shelf
import TripCards.Text.Parts

namespace TripCards

abbrev Command (α : Type) : Type := ExceptT CommandError Script α

namespace Command

/-- What fails in the script fails the command. -/
def ofScript {ε α : Type} (wrap : ε → CommandError) (script : Script (Except ε α)) : Command α :=
  ExceptT.mk <| script.bind fun result => .done (result.mapError wrap)

/-- The name before the first equals sign of an assignment, and the text behind it. -/
def readAssignment (spelled : String) : Except CommandError (String × String) :=
  match Text.cutAt? '=' spelled.toList with
  | some (name, text) => .ok (String.ofList name, String.ofList text)
  | none => .error (.badAssignment spelled)

def readAssignments (assignments : List String) : Except CommandError (List (String × String)) :=
  assignments.mapM readAssignment

/-- The fields of a data file; no fields without one. -/
def readData (data : Option FilePath) : Command Fields :=
  match data with
  | none => return []
  | some path => do
    let text ← ofScript (.dataUnreadable path) (.readText path .done)
    ofScript (.dataInvalid path) (.done (Fields.ofString text))

/-- The fields of the data file, with the assignments made in their order. -/
def loadFields (data : Option FilePath) (assignments : List String) : Command Fields := do
  let fields ← readData data
  let overrides ← readAssignments assignments
  return Entries.putAll fields (overrides.map fun (name, text) => (name, .text text))

/-- The fields that a card is made from: those that are loaded and, if they are wanted, the defaults
that they lack. -/
def cardFields (id : String) (data : Option FilePath) (assignments : List String)
    (defaults : Bool) : Command Fields := do
  let fields ← loadFields data assignments
  return if defaults then Catalog.fillDefaults id fields else fields

/-- Prints a text, or writes it to a file in a folder that is made if need be. -/
def writeOutput (text : String) (output : Option FilePath) : Command Unit :=
  match output with
  | none => Script.printLine text
  | some path => do
    match path.parent with
    | some folder =>
      if !folder.text.isEmpty then
        ofScript (.folderFailed folder) (.createFolders folder .done)
    | none => pure ()
    ofScript (.outputFailed path) (.writeText path text .done)
    Script.note .info .commands ("Output written to: " ++ path.text)

structure RenderOptions where
  fallback : Bool
  defaults : Bool
deriving DecidableEq, Repr

/-- Makes a card. -/
def render (templates : FilePath) (id : String) (data : Option FilePath) (assignments : List String)
    (output : Option FilePath) (options : RenderOptions) : Command Unit := do
  if !Catalog.isKnown id then
    Script.note .warn .commands ("Available templates: " ++ ", ".intercalate Catalog.ids)
  let fields ← cardFields id data assignments options.defaults
  Script.note .info .commands
    ("Rendering '" ++ id ++ "' with " ++ toString fields.length ++ " fields")
  let shelf := Shelf.empty templates
  let text ←
    if options.fallback then
      (Prod.fst <$> shelf.renderOrFragment id fields : Script String)
    else
      ofScript (.cardFailed id) (Prod.fst <$> shelf.render id fields)
  writeOutput text output

/-- Fills the template in a file. -/
def inline (file : FilePath) (data : Option FilePath) (assignments : List String)
    (output : Option FilePath) : Command Unit := do
  let source ← ofScript (.sourceUnreadable file) (.readText file .done)
  let fields ← loadFields data assignments
  let text ← ofScript (.sourceFailed file) (.done (fillSource source fields))
  writeOutput text output

/-- Checks data against what a card needs, and that the template of the card can be read. -/
def validate (templates : FilePath) (id : String) (data : FilePath) (assignments : List String) :
    Command Unit := do
  Script.note .info .commands ("Validating data for template: " ++ id)
  let fields ← loadFields (some data) assignments
  let violations := Catalog.violations id fields
  let _ ← ofScript (.loadFailed id) (Prod.fst <$> (Shelf.empty templates).load id)
  if violations.isEmpty then
    Script.printLine ("✓ Data for template '" ++ id ++ "' is valid")
    Script.printLine ("  Fields: " ++ toString fields.length)
  else
    violations.forM fun v => (Script.printLine ("  ✗ " ++ v.message) : Command Unit)
    throw (.dataRejected id violations.length)

/-- Checks that the template of a card can be read. -/
def check (templates : FilePath) (id : String) : Command Unit := do
  let shelf := Shelf.empty templates
  let file ← Catalog.resolve id
  let template ← ofScript (.checkFailed id) (Prod.fst <$> shelf.load id)
  Script.printLine ("✓ Template '" ++ id ++ "' is valid")
  Script.printLine ("  Path: " ++ (shelf.pathOf file).text)
  Script.printLine ("  Blocks: " ++ if template.hasBlocks then "yes" else "no")

/-- How wide the names of cards are listed. -/
def listWidth : Nat := 16

def padded (text : String) : String :=
  text ++ String.ofList (List.replicate (listWidth - text.length) ' ')

/-- Lists the cards and their template files. -/
def list (templates : FilePath) : Command Unit :=
  Catalog.cards.forM fun card => do
    let path := templates.join card.file
    let present ← (Script.isPresent path .done : Script Bool)
    Script.printLine
      (padded card.id ++ " " ++ path.text ++ if present then "" else "  (missing)")

end Command
end TripCards
