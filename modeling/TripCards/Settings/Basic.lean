/-
How the program is set up, and the reading of that from a YAML document.

A field that the document does not have keeps its usual value, and a field that is not known is
passed over, whatever it holds.
-/
import TripCards.Files.FilePath
import TripCards.Yaml.Node

namespace TripCards

structure LogSettings where
  level : String
  format : String
deriving DecidableEq, Repr

structure Settings where
  /-- The folder of the template files. -/
  templates : FilePath
  /-- Whether fields that are missing are filled in before a card is made. -/
  fillsDefaults : Bool
  log : LogSettings
deriving DecidableEq, Repr

def LogSettings.usual : LogSettings := ⟨"info", "pretty"⟩

def Settings.usual : Settings := ⟨⟨"templates"⟩, true, .usual⟩

inductive SettingsFault where
  | badYaml (fault : Yaml.Fault)
  | notMapping
  | badKey
  | repeatedField (name : String)
  | notText
  | notTruth
deriving DecidableEq, Repr

def SettingsFault.message : SettingsFault → String
  | badYaml fault => fault.message
  | notMapping => "fields were expected"
  | badKey => "the name of a field has to be a text"
  | repeatedField name => "the field '" ++ name ++ "' is repeated"
  | notText => "a text was expected"
  | notTruth => "true or false was expected"

namespace Settings

/-- The values of the fields with these names. -/
def known (document : Yaml.Node) (names : List String) :
    List (Yaml.Node × Yaml.Node) → Except SettingsFault (Entries Yaml.Node)
  | [] => .ok []
  | (key, value) :: rest =>
    match document.resolve key with
    | .scalar _ _ _ name =>
      match known document names rest with
      | .error e => .error e
      | .ok fields =>
        if !names.contains name then .ok fields
        else if Entries.has fields name then .error (.repeatedField name)
        else .ok ((name, value) :: fields)
    | _ => .error .badKey

/-- The fields of a node. A node that is left out has none. -/
def fieldsOf (document : Yaml.Node) (names : List String) (node : Yaml.Node) :
    Except SettingsFault (Entries Yaml.Node) :=
  match document.resolve node with
  | .mapping _ entries => known document names entries
  | .scalar _ _ .plain "" => .ok []
  | _ => .error .notMapping

/-- Every scalar is a text, as it is written. -/
def textOf (document node : Yaml.Node) : Except SettingsFault String :=
  match document.resolve node with
  | .scalar _ _ _ text => .ok text
  | _ => .error .notText

def truth? : String → Option Bool
  | "true" | "True" | "TRUE" => some true
  | "false" | "False" | "FALSE" => some false
  | _ => none

def truthTag : String := "tag:yaml.org,2002:bool"

/-- A truth value is plain, or a literal block with the tag for it. -/
def truthOf (document node : Yaml.Node) : Except SettingsFault Bool :=
  match document.resolve node with
  | .scalar _ tag style text =>
    if style == .plain || (style == .literal && tag == some truthTag) then
      match truth? text with
      | some b => .ok b
      | none => .error .notTruth
    else .error .notTruth
  | _ => .error .notTruth

/-- The value of a field, or the usual one. -/
def fieldOr {α : Type} (fields : Entries Yaml.Node) (name : String) (usual : α)
    (read : Yaml.Node → Except SettingsFault α) : Except SettingsFault α :=
  match Entries.get? fields name with
  | some node => read node
  | none => .ok usual

def logOf (document node : Yaml.Node) : Except SettingsFault LogSettings := do
  let fields ← fieldsOf document ["level", "format"] node
  let level ← fieldOr fields "level" LogSettings.usual.level (textOf document)
  let format ← fieldOr fields "format" LogSettings.usual.format (textOf document)
  return ⟨level, format⟩

def ofDocument (document : Yaml.Node) : Except SettingsFault Settings := do
  let fields ← fieldsOf document ["template_dir", "apply_defaults", "logging"] document
  let templates ← fieldOr fields "template_dir" usual.templates fun node =>
    (textOf document node).map FilePath.mk
  let fillsDefaults ← fieldOr fields "apply_defaults" usual.fillsDefaults (truthOf document)
  let log ← fieldOr fields "logging" usual.log (logOf document)
  return ⟨templates, fillsDefaults, log⟩

/-- The settings that a text gives. A text without a document gives the usual ones. -/
def ofString (text : String) : Except SettingsFault Settings :=
  match Yaml.Node.ofString text with
  | .error fault => .error (.badYaml fault)
  | .ok none => .ok usual
  | .ok (some document) => ofDocument document

end Settings
end TripCards
