/-
What a command makes, and how it is put out.

A card, or a filled template of one's own, is made from the disk as it is: `Command.cardText` and
`Command.sourceText` say what its text is, or why there is none. Only then is something printed or
written, `Command.deliver`. Each command is one equation in these terms.
-/
import TripCards.Proofs.Commands.Loading

namespace TripCards

/-- Whether a command failed for want of a place for its text, and not for want of the text. -/
def CommandError.isOfOutput : CommandError → Bool
  | folderFailed _ _ | outputFailed _ _ => true
  | _ => false

namespace Command

variable {α : Type}

/-- What a command gives, or why it fails. -/
def outcome (command : Command α) (world : World) : Except CommandError α :=
  (command.run.run world).1

theorem run_lift (script : Script α) (world : World) :
    (liftM script : Command α).run.run world =
      (.ok (script.run world).1, (script.run world).2) :=
  Script.run_bind script _ world

theorem run_fst {β : Type} (script : Script (α × β)) (world : World) :
    (Prod.fst <$> script).run world = ((script.run world).1.1, (script.run world).2) :=
  Script.run_bind script _ world

/-! ## Fields -/

/-- The fields of the data file, as the disk is. -/
def dataOn (disk : Disk) : Option FilePath → Except CommandError Fields
  | none => .ok []
  | some path =>
    ((disk.readText path).mapError (.dataUnreadable path)).bind fun text =>
      (Fields.ofString text).mapError (.dataInvalid path)

/-- The fields of the data file with the assignments made. -/
def fieldsOn (disk : Disk) (data : Option FilePath) (assignments : List String) :
    Except CommandError Fields :=
  (dataOn disk data).bind fun fields =>
    (readAssignments assignments).map fun overrides =>
      Entries.putAll fields (overrides.map fun (name, text) => (name, .text text))

theorem run_readData (data : Option FilePath) (world : World) :
    (readData data).run.run world = (dataOn world.disk data, world) := by
  cases data with
  | none => rfl
  | some path =>
    rw [readData, run_andThen, run_readText, dataOn]
    cases world.disk.readText path with
    | error fault => rfl
    | ok text => exact run_ofScript _ _ world

theorem run_loadFields (data : Option FilePath) (assignments : List String) (world : World) :
    (loadFields data assignments).run.run world =
      (fieldsOn world.disk data assignments, world) := by
  rw [loadFields, run_andThen, run_readData, fieldsOn]
  cases dataOn world.disk data with
  | error fault => rfl
  | ok fields =>
    show (((readAssignments assignments : Command _) >>= _).run.run world) = _
    have read : (liftM (readAssignments assignments) : Command _).run.run world =
        (readAssignments assignments, world) := rfl
    rw [run_andThen, read]
    cases readAssignments assignments <;> rfl

/-- The fields that a card is made from. -/
def cardFieldsOn (disk : Disk) (id : String) (data : Option FilePath) (assignments : List String)
    (defaults : Bool) : Except CommandError Fields :=
  (fieldsOn disk data assignments).map fun fields =>
    if defaults then Catalog.fillDefaults id fields else fields

theorem run_cardFields (id : String) (data : Option FilePath) (assignments : List String)
    (defaults : Bool) (world : World) :
    (cardFields id data assignments defaults).run.run world =
      (cardFieldsOn world.disk id data assignments defaults, world) := by
  rw [cardFields, run_andThen, run_loadFields, cardFieldsOn]
  cases fieldsOn world.disk data assignments <;> rfl

/-! ## Putting out a text -/

/-- What happens to a text that is put out. -/
structure Delivery where
  outcome : Except CommandError Unit
  disk : Disk
  printed : String
  logged : List LogLine

/-- The folder of an output file, where one has to be made. -/
def outputFolder? (path : FilePath) : Option FilePath :=
  path.parent.filter fun folder => !folder.text.isEmpty

/-- The disk with the folder of an output file, as far as that can be made. -/
def preparedFor (path : FilePath) (disk : Disk) : Except CommandError Unit × Disk :=
  match outputFolder? path with
  | none => (.ok (), disk)
  | some folder => ((disk.createFolders folder).1.mapError (.folderFailed folder),
      (disk.createFolders folder).2)

/-- A text is written to a file. -/
def deliverTo (path : FilePath) (text : String) (disk : Disk) : Delivery :=
  match disk.writeText path text with
  | .error fault => ⟨.error (.outputFailed path fault), disk, "", []⟩
  | .ok written => ⟨.ok (), written, "", [⟨.info, .commands, "Output written to: " ++ path.text⟩]⟩

/-- A text is printed, or else written to a file, in a folder that is made before. -/
def deliver (text : String) (output : Option FilePath) (disk : Disk) : Delivery :=
  match output with
  | none => ⟨.ok (), disk, text ++ "\n", []⟩
  | some path =>
    match preparedFor path disk with
    | (.error fault, prepared) => ⟨.error fault, prepared, "", []⟩
    | (.ok _, prepared) => deliverTo path text prepared

end Command

/-- A machine after a text was put out. -/
def World.delivering (world : World) (delivery : Command.Delivery) : World :=
  { world with
    disk := delivery.disk
    printed := world.printed ++ delivery.printed
    logged := world.logged ++ delivery.logged }

namespace Command

theorem run_createFolders (folder : FilePath) (world : World) :
    (ofScript (.folderFailed folder) (.createFolders folder .done)).run.run world =
      ((world.disk.createFolders folder).1.mapError (.folderFailed folder),
        { world with disk := (world.disk.createFolders folder).2 }) :=
  run_ofScript _ _ world

theorem run_writeText (path : FilePath) (text : String) (world : World) :
    (do ofScript (.outputFailed path) (.writeText path text .done)
        Script.note .info .commands ("Output written to: " ++ path.text) :
      Command Unit).run.run world =
        ((deliverTo path text world.disk).outcome,
          world.delivering (deliverTo path text world.disk)) := by
  rw [run_andThen, run_ofScript, Script.run, deliverTo]
  cases world.disk.writeText path text with
  | error fault =>
    rw [World.delivering, String.append_empty, List.append_nil]
    rfl
  | ok written =>
    rw [World.delivering, String.append_empty]
    rfl

theorem run_writeOutput (text : String) (output : Option FilePath) (world : World) :
    (writeOutput text output).run.run world =
      ((deliver text output world.disk).outcome,
        world.delivering (deliver text output world.disk)) := by
  cases output with
  | none =>
    rw [writeOutput, run_lift, deliver, World.delivering, List.append_nil]
    rfl
  | some path =>
    rw [writeOutput, deliver, preparedFor, outputFolder?]
    cases path.parent with
    | none => exact run_writeText path text world
    | some folder =>
      -- A file that is named without a folder has a parent without a name, and nothing is made.
      cases unnamed : folder.text.isEmpty with
      | true =>
        simp only [unnamed, Option.filter_some, Bool.not_true, Bool.false_eq_true, if_false]
        exact run_writeText path text world
      | false =>
        simp only [unnamed, Option.filter_some, Bool.not_false, if_true]
        rw [run_andThen, run_createFolders]
        cases (world.disk.createFolders folder).1 with
        | error fault =>
          show _ = (_, World.delivering _ ⟨_, _, "", []⟩)
          rw [World.delivering, String.append_empty, List.append_nil]
          rfl
        | ok made => exact run_writeText path text _

/-- What becomes of a text that is put out if it could be made, on a machine that has logged some
lines on the way. -/
def putOut (made : Except CommandError String) (output : Option FilePath) (lines : List LogLine)
    (world : World) : Except CommandError Unit × World :=
  match made with
  | .error fault => (.error fault, world.noting lines)
  | .ok text =>
    ((deliver text output world.disk).outcome,
      (world.noting lines).delivering (deliver text output world.disk))

theorem run_andThen_writeOutput {command : Command String} {made : Except CommandError String}
    {lines : List LogLine} {world : World}
    (h : command.run.run world = (made, world.noting lines)) (output : Option FilePath) :
    (command >>= fun text => writeOutput text output).run.run world =
      putOut made output lines world := by
  rw [run_andThen, h]
  cases made with
  | error fault => rfl
  | ok text => exact run_writeOutput text output _

/-! ## Making a text -/

/-- The text of a card with these fields, or what is shown in its place where that is wanted. -/
def filledText (templates : FilePath) (id : String) (fields : Fields) (fallback : Bool)
    (disk : Disk) : Except CommandError String :=
  if fallback then .ok ((Shelf.empty templates).cardOrFragment disk id fields)
  else ((Shelf.empty templates).card disk id fields).mapError (.cardFailed id)

/-- The text of a card with the fields that are loaded for it. -/
def cardText (templates : FilePath) (id : String) (data : Option FilePath)
    (assignments : List String) (options : RenderOptions) (disk : Disk) :
    Except CommandError String :=
  (cardFieldsOn disk id data assignments options.defaults).bind fun fields =>
    filledText templates id fields options.fallback disk

theorem cardText_of_fields {templates : FilePath} {id : String} {data : Option FilePath}
    {assignments : List String} {options : RenderOptions} {disk : Disk} {fields : Fields}
    (loads : fieldsOn disk data assignments = .ok fields) :
    cardText templates id data assignments options disk =
      filledText templates id (if options.defaults then Catalog.fillDefaults id fields else fields)
        options.fallback disk := by
  rw [cardText, cardFieldsOn, loads]
  rfl

/-- The text that a template of one's own is filled to. -/
def sourceText (file : FilePath) (data : Option FilePath) (assignments : List String)
    (disk : Disk) : Except CommandError String :=
  ((disk.readText file).mapError (.sourceUnreadable file)).bind fun source =>
    (fieldsOn disk data assignments).bind fun fields =>
      (fillSource source fields).mapError (.sourceFailed file)

/-- What is logged when a card is asked for that is not known. -/
def available (id : String) : List LogLine :=
  if Catalog.isKnown id then []
  else [⟨.warn, .commands, "Available templates: " ++ ", ".intercalate Catalog.ids⟩]

/-- What is logged while a card is filled. -/
def fillingLines (templates : FilePath) (id : String) (fields : Fields) (fallback : Bool)
    (disk : Disk) : List LogLine :=
  ⟨.info, .commands, "Rendering '" ++ id ++ "' with " ++ toString fields.length ++ " fields"⟩ ::
    (Shelf.empty templates).lines disk
      (if fallback then .renderOrFragment id fields else .render id fields)

/-- What is logged while a card is filled with the fields that are loaded for it. Without fields it
is not filled. -/
def loadedLines (templates : FilePath) (id : String) (data : Option FilePath)
    (assignments : List String) (options : RenderOptions) (disk : Disk) : List LogLine :=
  match cardFieldsOn disk id data assignments options.defaults with
  | .error _ => []
  | .ok fields => fillingLines templates id fields options.fallback disk

/-- What is logged while a card is made. -/
def cardLines (templates : FilePath) (id : String) (data : Option FilePath)
    (assignments : List String) (options : RenderOptions) (disk : Disk) : List LogLine :=
  available id ++ loadedLines templates id data assignments options disk

section

variable (templates : FilePath) (id : String) (data : Option FilePath) (assignments : List String)
  (output : Option FilePath) (options : RenderOptions) (world : World)

/-- A card is asked for with its fields. -/
def fillCard (fields : Fields) (fallback : Bool) : Command String :=
  if fallback then (Prod.fst <$> (Shelf.empty templates).renderOrFragment id fields : Script String)
  else ofScript (.cardFailed id) (Prod.fst <$> (Shelf.empty templates).render id fields)

/-- The fields of a card are loaded, and it is filled with them. -/
def fillLoaded : Command String := do
  let fields ← cardFields id data assignments options.defaults
  Script.note .info .commands
    ("Rendering '" ++ id ++ "' with " ++ toString fields.length ++ " fields")
  fillCard templates id fields options.fallback

/-- The command that makes a card, without what becomes of its text. -/
def makeCard : Command String := do
  if !Catalog.isKnown id then
    Script.note .warn .commands ("Available templates: " ++ ", ".intercalate Catalog.ids)
  fillLoaded templates id data assignments options

theorem render_eq :
    render templates id data assignments output options =
      makeCard templates id data assignments options >>= fun text => writeOutput text output := by
  obtain ⟨fallback, defaults⟩ := options
  rw [render, makeCard, fillLoaded]
  cases Catalog.isKnown id <;> cases fallback <;> simp [bind_assoc, fillCard]

theorem run_fillCard (fields : Fields) (fallback : Bool) :
    (fillCard templates id fields fallback).run.run world =
      (filledText templates id fields fallback world.disk,
        world.noting ((Shelf.empty templates).lines world.disk
          (if fallback then .renderOrFragment id fields else .render id fields))) := by
  rw [fillCard, filledText]
  cases fallback with
  | true =>
    rw [if_pos rfl, if_pos rfl, if_pos rfl, run_lift, run_fst, Shelf.run_renderOrFragment]
    rfl
  | false =>
    rw [if_neg Bool.false_ne_true, if_neg Bool.false_ne_true, if_neg Bool.false_ne_true,
      run_ofScript, run_fst, Shelf.run_render]
    rfl

theorem run_fillLoaded :
    (fillLoaded templates id data assignments options).run.run world =
      (cardText templates id data assignments options world.disk,
        world.noting (loadedLines templates id data assignments options world.disk)) := by
  rw [fillLoaded, run_andThen, run_cardFields, cardText, loadedLines]
  cases cardFieldsOn world.disk id data assignments options.defaults with
  | error fault =>
    rw [World.noting_nil]
    rfl
  | ok fields =>
    show ((liftM (Script.note _ _ _) >>= _ : Command String).run.run world) = _
    rw [run_andThen, run_lift]
    show (fillCard templates id fields options.fallback).run.run (world.noting [_]) = _
    rw [run_fillCard, World.noting_noting]
    rfl

theorem run_makeCard :
    (makeCard templates id data assignments options).run.run world =
      (cardText templates id data assignments options world.disk,
        world.noting (cardLines templates id data assignments options world.disk)) := by
  rw [makeCard, cardLines, ← World.noting_noting, available]
  cases Catalog.isKnown id with
  | true =>
    rw [if_pos rfl, World.noting_nil]
    exact run_fillLoaded templates id data assignments options world
  | false =>
    rw [if_neg Bool.false_ne_true]
    show ((liftM (Script.note _ _ _) >>= _ : Command String).run.run world) = _
    rw [run_andThen, run_lift]
    exact run_fillLoaded templates id data assignments options (world.noting [_])

theorem run_render :
    (render templates id data assignments output options).run.run world =
      putOut (cardText templates id data assignments options world.disk) output
        (cardLines templates id data assignments options world.disk) world := by
  rw [render_eq]
  exact run_andThen_writeOutput (run_makeCard templates id data assignments options world) output

theorem run_inline (file : FilePath) :
    (inline file data assignments output).run.run world =
      putOut (sourceText file data assignments world.disk) output [] world := by
  have made : (do
      let source ← ofScript (.sourceUnreadable file) (.readText file .done)
      let fields ← loadFields data assignments
      ofScript (.sourceFailed file) (.done (fillSource source fields)) : Command String).run.run
        world = (sourceText file data assignments world.disk, world.noting []) := by
    rw [run_andThen, run_readText, sourceText, World.noting_nil]
    cases world.disk.readText file with
    | error fault => rfl
    | ok source =>
      show ((loadFields data assignments) >>= _).run.run world = _
      rw [run_andThen, run_loadFields]
      cases fieldsOn world.disk data assignments with
      | error fault => rfl
      | ok fields => exact run_ofScript _ _ world
  rw [← run_andThen_writeOutput made]
  simp only [inline, bind_assoc]

end

end Command
end TripCards
