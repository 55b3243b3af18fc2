/-
A template of one's own and the template of a card.

The command that fills a template reads the template first and then the data. The one that makes a
card does it the other way round, and goes by a shelf. If the template of the card can be read, the
two come to one end: `Command.inline_like_render`. It is enough that their texts or their faults are
alike, since what becomes of a text is the same for both.
-/
import TripCards.Proofs.Commands.Checking

namespace TripCards
namespace Command

/-- Two faults with one cause. A template is to blame by the name of its file in the one case and by
the name of a card in the other; anything else is blamed alike. -/
inductive SameCause (file : FilePath) (id : String) : CommandError → CommandError → Prop where
  | template (e : CardError) : SameCause file id (.sourceFailed file e) (.cardFailed id e)
  | dataUnreadable (path : FilePath) (fault : FileError) :
      SameCause file id (.dataUnreadable path fault) (.dataUnreadable path fault)
  | dataInvalid (path : FilePath) (e : CardError) :
      SameCause file id (.dataInvalid path e) (.dataInvalid path e)
  | badAssignment (text : String) : SameCause file id (.badAssignment text) (.badAssignment text)
  | folderFailed (path : FilePath) (fault : FileError) :
      SameCause file id (.folderFailed path fault) (.folderFailed path fault)
  | outputFailed (path : FilePath) (fault : FileError) :
      SameCause file id (.outputFailed path fault) (.outputFailed path fault)

/-- Both give the same, or both fail and with one cause. -/
inductive SameOutcome (file : FilePath) (id : String) {α : Type} :
    Except CommandError α → Except CommandError α → Prop where
  | ok (a : α) : SameOutcome file id (.ok a) (.ok a)
  | error {fault other : CommandError} :
      SameCause file id fault other → SameOutcome file id (.error fault) (.error other)

section

variable {file : FilePath} {id : String} {α β ε : Type}

theorem SameOutcome.bind {a b : Except CommandError α} {f g : α → Except CommandError β}
    (h : SameOutcome file id a b) (same : ∀ x, SameOutcome file id (f x) (g x)) :
    SameOutcome file id (a.bind f) (b.bind g) := by
  cases h with
  | ok x => exact same x
  | error cause => exact .error cause

theorem SameOutcome.map {a b : Except CommandError α} (h : SameOutcome file id a b) (f : α → β) :
    SameOutcome file id (a.map f) (b.map f) := by
  cases h with
  | ok x => exact .ok (f x)
  | error cause => exact .error cause

theorem SameOutcome.eq_ok {x : α} {b : Except CommandError α}
    (h : SameOutcome file id (.ok x) b) : b = .ok x := by
  cases h
  rfl

theorem SameOutcome.eq_cardFailed {e : CardError} {b : Except CommandError α}
    (h : SameOutcome file id (.error (.sourceFailed file e)) b) :
    b = .error (.cardFailed id e) := by
  cases h with
  | error cause =>
    cases cause
    rfl

theorem sameOutcome_mapError {f g : ε → CommandError} (same : ∀ e, SameCause file id (f e) (g e))
    (a : Except ε α) : SameOutcome file id (a.mapError f) (a.mapError g) := by
  cases a with
  | ok x => exact .ok x
  | error e => exact .error (same e)

/-! ## The same data -/

theorem sameOutcome_dataOn (disk : Disk) (data : Option FilePath) :
    SameOutcome file id (dataOn disk data) (dataOn disk data) := by
  cases data with
  | none => exact .ok []
  | some path =>
    exact (sameOutcome_mapError (.dataUnreadable path) _).bind fun text =>
      sameOutcome_mapError (.dataInvalid path) _

theorem sameOutcome_readAssignments (assignments : List String) :
    SameOutcome file id (readAssignments assignments) (readAssignments assignments) := by
  rw [readAssignments_eq]
  cases unassigned? assignments with
  | none => exact .ok _
  | some spelled => exact .error (.badAssignment spelled)

theorem sameOutcome_fieldsOn (disk : Disk) (data : Option FilePath) (assignments : List String) :
    SameOutcome file id (fieldsOn disk data assignments) (fieldsOn disk data assignments) :=
  (sameOutcome_dataOn disk data).bind fun _ =>
    (sameOutcome_readAssignments assignments).map _

end

/-! ## The same text -/

section

variable {templates : FilePath} {id source : String} {disk : Disk}

theorem sourceText_of_readText {file : FilePath} (read : disk.readText file = .ok source)
    (data : Option FilePath) (assignments : List String) :
    sourceText file data assignments disk =
      (fieldsOn disk data assignments).bind fun fields =>
        (fillSource source fields).mapError (.sourceFailed file) := by
  rw [sourceText, read]
  rfl

/-- The text of a card is what its template is filled to, if that can be read and no fragment is to
take its place. -/
theorem cardText_of_readText
    (read : disk.readText (templates.join (Catalog.fileOf id)) = .ok source)
    (data : Option FilePath) (assignments : List String) :
    cardText templates id data assignments ⟨false, false⟩ disk =
      (fieldsOn disk data assignments).bind fun fields =>
        (fillSource source fields).mapError (.cardFailed id) := by
  cases loads : fieldsOn disk data assignments with
  | error fault =>
    rw [cardText, cardFieldsOn, loads]
    rfl
  | ok fields =>
    rw [cardText_of_fields loads, filledText, if_neg Bool.false_ne_true, if_neg Bool.false_ne_true,
      Shelf.card_eq, Shelf.got_empty_of_readText read]
    rfl

theorem sameOutcome_text {file : FilePath} (named : disk.readText file = .ok source)
    (read : disk.readText (templates.join (Catalog.fileOf id)) = .ok source)
    (data : Option FilePath) (assignments : List String) :
    SameOutcome file id (sourceText file data assignments disk)
      (cardText templates id data assignments ⟨false, false⟩ disk) := by
  rw [sourceText_of_readText named, cardText_of_readText read]
  exact (sameOutcome_fieldsOn disk data assignments).bind fun fields =>
    sameOutcome_mapError .template _

end

/-! ## The same output -/

section

variable {file : FilePath} {id : String} {made other : Except CommandError String}

theorem sameOutcome_deliver (text : String) (output : Option FilePath) (disk : Disk) :
    SameOutcome file id (deliver text output disk).outcome (deliver text output disk).outcome := by
  cases delivers : (deliver text output disk).outcome with
  | ok done => exact .ok done
  | error fault =>
    have ofOutput := isOfOutput_of_deliver delivers
    cases fault with
    | folderFailed path e => exact .error (.folderFailed path e)
    | outputFailed path e => exact .error (.outputFailed path e)
    | _ => cases ofOutput

/-- What is put out of texts that are alike differs in the log alone. -/
theorem putOut_of_sameOutcome (h : SameOutcome file id made other) (output : Option FilePath)
    (lines more : List LogLine) (world : World) :
    SameOutcome file id (putOut made output lines world).1 (putOut other output more world).1 ∧
      (putOut made output lines world).2.disk = (putOut other output more world).2.disk ∧
      (putOut made output lines world).2.printed = (putOut other output more world).2.printed := by
  cases h with
  | ok text => exact ⟨sameOutcome_deliver text output world.disk, rfl, rfl⟩
  | error cause => exact ⟨.error cause, rfl, rfl⟩

end

/-- Where the text of a template ends up. -/
def IsOutput (text : String) (output : Option FilePath) (world after : World) : Prop :=
  match output with
  | none => after.disk = world.disk ∧ after.printed = world.printed ++ (text ++ "\n")
  | some path => after.disk.readText path = .ok text ∧ after.printed = world.printed

theorem IsOutput.congr {text : String} {output : Option FilePath} {world after other : World}
    (h : IsOutput text output world after) (disk : after.disk = other.disk)
    (printed : after.printed = other.printed) : IsOutput text output world other := by
  cases output with
  | none => exact ⟨disk ▸ h.1, printed ▸ h.2⟩
  | some path => exact ⟨disk ▸ h.1, printed ▸ h.2⟩

theorem isOutput_putOut {made : Except CommandError String}
    (notOfOutput : ∀ fault, made = .error fault → fault.isOfOutput = false)
    {output : Option FilePath} {lines : List LogLine} {world : World}
    (succeeds : (putOut made output lines world).1 = .ok ()) :
    ∃ text, made = .ok text ∧ IsOutput text output world (putOut made output lines world).2 := by
  have leaves := leavesOnlyOutput_putOut notOfOutput output lines world
  cases output with
  | none => exact leaves.printed succeeds rfl
  | some path =>
    obtain ⟨text, made, only, silent⟩ := leaves.written path succeeds rfl
    exact ⟨text, made, only.read, silent⟩

theorem exists_of_sourceText {file : FilePath} {source text : String} {data : Option FilePath}
    {assignments : List String} {world : World} (read : world.disk.readText file = .ok source)
    (made : sourceText file data assignments world.disk = .ok text) :
    ∃ fields, outcome (loadFields data assignments) world = .ok fields ∧
      fillSource source fields = .ok text := by
  rw [sourceText_of_readText read] at made
  cases loads : fieldsOn world.disk data assignments with
  | error fault =>
    rw [loads] at made
    cases made
  | ok fields =>
    rw [loads] at made
    exact ⟨fields, (outcome_loadFields data assignments world).trans loads,
      mapError_eq_ok_iff.mp made⟩

/-- If the template of a card can be read, filling it as a template of one's own, by whatever path
it is named, and making the card without defaults come to the same end. They leave the same disk and
have printed the same, and both succeed with one text in the same place, or both fail with one
cause. -/
theorem inline_like_render {templates file : FilePath} {id source : String} {world : World}
    (read : world.disk.readText (templates.join (Catalog.fileOf id)) = .ok source)
    (named : world.disk.readText file = .ok source)
    (data : Option FilePath) (assignments : List String) (output : Option FilePath) :
    let filled := (inline file data assignments output).run.run world
    let card := (render templates id data assignments output ⟨false, false⟩).run.run world
    SameOutcome file id filled.1 card.1 ∧ filled.2.disk = card.2.disk ∧
      filled.2.printed = card.2.printed ∧
      (filled.1 = .ok () → ∃ fields text,
        outcome (loadFields data assignments) world = .ok fields ∧
        fillSource source fields = .ok text ∧ IsOutput text output world filled.2 ∧
        IsOutput text output world card.2) := by
  intro filled card
  have isFilled : filled = _ := run_inline data assignments output world file
  have isCard : card = _ := run_render templates id data assignments output ⟨false, false⟩ world
  obtain ⟨outcome, disk, printed⟩ :=
    putOut_of_sameOutcome (sameOutcome_text named read data assignments) output []
      (cardLines templates id data assignments ⟨false, false⟩ world.disk) world
  rw [isFilled, isCard]
  refine ⟨outcome, disk, printed, fun succeeds => ?_⟩
  obtain ⟨text, made, isOutput⟩ := isOutput_putOut (fun fault => isOfOutput_of_sourceText) succeeds
  obtain ⟨fields, loads, fills⟩ := exists_of_sourceText named made
  exact ⟨fields, text, loads, fills, isOutput, isOutput.congr disk printed⟩

/-- The card of a gas station is made as it is filled from its file: into an output file, and with
data that has no text for it. -/
theorem inline_like_render_cardFolder :
    let world := World.fresh (cardFolder "\x7b\x7bx\x7d\x7d")
    let file : FilePath := FilePath.join ⟨"."⟩ (Catalog.fileOf "gas-station")
    let plain : RenderOptions := ⟨false, false⟩
    let written := (render ⟨"."⟩ "gas-station" none ["x=1"] (some ⟨"o"⟩) plain).run.run world
    let refused := (render ⟨"."⟩ "gas-station" (some ⟨"d"⟩) [] none plain).run.run world
    world.disk.readText file = .ok "\x7b\x7bx\x7d\x7d" ∧
      written.1 = .ok () ∧ written.2.disk.readText ⟨"o"⟩ = .ok "1" ∧
      refused.1 = .error (.cardFailed "gas-station" (.unprintable ⟨⟨"x", []⟩, .mapping⟩)) := by
  intro world file plain written refused
  have read : world.disk.readText file = .ok "\x7b\x7bx\x7d\x7d" := readText_cardFolder _ rfl
  have assigns : fieldsOn world.disk none ["x=1"] = .ok [("x", .text "1")] := by cbv
  have loads : fieldsOn world.disk (some ⟨"d"⟩) [] = .ok [("x", .mapping [])] := by cbv
  have fills : fillSource "\x7b\x7bx\x7d\x7d" [("x", .text "1")] = .ok "1" := by cbv
  have fillsNot : fillSource "\x7b\x7bx\x7d\x7d" [("x", .mapping [])] =
      .error (.unprintable ⟨⟨"x", []⟩, .mapping⟩) := by cbv
  have delivers : (deliver "1" (some ⟨"o"⟩) world.disk).outcome = .ok () := by
    cbv
  have filled : ((inline file none ["x=1"] (some ⟨"o"⟩)).run.run world).1 = .ok () := by
    rw [run_inline, sourceText_of_readText read, assigns]
    show (putOut ((fillSource _ _).mapError _) _ _ _).1 = _
    rw [fills]
    exact delivers
  have failed : ((inline file (some ⟨"d"⟩) [] none).run.run world).1 =
      .error (.sourceFailed file (.unprintable ⟨⟨"x", []⟩, .mapping⟩)) := by
    rw [run_inline, sourceText_of_readText read, loads]
    show (putOut ((fillSource _ _).mapError _) _ _ _).1 = _
    rw [fillsNot]
    rfl
  obtain ⟨succeeds, -, -, isOutput⟩ := inline_like_render read read none ["x=1"] (some ⟨"o"⟩)
  obtain ⟨fails, -⟩ := inline_like_render read read (some ⟨"d"⟩) [] none
  obtain ⟨fields, text, loaded, fillsTo, -, isWritten, -⟩ := isOutput filled
  obtain rfl := Except.ok.inj (((outcome_loadFields _ _ _).trans assigns).symm.trans loaded)
  obtain rfl := Except.ok.inj (fills.symm.trans fillsTo)
  rw [filled] at succeeds
  rw [failed] at fails
  exact ⟨read, succeeds.eq_ok, isWritten, fails.eq_cardFailed⟩

end Command
end TripCards
