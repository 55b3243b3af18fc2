/-
What a command leaves behind that makes a card or fills a template.

The text is made before anything is printed or written. So a command that fails for want of a text
leaves the disk as it was, and no command that fails has printed anything:
`Command.leavesOnlyOutput_commands`.
-/
import TripCards.Proofs.Commands.Making
import TripCards.Proofs.Files.Writing

namespace TripCards
namespace Command

/-! ## Why there is no text -/

theorem isOfOutput_of_dataOn {disk : Disk} {data : Option FilePath} {fault : CommandError}
    (h : dataOn disk data = .error fault) : fault.isOfOutput = false := by
  cases data with
  | none => cases h
  | some path =>
    rcases bind_eq_error_iff.mp h with unread | ⟨text, -, invalid⟩
    · obtain ⟨e, -, rfl⟩ := mapError_eq_error_iff.mp unread
      rfl
    · obtain ⟨e, -, rfl⟩ := mapError_eq_error_iff.mp invalid
      rfl

theorem isOfOutput_of_fieldsOn {disk : Disk} {data : Option FilePath} {assignments : List String}
    {fault : CommandError} (h : fieldsOn disk data assignments = .error fault) :
    fault.isOfOutput = false := by
  rcases bind_eq_error_iff.mp h with unloaded | ⟨fields, -, unassigned⟩
  · exact isOfOutput_of_dataOn unloaded
  · rw [map_eq_error_iff, readAssignments_eq] at unassigned
    split at unassigned
    · cases unassigned
      rfl
    · cases unassigned

section

variable {templates file : FilePath} {id : String} {data : Option FilePath}
  {assignments : List String} {options : RenderOptions} {disk : Disk} {fault : CommandError}

theorem isOfOutput_of_cardText
    (h : cardText templates id data assignments options disk = .error fault) :
    fault.isOfOutput = false := by
  rcases bind_eq_error_iff.mp h with unloaded | ⟨fields, -, unfilled⟩
  · exact isOfOutput_of_fieldsOn (map_eq_error_iff.mp unloaded)
  · rw [filledText] at unfilled
    split at unfilled
    · cases unfilled
    · obtain ⟨e, -, rfl⟩ := mapError_eq_error_iff.mp unfilled
      rfl

theorem isOfOutput_of_sourceText (h : sourceText file data assignments disk = .error fault) :
    fault.isOfOutput = false := by
  rcases bind_eq_error_iff.mp h with unread | ⟨source, -, unmade⟩
  · obtain ⟨e, -, rfl⟩ := mapError_eq_error_iff.mp unread
    rfl
  rcases bind_eq_error_iff.mp unmade with unloaded | ⟨fields, -, unfilled⟩
  · exact isOfOutput_of_fieldsOn unloaded
  · obtain ⟨e, -, rfl⟩ := mapError_eq_error_iff.mp unfilled
    rfl

end

/-! ## Where the text goes -/

theorem hasMoreFolders_preparedFor (path : FilePath) (disk : Disk) :
    disk.HasMoreFolders (preparedFor path disk).2 := by
  rw [preparedFor]
  split
  · exact .refl disk
  · exact Disk.hasMoreFolders_createFolders disk _

theorem isOfOutput_of_preparedFor {path : FilePath} {disk : Disk} {fault : CommandError}
    (h : (preparedFor path disk).1 = .error fault) : fault.isOfOutput = true := by
  rw [preparedFor] at h
  split at h
  · cases h
  · obtain ⟨e, -, rfl⟩ := mapError_eq_error_iff.mp h
    rfl

/-- A text that is put into a file is printed nowhere, and is in that file unless that failed. Then
there are more folders at most. -/
theorem deliver_file (text : String) (path : FilePath) (disk : Disk) :
    let delivery := deliver text (some path) disk
    delivery.printed = "" ∧
      (delivery.outcome = .ok () ∧ disk.OnlyWrites path text delivery.disk ∨
        ∃ fault, delivery.outcome = .error fault ∧ fault.isOfOutput = true ∧
          disk.HasMoreFolders delivery.disk) := by
  obtain ⟨made, prepared, prepares⟩ : ∃ made prepared, preparedFor path disk = (made, prepared) :=
    ⟨_, _, rfl⟩
  have more := hasMoreFolders_preparedFor path disk
  rw [prepares] at more
  cases made with
  | error fault =>
    have delivers : deliver text (some path) disk = ⟨.error fault, prepared, "", []⟩ := by
      rw [deliver, prepares]
    rw [delivers]
    exact ⟨rfl, .inr ⟨fault, rfl, isOfOutput_of_preparedFor (congrArg Prod.fst prepares), more⟩⟩
  | ok made =>
    have delivers : deliver text (some path) disk = deliverTo path text prepared := by
      rw [deliver, prepares]
    rw [delivers, deliverTo]
    cases written : prepared.writeText path text with
    | error fault => exact ⟨rfl, .inr ⟨_, rfl, rfl, more⟩⟩
    | ok later => exact ⟨rfl, .inl ⟨rfl, more.onlyWrites written⟩⟩

theorem isOfOutput_of_deliver {text : String} {output : Option FilePath} {disk : Disk}
    {fault : CommandError} (h : (deliver text output disk).outcome = .error fault) :
    fault.isOfOutput = true := by
  cases output with
  | none => cases h
  | some path =>
    obtain ⟨-, ⟨succeeds, -⟩ | ⟨other, fails, ofOutput, -⟩⟩ := deliver_file text path disk
    · cases succeeds.symm.trans h
    · cases fails.symm.trans h
      exact ofOutput

/-- What a command leaves behind that puts out a text, or has a fault for which there is none. -/
structure LeavesOnlyOutput (made : Except CommandError String) (output : Option FilePath)
    (world : World) (outcome : Except CommandError Unit) (after : World) : Prop where
  /-- A command that fails has printed nothing. -/
  unprinted : ∀ fault, outcome = .error fault → after.printed = world.printed
  /-- It fails if there is no text, and then the disk is as it was. -/
  fails_iff : ∀ fault, fault.isOfOutput = false → (outcome = .error fault ↔ made = .error fault)
  unchanged : ∀ fault, fault.isOfOutput = false → outcome = .error fault →
    after.disk = world.disk
  /-- Otherwise it fails only if there is a file that the text does not get into, and then there are
  more folders at most. -/
  ofOutput : ∀ fault, fault.isOfOutput = true → outcome = .error fault →
    output.isSome ∧ (∃ text, made = .ok text) ∧ world.disk.HasMoreFolders after.disk
  printed : outcome = .ok () → output = none →
    ∃ text, made = .ok text ∧ after.disk = world.disk ∧
      after.printed = world.printed ++ (text ++ "\n")
  written : ∀ path, outcome = .ok () → output = some path →
    ∃ text, made = .ok text ∧ world.disk.OnlyWrites path text after.disk ∧
      after.printed = world.printed

section

variable (output : Option FilePath) (lines : List LogLine) (world : World)

/-- Without a text only the log changes. -/
theorem leavesOnlyOutput_of_error {fault : CommandError} (notOfOutput : fault.isOfOutput = false) :
    LeavesOnlyOutput (.error fault) output world (.error fault) (world.noting lines) where
  unprinted _ _ := rfl
  fails_iff other _ := by rw [Except.error.injEq, Except.error.injEq]
  unchanged _ _ _ := rfl
  ofOutput other ofOutput h := by
    rw [← Except.error.inj h, notOfOutput] at ofOutput
    cases ofOutput
  printed succeeds := by cases succeeds
  written _ succeeds := by cases succeeds

theorem leavesOnlyOutput_of_ok (text : String) :
    LeavesOnlyOutput (.ok text) output world (deliver text output world.disk).outcome
      ((world.noting lines).delivering (deliver text output world.disk)) := by
  have isMade : ∀ fault, (Except.ok text : Except CommandError String) ≠ .error fault := by
    intro fault h
    cases h
  cases output with
  | none =>
    have succeeds : (deliver text none world.disk).outcome = .ok () := rfl
    have fails : ∀ fault, (deliver text none world.disk).outcome ≠ .error fault := by
      intro fault h
      cases succeeds.symm.trans h
    exact {
      unprinted := fun fault h => absurd h (fails fault)
      fails_iff := fun fault _ => iff_of_false (fails fault) (isMade fault)
      unchanged := fun fault _ h => absurd h (fails fault)
      ofOutput := fun fault _ h => absurd h (fails fault)
      printed := fun _ _ => ⟨text, rfl, rfl, rfl⟩
      written := by
        intro path _ isOutput
        cases isOutput }
  | some path =>
    obtain ⟨unprinted, outcome⟩ := deliver_file text path world.disk
    have silent : ((world.noting lines).delivering (deliver text (some path) world.disk)).printed =
        world.printed := by
      rw [World.delivering, unprinted, String.append_empty]
      rfl
    have ofOutput : ∀ fault, (deliver text (some path) world.disk).outcome = .error fault →
        fault.isOfOutput = true ∧
          world.disk.HasMoreFolders (deliver text (some path) world.disk).disk := by
      intro fault h
      rcases outcome with ⟨succeeds, -⟩ | ⟨other, fails, ofOutput⟩
      · cases succeeds.symm.trans h
      · cases fails.symm.trans h
        exact ofOutput
    have notFailing : ∀ fault, fault.isOfOutput = false →
        (deliver text (some path) world.disk).outcome ≠ .error fault := by
      intro fault notOfOutput h
      rw [(ofOutput fault h).1] at notOfOutput
      cases notOfOutput
    exact {
      unprinted := fun _ _ => silent
      fails_iff := fun fault h => iff_of_false (notFailing fault h) (isMade fault)
      unchanged := fun fault notOfOutput h => absurd h (notFailing fault notOfOutput)
      ofOutput := fun fault _ h => ⟨rfl, ⟨text, rfl⟩, (ofOutput fault h).2⟩
      printed := by
        intro _ isOutput
        cases isOutput
      written := by
        intro other succeeds isOutput
        obtain rfl := Option.some.inj isOutput
        rcases outcome with ⟨-, only⟩ | ⟨fault, fails, -⟩
        · exact ⟨text, rfl, only, silent⟩
        · cases succeeds.symm.trans fails }

end

theorem leavesOnlyOutput_putOut {made : Except CommandError String}
    (notOfOutput : ∀ fault, made = .error fault → fault.isOfOutput = false)
    (output : Option FilePath) (lines : List LogLine) (world : World) :
    LeavesOnlyOutput made output world (putOut made output lines world).1
      (putOut made output lines world).2 := by
  cases made with
  | error fault => exact leavesOnlyOutput_of_error output lines world (notOfOutput fault rfl)
  | ok text => exact leavesOnlyOutput_of_ok output lines world text

/-- A command that makes a card or fills a template puts out its text and leaves nothing else
behind. The text is that of the disk before. -/
theorem leavesOnlyOutput_commands (templates file : FilePath) (id : String)
    (data : Option FilePath) (assignments : List String) (output : Option FilePath)
    (options : RenderOptions) (world : World) :
    let card := (render templates id data assignments output options).run.run world
    let filled := (inline file data assignments output).run.run world
    LeavesOnlyOutput (cardText templates id data assignments options world.disk) output world
        card.1 card.2 ∧
      LeavesOnlyOutput (sourceText file data assignments world.disk) output world
        filled.1 filled.2 := by
  intro card filled
  have isCard := run_render templates id data assignments output options world
  have isFilled := run_inline data assignments output world file
  constructor
  · rw [show card = _ from isCard]
    exact leavesOnlyOutput_putOut (fun fault => isOfOutput_of_cardText) output _ world
  · rw [show filled = _ from isFilled]
    exact leavesOnlyOutput_putOut (fun fault => isOfOutput_of_sourceText) output _ world

/-- A folder with a template and with data that has a mapping where the template wants a text. -/
def templateFolder : Disk :=
  ⟨.folder [("t", .file "Hi \x7b\x7bx\x7d\x7d".toUTF8),
    ("d", .file "\x7b\"x\":\x7b\x7d\x7d".toUTF8)], []⟩

/-- The output takes the place of the template itself, and that stays if there is no output. -/
theorem leavesOnlyOutput_commands_ontoItself :
    let world := World.fresh templateFolder
    let template : FilePath := ⟨"t"⟩
    let filled := (inline template none ["x=1"] (some template)).run.run world
    let failed := (inline template (some ⟨"d"⟩) [] (some template)).run.run world
    filled.1 = .ok () ∧ filled.2.disk.readText template = .ok "Hi 1" ∧ filled.2.printed = "" ∧
      failed.1 = .error (.sourceFailed template (.unprintable ⟨⟨"x", []⟩, .mapping⟩)) ∧
      failed.2.disk = templateFolder ∧ failed.2.printed = "" := by
  have fills : sourceText ⟨"t"⟩ none ["x=1"] templateFolder = .ok "Hi 1" := by cbv
  have succeeds : ((inline ⟨"t"⟩ none ["x=1"] (some ⟨"t"⟩)).run.run
      (World.fresh templateFolder)).1 = .ok () := by cbv
  have fails : ((inline ⟨"t"⟩ (some ⟨"d"⟩) [] (some ⟨"t"⟩)).run.run
      (World.fresh templateFolder)).1 =
        .error (.sourceFailed ⟨"t"⟩ (.unprintable ⟨⟨"x", []⟩, .mapping⟩)) := by cbv
  intro world template filled failed
  obtain ⟨-, leaves⟩ := leavesOnlyOutput_commands ⟨""⟩ template "" none ["x=1"] (some template)
    ⟨false, false⟩ world
  obtain ⟨-, leavesAll⟩ := leavesOnlyOutput_commands ⟨""⟩ template "" (some ⟨"d"⟩) []
    (some template) ⟨false, false⟩ world
  obtain ⟨text, made, only, silent⟩ := leaves.written template succeeds rfl
  obtain rfl := Except.ok.inj (made.symm.trans fills)
  exact ⟨succeeds, only.read, silent, fails, leavesAll.unchanged _ rfl fails,
    leavesAll.unprinted _ fails⟩

end Command
end TripCards
