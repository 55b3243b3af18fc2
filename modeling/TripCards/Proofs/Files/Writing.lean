/-
What making folders and writing a file change on a disk.

A place holds a file or a folder or nothing: `Disk.occupant?`. What is made new changes one place,
`Disk.HasNew`, so files at other places are as they were, and a path that led somewhere leads there
still. A text is read back under the path that it was written under: `Disk.readText_of_writeText`.
-/
import TripCards.Proofs.Files.Spelling

namespace TripCards

/-- What a place holds. -/
inductive Occupant where
  | file (content : ByteArray)
  | folder

namespace DiskEntry

def occupant : DiskEntry → Occupant
  | file content => .file content
  | folder _ => .folder

/-- What is held at a list of names inside of an entry. -/
def occupant? (entry : DiskEntry) (place : List String) : Option Occupant :=
  (entry.find? place).map occupant

theorem occupant?_nil (entry : DiskEntry) : entry.occupant? [] = some entry.occupant := by
  cases entry <;> rfl

theorem occupant?_folder_cons (entries : List (String × DiskEntry)) (name : String)
    (names : List String) :
    (folder entries).occupant? (name :: names) =
      (Entries.get? entries name).bind (·.occupant? names) := by
  rw [occupant?, find?]
  cases Entries.get? entries name <;> rfl

/-- Nothing is inside of a file. -/
theorem occupant?_cons_of_not_folder {entry : DiskEntry} (h : entry.occupant ≠ .folder)
    (name : String) (names : List String) : entry.occupant? (name :: names) = none := by
  cases entry with
  | file content => rfl
  | folder entries => exact absurd rfl h

theorem find?_append (entry : DiskEntry) (outer inner : List String) :
    entry.find? (outer ++ inner) = (entry.find? outer).bind (·.find? inner) := by
  induction outer generalizing entry with
  | nil => cases entry <;> rfl
  | cons name outer ih =>
    cases entry with
    | file content => rfl
    | folder entries =>
      rw [List.cons_append, find?, find?]
      cases Entries.get? entries name with
      | none => rfl
      | some entry => exact ih entry

/-- Something with nothing in it, in a folder and not in the place of a folder, is what its place
holds from then on. All other places hold what they held. -/
theorem occupant?_write {new : DiskEntry}
    (bare : ∀ name names, new.occupant? (name :: names) = none) {entry : DiskEntry}
    {outer : List String} {name : String} (inFolder : entry.occupant? outer = some .folder)
    (free : entry.occupant? (outer ++ [name]) ≠ some .folder) (place : List String) :
    (write new (outer ++ [name]) entry).occupant? place =
      if place = outer ++ [name] then some new.occupant else entry.occupant? place := by
  -- Along the folders above the place: each is put back with what was written into it.
  induction outer generalizing entry place with
  | nil =>
    cases entry with
    | file content => cases inFolder
    | folder entries =>
      show (folder (Entries.put entries name new)).occupant? place = _
      cases place with
      | nil => rfl
      | cons first rest =>
        rw [occupant?_folder_cons, occupant?_folder_cons, Entries.get?_put]
        by_cases same : name = first
        · subst same
          rw [if_pos rfl, Option.bind_some]
          cases rest with
          | nil => rw [occupant?_nil]; exact (if_pos rfl).symm
          | cons second rest =>
            rw [bare, if_neg (by simp)]
            rw [List.nil_append, occupant?_folder_cons] at free
            cases found : Entries.get? entries name with
            | none => rfl
            | some old =>
              rw [found, Option.bind_some, occupant?_nil, Ne, Option.some.injEq] at free
              exact (occupant?_cons_of_not_folder free second rest).symm
        · rw [if_neg same, if_neg (by simp [Ne.symm same])]
  | cons head outer ih =>
    cases entry with
    | file content => cases inFolder
    | folder entries =>
      rw [occupant?_folder_cons, Option.bind_eq_some_iff] at inFolder
      obtain ⟨inner, found, inFolder⟩ := inFolder
      have written : write new (head :: outer ++ [name]) (folder entries) =
          folder (Entries.put entries head (write new (outer ++ [name]) inner)) := by
        cases outer <;> simp [write, found]
      rw [List.cons_append, occupant?_folder_cons, found, Option.bind_some] at free
      rw [written]
      cases place with
      | nil => rfl
      | cons first rest =>
        rw [occupant?_folder_cons, occupant?_folder_cons, Entries.get?_put]
        by_cases same : head = first
        · subst same
          rw [if_pos rfl, Option.bind_some, ih inFolder free, found, Option.bind_some]
          simp
        · rw [if_neg same, if_neg (by simp [Ne.symm same])]

end DiskEntry

namespace Disk

def occupant? (disk : Disk) (place : List String) : Option Occupant :=
  disk.root.occupant? place

theorem occupant?_eq_folder_iff {disk : Disk} {place : List String} :
    disk.occupant? place = some .folder ↔
      ∃ entries, disk.root.find? place = some (.folder entries) := by
  rw [occupant?, DiskEntry.occupant?]
  cases disk.root.find? place with
  | none => simp
  | some entry => cases entry <;> simp [DiskEntry.occupant]

theorem occupant?_eq_file_iff {disk : Disk} {place : List String} {content : ByteArray} :
    disk.occupant? place = some (.file content) ↔
      disk.root.find? place = some (.file content) := by
  rw [occupant?, DiskEntry.occupant?]
  cases disk.root.find? place with
  | none => simp
  | some entry => cases entry <;> simp [DiskEntry.occupant]

/-! ### Following paths -/

/-- Only from a folder does a segment lead on, and only to what is there. -/
theorem step_eq_ok_iff {disk : Disk} {here there : List String} {segment : String} :
    disk.step here segment = .ok there ↔
      disk.occupant? here = some .folder ∧
        (FilePath.isIdle segment = true ∧ there = here ∨
          segment = ".." ∧ there = here.dropLast ∨
          FilePath.isIdle segment = false ∧ segment ≠ ".." ∧
            FilePath.nameIsTooLong segment = false ∧
            (disk.occupant? (here ++ [segment])).isSome ∧ there = here ++ [segment]) := by
  rw [occupant?_eq_folder_iff, step]
  cases found : disk.root.find? here with
  | none => simp
  | some entry =>
    cases entry with
    | file content => simp
    | folder entries =>
      have inside : (disk.occupant? (here ++ [segment])).isSome = Entries.has entries segment := by
        rw [occupant?, DiskEntry.occupant?, DiskEntry.find?_append, found, Option.isSome_map,
          Entries.has, Option.bind_some, DiskEntry.find?]
        cases Entries.get? entries segment with
        | none => rfl
        | some entry => cases entry <;> rfl
      have folders : ∃ inside, Option.some (DiskEntry.folder entries) = some (.folder inside) :=
        ⟨entries, rfl⟩
      rw [and_iff_right folders, inside]
      show (if FilePath.isIdle segment = true then _ else _) = _ ↔ _
      by_cases idle : FilePath.isIdle segment = true
      · have notUp : segment ≠ ".." := by
          rintro rfl
          exact absurd idle (by decide)
        rw [if_pos idle, Except.ok.injEq]
        simp [idle, notUp, eq_comm (a := here)]
      · rw [if_neg idle]
        by_cases up : segment = ".."
        · subst up
          rw [if_pos (beq_self_eq_true _), Except.ok.injEq]
          simp [idle, eq_comm (a := here.dropLast)]
        · rw [if_neg (by simpa using up)]
          cases FilePath.nameIsTooLong segment <;> cases Entries.has entries segment <;>
            simp [idle, up, eq_comm (a := here ++ [segment])]

/-- A later state of a disk on which folders are folders still, and what was there is there. -/
structure GrowsTo (disk later : Disk) : Prop where
  current_eq : later.current = disk.current
  folder : ∀ place, disk.occupant? place = some .folder → later.occupant? place = some .folder
  isSome : ∀ place, (disk.occupant? place).isSome → (later.occupant? place).isSome

namespace GrowsTo

variable {disk later last : Disk}

theorem refl (disk : Disk) : disk.GrowsTo disk :=
  ⟨rfl, fun _ h => h, fun _ h => h⟩

theorem trans (first : disk.GrowsTo later) (second : later.GrowsTo last) : disk.GrowsTo last where
  current_eq := second.current_eq.trans first.current_eq
  folder place h := second.folder place (first.folder place h)
  isSome place h := second.isSome place (first.isSome place h)

theorem step (grows : disk.GrowsTo later) {here there : List String} {segment : String}
    (h : disk.step here segment = .ok there) : later.step here segment = .ok there := by
  rw [step_eq_ok_iff] at h ⊢
  obtain ⟨isFolder, leads⟩ := h
  refine ⟨grows.folder here isFolder, ?_⟩
  rcases leads with idle | up | ⟨notIdle, notUp, notTooLong, isThere, rfl⟩
  · exact .inl idle
  · exact .inr (.inl up)
  · exact .inr (.inr ⟨notIdle, notUp, notTooLong, grows.isSome _ isThere, rfl⟩)

/-- A path that led somewhere leads there still. -/
theorem follow (grows : disk.GrowsTo later) {absolute : Bool} {segments there : List String}
    (h : disk.follow absolute segments = .ok there) :
    later.follow absolute segments = .ok there := by
  have steps : ∀ (segments here : List String), segments.foldlM disk.step here = .ok there →
      segments.foldlM later.step here = .ok there := by
    intro segments
    induction segments with
    | nil => exact fun _ h => h
    | cons segment segments ih =>
      intro here h
      rw [List.foldlM_cons] at h ⊢
      cases first : disk.step here segment with
      | error e =>
        rw [first] at h
        cases h
      | ok next =>
        rw [first] at h
        rw [grows.step first]
        exact ih next h
  rw [Disk.follow] at h ⊢
  rw [grows.current_eq]
  exact steps segments _ h

end GrowsTo

/-! ### What is made new -/

/-- The later state of a disk with something new at one place, where no folder was. -/
structure HasNew (disk : Disk) (place : List String) (new : Occupant) (later : Disk) : Prop where
  current_eq : later.current = disk.current
  free : disk.occupant? place ≠ some .folder
  occupant?_eq : ∀ other,
    later.occupant? other = if other = place then some new else disk.occupant? other

theorem HasNew.growsTo {disk later : Disk} {place : List String} {new : Occupant}
    (h : disk.HasNew place new later) : disk.GrowsTo later where
  current_eq := h.current_eq
  folder other isFolder := by
    rw [h.occupant?_eq, if_neg, isFolder]
    rintro rfl
    exact h.free isFolder
  isSome other isThere := by
    rw [h.occupant?_eq]
    split
    · rfl
    · exact isThere

theorem hasNew_write {disk : Disk} {outer : List String} {name : String} (new : DiskEntry)
    (bare : ∀ name names, new.occupant? (name :: names) = none)
    (inFolder : disk.occupant? outer = some .folder)
    (free : disk.occupant? (outer ++ [name]) ≠ some .folder) :
    disk.HasNew (outer ++ [name]) new.occupant
      { disk with root := new.write (outer ++ [name]) disk.root } :=
  ⟨rfl, free, DiskEntry.occupant?_write bare inFolder free⟩

/-- Something new goes into a folder, under the last segment of its path. -/
theorem destination_eq_ok {disk : Disk} {p : FilePath} {outer : List String} {name : String}
    {asFolder : Bool} (h : disk.destination p = .ok ⟨outer, some name, asFolder⟩) :
    spellingFault? p = none ∧ disk.occupant? outer = some .folder ∧
      FilePath.isIdle name = false ∧ name ≠ ".." ∧
      ∃ before, disk.follow p.isAbsolute before = .ok outer ∧
        (asFolder = false → p.segments = before ++ [name]) := by
  rw [destination] at h
  split at h
  · cases h
  rename_i sound
  refine ⟨sound, ?_⟩
  simp only at h
  split at h
  · cases h
  rename_i last before trimmed
  split at h
  · split at h <;> cases h
  rename_i notDots
  rw [Bool.or_eq_true, beq_iff_eq, beq_iff_eq, not_or] at notDots
  split at h
  · cases h
  rename_i names followed
  split at h
  · rename_i entries found
    cases h
    -- Segments without a text are dropped at the end, so the last that is left has one.
    have notBlank : name.isEmpty = false := by
      have head := List.head?_dropWhile_not String.isEmpty p.segments.reverse
      rw [trimmed, List.head?_cons] at head
      exact head
    refine ⟨occupant?_eq_folder_iff.mpr ⟨entries, found⟩, ?_, notDots.2, before.reverse, followed,
      ?_⟩
    · rw [FilePath.isIdle, notBlank, Bool.false_or, beq_eq_false_iff_ne]
      exact notDots.1
    · intro notFolder
      have whole : p.segments.reverse = name :: before := by
        cases backwards : p.segments.reverse with
        | nil =>
          rw [backwards] at trimmed
          cases trimmed
        | cons last others =>
          rw [backwards, List.head?_cons, beq_eq_false_iff_ne, Ne, Option.some.injEq,
            ← String.isEmpty_iff] at notFolder
          rw [backwards, List.dropWhile_cons_of_neg notFolder] at trimmed
          exact trimmed
      rw [← List.reverse_reverse p.segments, whole, List.reverse_cons]
  · cases h

/-- A new folder is in a place where nothing was. -/
theorem hasNew_createFolder {disk later : Disk} {p : FilePath}
    (h : disk.createFolder p = .ok later) :
    ∃ place, disk.occupant? place = none ∧ disk.HasNew place .folder later := by
  rw [createFolder] at h
  split at h
  · cases h
  rename_i outer name? asFolder isDestination
  cases name? with
  | none => cases h
  | some name =>
    obtain ⟨-, inFolder, -⟩ := destination_eq_ok isDestination
    simp only at h
    split at h
    · cases h
    split at h
    · cases h
    rename_i nothing
    cases h
    have free : disk.occupant? (outer ++ [name]) = none := congrArg _ nothing
    have noFolder : disk.occupant? (outer ++ [name]) ≠ some .folder := by
      rw [free]
      exact Option.some_ne_none _ |>.symm
    exact ⟨_, free, hasNew_write (.folder []) (fun _ _ => rfl) inFolder noFolder⟩

/-- A file that was written is what its path leads to. -/
theorem hasNew_writeBytes {disk later : Disk} {p : FilePath} {content : ByteArray}
    (h : disk.writeBytes p content = .ok later) :
    ∃ place, disk.HasNew place (.file content) later ∧ later.locate p = .ok place := by
  rw [writeBytes] at h
  split at h
  · cases h
  rename_i outer name? asFolder isDestination
  cases name? with
  | none => cases h
  | some name =>
    obtain ⟨sound, inFolder, notIdle, notUp, before, followed, segments⟩ :=
      destination_eq_ok isDestination
    simp only at h
    split at h
    · cases h
    rename_i notFolder
    split at h
    · cases h
    rename_i notTooLong
    split at h
    · cases h
    rename_i free
    cases h
    have noFolder : disk.occupant? (outer ++ [name]) ≠ some .folder := by
      intro isFolder
      obtain ⟨entries, found⟩ := occupant?_eq_folder_iff.mp isFolder
      exact free entries found
    have isNew := hasNew_write (.file content) (fun _ _ => rfl) inFolder noFolder
    refine ⟨_, isNew, ?_⟩
    -- The later disk leads to the folder as before, and from there to the file.
    have grows := isNew.growsTo
    have isThere := isNew.occupant?_eq (outer ++ [name])
    rw [if_pos rfl] at isThere
    have last := step_eq_ok_iff.mpr ⟨grows.folder outer inFolder,
      .inr (.inr ⟨notIdle, notUp, Bool.eq_false_iff.mpr notTooLong, by rw [isThere]; rfl, rfl⟩)⟩
    have toOuter := grows.follow followed
    rw [locate, sound, segments (Bool.eq_false_iff.mpr notFolder)]
    rw [follow] at toOuter ⊢
    rw [List.foldlM_append, toOuter]
    exact congrArg (· >>= pure) last

theorem textOfBytes_toUTF8 (text : String) : textOfBytes text.toUTF8 = .ok text := by
  have valid : String.fromUTF8? text.toUTF8 = some text := dif_pos text.isValidUTF8
  rw [textOfBytes, valid]

/-- A text is read back under the path that it was written under. -/
theorem readText_of_writeText {disk later : Disk} {p : FilePath} {text : String}
    (h : disk.writeText p text = .ok later) : later.readText p = .ok text := by
  obtain ⟨place, isNew, located⟩ := hasNew_writeBytes h
  have isFile := isNew.occupant?_eq place
  rw [if_pos rfl, occupant?_eq_file_iff] at isFile
  exact readText_eq_ok_iff.mpr ⟨place, _, located, isFile, textOfBytes_toUTF8 text⟩

/-! ### Folders on the way -/

/-- A later state of a disk on which there are more folders at most. -/
structure HasMoreFolders (disk later : Disk) : Prop where
  growsTo : disk.GrowsTo later
  file_iff : ∀ place content,
    later.occupant? place = some (.file content) ↔ disk.occupant? place = some (.file content)

namespace HasMoreFolders

variable {disk later last : Disk}

theorem refl (disk : Disk) : disk.HasMoreFolders disk :=
  ⟨GrowsTo.refl disk, fun _ _ => Iff.rfl⟩

theorem trans (first : disk.HasMoreFolders later) (second : later.HasMoreFolders last) :
    disk.HasMoreFolders last :=
  ⟨first.growsTo.trans second.growsTo, fun place content =>
    (second.file_iff place content).trans (first.file_iff place content)⟩

theorem of_createFolder {p : FilePath} (h : disk.createFolder p = .ok later) :
    disk.HasMoreFolders later := by
  obtain ⟨place, free, isNew⟩ := hasNew_createFolder h
  refine ⟨isNew.growsTo, fun other content => ?_⟩
  rw [isNew.occupant?_eq]
  split
  · rename_i same
    rw [same, free]
    exact ⟨nofun, nofun⟩
  · exact Iff.rfl

end HasMoreFolders

theorem hasMoreFolders_createFoldersOf (disk : Disk) (folders : List FilePath) :
    disk.HasMoreFolders (disk.createFoldersOf folders).2 := by
  fun_induction createFoldersOf disk folders with
  | case1 => exact .refl _
  | case2 =>
    rename_i made
    exact .of_createFolder made
  | case3 =>
    rename_i failed ih
    rw [failed] at ih
    exact ih
  | case4 =>
    rename_i around later made ih
    rw [around] at ih
    exact ih.trans (.of_createFolder made)
  | case5 =>
    rename_i around e failed ih
    rw [around] at ih
    exact ih
  | case6 => exact .refl _

/-- Folders that were made stay, and nothing else changes, whether all of them could be made or
not. -/
theorem hasMoreFolders_createFolders (disk : Disk) (p : FilePath) :
    disk.HasMoreFolders (disk.createFolders p).2 :=
  hasMoreFolders_createFoldersOf disk p.ancestors

/-! ### One file -/

/-- The later state of a disk on which a path leads to a file with a text. All other files are as
they were, and folders are folders still. -/
structure OnlyWrites (disk : Disk) (p : FilePath) (text : String) (later : Disk) : Prop where
  read : later.readText p = .ok text
  others : ∃ place, later.locate p = .ok place ∧ ∀ other content, other ≠ place →
    (later.occupant? other = some (.file content) ↔ disk.occupant? other = some (.file content))
  folders : ∀ place, disk.occupant? place = some .folder → later.occupant? place = some .folder

theorem HasMoreFolders.onlyWrites {disk prepared later : Disk} {p : FilePath} {text : String}
    (more : disk.HasMoreFolders prepared) (h : prepared.writeText p text = .ok later) :
    disk.OnlyWrites p text later := by
  obtain ⟨place, isNew, located⟩ := hasNew_writeBytes h
  refine ⟨readText_of_writeText h, ⟨place, located, fun other content apart => ?_⟩, ?_⟩
  · rw [isNew.occupant?_eq, if_neg apart]
    exact more.file_iff other content
  · intro folder isFolder
    exact isNew.growsTo.folder folder (more.growsTo.folder folder isFolder)

end Disk
end TripCards
