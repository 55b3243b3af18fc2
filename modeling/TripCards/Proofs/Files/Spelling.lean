/-
What the spelling of a path makes a difference to.

Two spellings of one path lead the same way. They differ in what may be there: a path that ends in
a separator or in a single dot is the path of a folder only. And one of them may be too long to be
looked for. So a file that is read under one spelling is read under every other one that does not end
so and is not too long, and under no other: `Disk.readText_of_same`.
-/
import TripCards.Files.Disk

namespace TripCards
namespace FilePath

/-- Whether a segment leads nowhere else. -/
def isIdle (segment : String) : Bool :=
  segment.isEmpty || segment == "."

/-- The segments that lead on. -/
def moves (p : FilePath) : List String :=
  p.segments.filter fun segment => !isIdle segment

/-- Whether the path ends in a separator or in a single dot. -/
def namesFolder (p : FilePath) : Bool :=
  p.segments.getLast?.any isIdle

theorem isIdle_iff {segment : String} : isIdle segment = true ↔ segment = "" ∨ segment = "." := by
  rw [isIdle, Bool.or_eq_true, String.isEmpty_iff, beq_iff_eq]

/-! ### Segments -/

/-- Every character but a separator is in one of the parts. -/
theorem mem_splitAtSlash {c : Char} (hc : c ≠ '/') (s : List Char) :
    c ∈ s ↔ ∃ part ∈ (splitAtSlash s).1 :: (splitAtSlash s).2, c ∈ part := by
  induction s with
  | nil => simp [splitAtSlash]
  | cons d s ih =>
    rw [List.mem_cons, ih, splitAtSlash]
    by_cases hd : d = '/'
    · simp [hd, hc]
    · simp only [hd, if_false, List.mem_cons, exists_eq_or_imp]
      exact or_assoc.symm

theorem splitAtSlash_fst_eq_nil_iff (s : List Char) :
    (splitAtSlash s).1 = [] ↔ s = [] ∨ s.head? = some '/' := by
  cases s with
  | nil => simp [splitAtSlash]
  | cons c s =>
    rw [splitAtSlash]
    by_cases hc : c = '/' <;> simp [hc]

theorem segments_eq (p : FilePath) :
    p.segments = String.ofList (splitAtSlash p.text.toList).1 ::
      (splitAtSlash p.text.toList).2.map String.ofList := rfl

theorem hasNul_iff (p : FilePath) :
    Disk.hasNul p = true ↔ ∃ segment ∈ p.moves, '\x00' ∈ segment.toList := by
  have idle {segment : String} (h : '\x00' ∈ segment.toList) : isIdle segment = false := by
    rw [Bool.eq_false_iff]
    intro idle
    rcases isIdle_iff.mp idle with rfl | rfl
    · cases h
    · exact absurd h (by decide)
  have all : '\x00' ∈ p.text.toList ↔ ∃ segment ∈ p.segments, '\x00' ∈ segment.toList := by
    rw [mem_splitAtSlash (by decide), segments_eq, ← List.map_cons]
    constructor
    · rintro ⟨part, mem, h⟩
      exact ⟨_, List.mem_map_of_mem mem, by rwa [String.toList_ofList]⟩
    · rintro ⟨segment, mem, h⟩
      obtain ⟨part, isPart, rfl⟩ := List.mem_map.mp mem
      exact ⟨part, isPart, by rwa [String.toList_ofList] at h⟩
  rw [Disk.hasNul, List.any_beq', List.contains_iff_mem, all]
  constructor
  · rintro ⟨segment, mem, h⟩
    refine ⟨segment, List.mem_filter.mpr ⟨mem, ?_⟩, h⟩
    rw [idle h]
    rfl
  · rintro ⟨segment, mem, h⟩
    exact ⟨segment, (List.mem_filter.mp mem).1, h⟩

/-! ### Components -/

namespace Component

/-- The segment that a component is read from. -/
def segment : Component → String
  | root => ""
  | here => "."
  | up => ".."
  | name s => s

theorem ofSegment?_of_idle {s : String} (h : isIdle s = true) : ofSegment? s = none :=
  if_pos h

theorem ofSegment?_of_not_idle {s : String} (h : isIdle s = false) :
    ∃ c, ofSegment? s = some c ∧ c.segment = s ∧ c ≠ root := by
  rw [ofSegment?]
  show ∃ c, (if isIdle s = true then none else _) = some c ∧ _
  rw [h, if_neg Bool.false_ne_true]
  split
  · rename_i isUp
    exact ⟨up, rfl, (eq_of_beq isUp).symm, nofun⟩
  · exact ⟨name s, rfl, rfl, nofun⟩

theorem ofSegment?_eq_none_iff {s : String} : ofSegment? s = none ↔ isIdle s = true := by
  refine ⟨fun h => ?_, ofSegment?_of_idle⟩
  cases idle : isIdle s with
  | true => rfl
  | false =>
    obtain ⟨c, isComponent, -⟩ := ofSegment?_of_not_idle idle
    rw [h] at isComponent
    cases isComponent

theorem map_segment_filterMap (segments : List String) :
    (segments.filterMap ofSegment?).map segment = segments.filter fun s => !isIdle s := by
  induction segments with
  | nil => rfl
  | cons s segments ih =>
    cases idle : isIdle s with
    | true => rw [List.filterMap_cons_none (ofSegment?_of_idle idle), ih,
        List.filter_cons_of_neg (by simp [idle])]
    | false =>
      obtain ⟨c, isComponent, isSegment, -⟩ := ofSegment?_of_not_idle idle
      rw [List.filterMap_cons_some isComponent, List.map_cons, ih, isSegment,
        List.filter_cons_of_pos (by simp [idle])]

theorem root_not_mem_filterMap (segments : List String) :
    root ∉ segments.filterMap ofSegment? := by
  intro mem
  obtain ⟨s, -, isRoot⟩ := List.mem_filterMap.mp mem
  cases idle : isIdle s with
  | true =>
    rw [ofSegment?_of_idle idle] at isRoot
    cases isRoot
  | false =>
    obtain ⟨c, isComponent, -, notRoot⟩ := ofSegment?_of_not_idle idle
    rw [isComponent] at isRoot
    exact notRoot (Option.some.inj isRoot)

end Component

/-- What stands in the components for an idle first segment. -/
def lead (p : FilePath) : List Component :=
  if p.isAbsolute then [.root]
  else if p.segments.head? == some "." then [.here]
  else []

theorem head?_segments_of_isAbsolute {p : FilePath} (h : p.isAbsolute = true) :
    p.segments.head? = some "" := by
  have first : (splitAtSlash p.text.toList).1 = [] :=
    (splitAtSlash_fst_eq_nil_iff _).mpr (Or.inr (eq_of_beq h))
  rw [segments_eq, first]
  rfl

theorem components_eq (p : FilePath) :
    p.components = p.lead ++ p.segments.filterMap Component.ofSegment? := by
  obtain ⟨first, others, segments⟩ : ∃ first others, p.segments = first :: others :=
    ⟨_, _, p.segments_eq⟩
  rw [components, lead, segments]
  by_cases absolute : p.isAbsolute = true
  · have empty := head?_segments_of_isAbsolute absolute
    rw [segments, List.head?_cons, Option.some.injEq] at empty
    simp only [if_pos absolute]
    rw [List.filterMap_cons_none (Component.ofSegment?_of_idle (by rw [empty]; rfl))]
    rfl
  · by_cases dot : first = "."
    · simp only [if_neg absolute, dot]
      rw [List.filterMap_cons_none (Component.ofSegment?_of_idle rfl)]
      rfl
    · simp [absolute, dot, List.filterMap_cons]
      cases Component.ofSegment? first <;> rfl

theorem lead_idle (p : FilePath) : ∀ c ∈ p.lead, isIdle c.segment = true := by
  rw [lead]
  split
  · simp [Component.segment, isIdle]
  · split <;> simp [Component.segment, isIdle]

theorem moves_eq (p : FilePath) :
    p.moves = (p.components.map Component.segment).filter fun s => !isIdle s := by
  have idle : (p.lead.map Component.segment).filter (fun s => !isIdle s) = [] := by
    rw [List.filter_eq_nil_iff]
    intro s mem
    obtain ⟨c, hc, rfl⟩ := List.mem_map.mp mem
    simp [p.lead_idle c hc]
  rw [components_eq, List.map_append, List.filter_append, idle, List.nil_append,
    Component.map_segment_filterMap, List.filter_filter]
  simp only [Bool.and_self]
  rfl

theorem isAbsolute_iff (p : FilePath) : p.isAbsolute = true ↔ .root ∈ p.components := by
  rw [components_eq, List.mem_append, or_iff_left (Component.root_not_mem_filterMap _), lead]
  by_cases absolute : p.isAbsolute = true
  · simp [absolute]
  · rw [if_neg absolute]
    split <;> simp [absolute]

theorem text_isEmpty_iff (p : FilePath) : p.text.isEmpty = true ↔ p.components = [] := by
  constructor
  · intro empty
    rw [String.isEmpty_iff] at empty
    rw [components, segments, isAbsolute, empty]
    rfl
  · intro none
    rw [components_eq, List.append_eq_nil_iff] at none
    obtain ⟨noLead, noComponent⟩ := none
    rw [segments_eq, List.filterMap_eq_nil_iff, List.forall_mem_cons,
      Component.ofSegment?_eq_none_iff, isIdle_iff] at noComponent
    rw [lead, segments_eq, List.head?_cons] at noLead
    have relative : ¬ p.isAbsolute = true := by
      intro absolute
      rw [if_pos absolute] at noLead
      cases noLead
    rw [if_neg relative] at noLead
    have first : (splitAtSlash p.text.toList).1 = [] := by
      rcases noComponent.1 with empty | dot
      · rw [← String.toList_inj, String.toList_ofList] at empty
        exact empty
      · rw [dot] at noLead
        cases noLead
    rcases (splitAtSlash_fst_eq_nil_iff _).mp first with empty | slash
    · rw [String.isEmpty_iff]
      exact String.toList_eq_nil_iff.mp empty
    · rw [isAbsolute, slash] at relative
      exact absurd rfl relative

end FilePath

namespace Disk

/-! ### What a path leads to -/

theorem step_idle (disk : Disk) (here : List String) {segment : String}
    (idle : FilePath.isIdle segment = true) : disk.step here segment = disk.step here "" := by
  rw [step, step]
  cases disk.root.find? here with
  | none => rfl
  | some entry =>
    cases entry with
    | file content => rfl
    | folder entries => exact if_pos idle

theorem step_here (disk : Disk) (here : List String) :
    disk.step here "" =
      if (disk.root.find? here).any DiskEntry.isFolder then .ok here else .error .notDirectory := by
  rw [step]
  cases disk.root.find? here with
  | none => rfl
  | some entry => cases entry <;> rfl

/-- Whatever is followed further has to be a folder anyway. -/
theorem step_here_bind (disk : Disk) (here : List String) (segment : String) :
    (disk.step here "" >>= fun there => disk.step there segment) = disk.step here segment := by
  rw [step_here]
  split
  · rfl
  · rename_i noFolder
    rw [step]
    split
    · rename_i entries found
      rw [found] at noFolder
      exact absurd rfl noFolder
    · rfl

/-- Idle segments make no difference but at the end, where they want a folder. -/
theorem foldlM_step_eq (disk : Disk) (segments : List String) (here : List String) :
    segments.foldlM disk.step here =
      ((segments.filter fun s => !FilePath.isIdle s).foldlM disk.step here >>= fun there =>
        if segments.getLast?.any FilePath.isIdle then disk.step there "" else .ok there) := by
  induction segments generalizing here with
  | nil => rfl
  | cons s segments ih =>
    cases idle : FilePath.isIdle s with
    | false =>
      have last : (s :: segments).getLast?.any FilePath.isIdle =
          segments.getLast?.any FilePath.isIdle := by
        cases segments with
        | nil => exact idle
        | cons => rfl
      rw [List.filter_cons_of_pos (by simp [idle]), List.foldlM_cons, List.foldlM_cons, bind_assoc,
        last]
      exact congrArg _ (funext ih)
    | true =>
      rw [List.filter_cons_of_neg (by simp [idle])]
      cases segments with
      | nil =>
        show (disk.step here s >>= pure) = Except.bind (.ok here) _
        rw [bind_pure, disk.step_idle here idle]
        simp [Except.bind, idle]
      | cons next rest =>
        rw [List.foldlM_cons, disk.step_idle here idle]
        have skipped : (disk.step here "" >>= fun there => (next :: rest).foldlM disk.step there) =
            (next :: rest).foldlM disk.step here := by
          simp only [List.foldlM_cons]
          rw [← bind_assoc, step_here_bind]
        rw [skipped, ih]
        rfl

/-- The names that the moves of a path lead to. -/
def reach (disk : Disk) (p : FilePath) : Except FileError (List String) :=
  p.moves.foldlM disk.step (if p.isAbsolute then [] else disk.current)

theorem locate_eq (disk : Disk) (p : FilePath) :
    disk.locate p =
      match spellingFault? p with
      | some e => .error e
      | none => disk.reach p >>= fun there =>
          if p.namesFolder then disk.step there "" else .ok there := by
  rw [locate, follow, foldlM_step_eq]
  rfl

theorem locate_of_fault {disk : Disk} {p : FilePath} {e : FileError}
    (fault : spellingFault? p = some e) : disk.locate p = .error e := by
  rw [locate, fault]

theorem readText_eq_ok_iff {disk : Disk} {p : FilePath} {text : String} :
    disk.readText p = .ok text ↔
      ∃ there content, disk.locate p = .ok there ∧
        disk.root.find? there = some (.file content) ∧ textOfBytes content = .ok text := by
  rw [readText, readBytes]
  cases disk.locate p with
  | error e => simp
  | ok there =>
    simp only [Except.ok.injEq, exists_and_left, exists_eq_left']
    cases disk.root.find? there with
    | none => simp
    | some entry => cases entry <;> simp

/-- No path that wants a folder leads to a file. -/
theorem locate_eq_ok_iff_of_file {disk : Disk} {p : FilePath} {there : List String}
    {content : ByteArray} (isFile : disk.root.find? there = some (.file content)) :
    disk.locate p = .ok there ↔
      spellingFault? p = none ∧ p.namesFolder = false ∧ disk.reach p = .ok there := by
  cases fault : spellingFault? p with
  | some e =>
    rw [locate_of_fault fault]
    exact iff_of_false nofun nofun
  | none =>
    rw [locate_eq, fault]
    cases p.namesFolder with
    | false => cases disk.reach p <;> simp [bind, Except.bind]
    | true =>
      refine iff_of_false (fun located => ?_) nofun
      cases reached : disk.reach p with
      | error e =>
        rw [reached] at located
        cases located
      | ok names =>
        rw [reached] at located
        change disk.step names "" = .ok there at located
        rw [step_here] at located
        split at located
        · rename_i isFolder
          cases located
          rw [isFile] at isFolder
          cases isFolder
        · cases located

section Same

variable {disk : Disk} {p q : FilePath}

theorem hasNul_congr (same : p.components = q.components) : hasNul p = hasNul q := by
  rw [Bool.eq_iff_iff, FilePath.hasNul_iff, FilePath.hasNul_iff, FilePath.moves_eq,
    FilePath.moves_eq, same]

theorem isEmpty_congr (same : p.components = q.components) : p.text.isEmpty = q.text.isEmpty := by
  rw [Bool.eq_iff_iff, FilePath.text_isEmpty_iff, FilePath.text_isEmpty_iff, same]

theorem reach_congr (disk : Disk) (same : p.components = q.components) :
    disk.reach p = disk.reach q := by
  have absolute : p.isAbsolute = q.isAbsolute := by
    rw [Bool.eq_iff_iff, FilePath.isAbsolute_iff, FilePath.isAbsolute_iff, same]
  rw [reach, reach, FilePath.moves_eq, FilePath.moves_eq, same, absolute]

/-- Of two spellings of one path one may be too long. Whatever else may be wrong with them is wrong
with both. -/
theorem spellingFault?_of_same (same : p.components = q.components)
    (sound : spellingFault? q = none) :
    spellingFault? p = if p.isTooLong then some .nameTooLong else none := by
  rw [spellingFault?] at sound ⊢
  rw [hasNul_congr same, isEmpty_congr same]
  split at sound
  · cases sound
  rename_i noNul
  split at sound
  · cases sound
  rename_i notEmpty
  rw [if_neg noNul, if_neg notEmpty]

/-- A file that is read under one spelling of its path is read under every other one, unless that is
too long or wants a folder. -/
theorem readText_of_same {text : String} (same : p.components = q.components)
    (read : disk.readText q = .ok text) :
    disk.readText p =
      if p.isTooLong then .error .nameTooLong
      else if p.namesFolder then .error .notDirectory
      else .ok text := by
  obtain ⟨there, content, located, isFile, isText⟩ := readText_eq_ok_iff.mp read
  obtain ⟨sound, -, reached⟩ := (locate_eq_ok_iff_of_file isFile).mp located
  have fault := spellingFault?_of_same same sound
  rw [← reach_congr disk same] at reached
  cases tooLong : p.isTooLong with
  | true =>
    rw [if_pos tooLong] at fault
    rw [readText, readBytes, locate_of_fault fault]
    rfl
  | false =>
    rw [if_neg (by simp [tooLong])] at fault
    cases wantsFolder : p.namesFolder with
    | false =>
      have located := (locate_eq_ok_iff_of_file isFile).mpr ⟨fault, wantsFolder, reached⟩
      exact readText_eq_ok_iff.mpr ⟨there, content, located, isFile, isText⟩
    | true =>
      have located : disk.locate p = disk.step there "" := by
        rw [locate_eq, fault, wantsFolder, reached]
        rfl
      rw [step_here, isFile] at located
      rw [readText, readBytes, located]
      rfl

end Same

end Disk
end TripCards
