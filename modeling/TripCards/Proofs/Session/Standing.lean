/-
What a renderer answers while the disk stands still.

A text on a shelf was read under some spelling of its path, and is the answer under all of them. A
disk is asked for a path as it is spelled. So earlier requests make a difference to two kinds of
path only, those that want a folder where there is a file and those that are too long:
`Session.replyTo_get_run`.
-/
import Mathlib
import TripCards.Proofs.Files.Spelling
import TripCards.Proofs.Session.Remembering

namespace TripCards

namespace Shelf

/-- What the disk gives for the first of some paths that is another spelling of `path` and can be
read. -/
def firstRead? (disk : Disk) (others : List FilePath) (path : FilePath) : Option String :=
  others.findSome? fun other =>
    if other.components = path.components then (disk.readText other).toOption else none

theorem firstRead?_eq_some {disk : Disk} {others : List FilePath} {path : FilePath} {text : String}
    (h : firstRead? disk others path = some text) :
    ∃ other ∈ others, other.components = path.components ∧ disk.readText other = .ok text := by
  obtain ⟨other, mem, given⟩ := List.exists_of_findSome?_eq_some h
  split at given
  · rename_i same
    refine ⟨other, mem, same, ?_⟩
    cases read : disk.readText other with
    | ok found =>
      rw [read] at given
      exact congrArg Except.ok (Option.some.inj given)
    | error e =>
      rw [read] at given
      cases given
  · cases given

theorem readText_ne_ok_of_firstRead? {disk : Disk} {others : List FilePath} {path : FilePath}
    (h : firstRead? disk others path = none) {other : FilePath} (mem : other ∈ others)
    (same : other.components = path.components) (text : String) :
    disk.readText other ≠ .ok text := by
  have given := List.findSome?_eq_none_iff.mp h other mem
  rw [if_pos same] at given
  intro read
  rw [read] at given
  cases given

theorem find?_congr {path other : FilePath} (shelf : Shelf)
    (same : path.components = other.components) : shelf.find? path = shelf.find? other := by
  rw [find?, find?, same]

/-- One request adds what it read, where nothing was found before. -/
theorem find?_got (shelf : Shelf) (disk : Disk) (relative path : FilePath) :
    (shelf.got disk relative).2.find? path =
      (shelf.find? path).or (firstRead? disk [shelf.pathOf relative] path) := by
  rw [firstRead?, List.findSome?_singleton]
  cases known : shelf.find? (shelf.pathOf relative) with
  | some text =>
    rw [got_of_find? disk known]
    split
    · rename_i same
      rw [← shelf.find?_congr same, known]
      rfl
    · rw [Option.or_none]
  | none =>
    cases read : disk.readText (shelf.pathOf relative) with
    | ok text =>
      rw [got_of_readText known read]
      exact find?_keep text known path
    | error e =>
      rw [got_of_error known read]
      show shelf.find? path = (shelf.find? path).or (if _ then none else none)
      rw [ite_self, Option.or_none]

/-- The shelf after some requests for texts. -/
def gotAll (shelf : Shelf) (disk : Disk) (relatives : List FilePath) : Shelf :=
  relatives.foldl (fun shelf relative => (shelf.got disk relative).2) shelf

theorem gotAll_base (shelf : Shelf) (disk : Disk) (relatives : List FilePath) :
    (shelf.gotAll disk relatives).base = shelf.base := by
  induction relatives generalizing shelf with
  | nil => rfl
  | cons relative relatives ih =>
    show ((shelf.got disk relative).2.gotAll disk relatives).base = _
    rw [ih, got_base]

theorem find?_gotAll (shelf : Shelf) (disk : Disk) (relatives : List FilePath) (path : FilePath) :
    (shelf.gotAll disk relatives).find? path =
      (shelf.find? path).or (firstRead? disk (relatives.map shelf.base.join) path) := by
  induction relatives generalizing shelf with
  | nil => exact Option.or_none.symm
  | cons relative relatives ih =>
    show ((shelf.got disk relative).2.gotAll disk relatives).find? path = _
    rw [ih, find?_got, got_base, Option.or_assoc, List.map_cons]
    rw [firstRead?, firstRead?, ← List.findSome?_append]
    rfl

theorem find?_empty (base path : FilePath) : (empty base).find? path = none := rfl

/-- What is not found is answered as by a shelf without texts. -/
theorem got_fst_of_missing {shelf : Shelf} {relative : FilePath} (disk : Disk)
    (missing : shelf.find? (shelf.pathOf relative) = none) :
    (shelf.got disk relative).1 = ((empty shelf.base).got disk relative).1 := by
  cases read : disk.readText (shelf.pathOf relative) with
  | ok text =>
    have here := got_of_readText missing read
    have fresh := got_of_readText (find?_empty shelf.base (shelf.pathOf relative)) read
    rw [here, fresh]
  | error e =>
    have here := got_of_error missing read
    have fresh := got_of_error (find?_empty shelf.base (shelf.pathOf relative)) read
    rw [here, fresh]
    rfl

section Earlier

variable {disk : Disk} {base : FilePath} {earlier : List FilePath} {relative : FilePath}

theorem got_gotAll_of_none
    (h : firstRead? disk (earlier.map base.join) (base.join relative) = none) :
    (((empty base).gotAll disk earlier).got disk relative).1 =
      ((empty base).got disk relative).1 := by
  have sameBase := (empty base).gotAll_base disk earlier
  have found := (empty base).find?_gotAll disk earlier (base.join relative)
  rw [show (empty base).base = base from rfl, h] at found
  rw [got_fst_of_missing disk (by rw [pathOf, sameBase]; exact found), sameBase]
  rfl

theorem got_gotAll_of_some {text : String}
    (h : firstRead? disk (earlier.map base.join) (base.join relative) = some text) :
    (((empty base).gotAll disk earlier).got disk relative).1 = .ok text := by
  have sameBase := (empty base).gotAll_base disk earlier
  have found := (empty base).find?_gotAll disk earlier (base.join relative)
  rw [show (empty base).base = base from rfl, h] at found
  rw [got_of_find? disk (by rw [pathOf, sameBase]; exact found)]

theorem got_empty_of_error {e : FileError} (h : disk.readText (base.join relative) = .error e)
    (found : e ≠ .notFound) : ((empty base).got disk relative).1 = .error (.unreadable e) := by
  have got := got_of_error (find?_empty base (base.join relative)) h
  rw [got, if_neg found]

end Earlier

end Shelf

namespace Session

/-- A session with one renderer. -/
def single (disk : Disk) (shelf : Shelf) : Session := ⟨disk, [shelf], [0]⟩

theorem replyTo_single (disk : Disk) (shelf : Shelf) (relative : FilePath) :
    (single disk shelf).replyTo 0 (.get relative) = .text (shelf.got disk relative).1 :=
  replyTo_eq rfl _

theorem run_single (disk : Disk) (shelf : Shelf) (earlier : List FilePath) :
    (single disk shelf).run (earlier.map fun p => .ask 0 (.get p)) =
      single disk (shelf.gotAll disk earlier) := by
  induction earlier generalizing shelf with
  | nil => rfl
  | cons p earlier ih =>
    have works : (single disk shelf).shelfOf? 0 = some (0, shelf) := rfl
    have next : (single disk shelf).next (.ask 0 (.get p)) = single disk (shelf.got disk p).2 :=
      afterAsking_eq works (.get p)
    show ((single disk shelf).next _).run _ = _
    rw [next, ih]
    rfl

theorem start_eq (disk : Disk) (base : FilePath) :
    start disk base = single disk (Shelf.empty base) := rfl

/-- After requests on a disk that stands still a text is answered as at first, but for one that was
read under one spelling of its path, and is asked for now under another that wants a folder or is too
long. -/
theorem replyTo_get_run (disk : Disk) (base : FilePath) (earlier : List FilePath)
    (relative : FilePath) :
    let path := base.join relative
    let first := (start disk base).replyTo 0 (.get relative)
    let now := ((start disk base).run (earlier.map fun p => .ask 0 (.get p))).replyTo 0
      (.get relative)
    (now ≠ first ↔ (path.namesFolder = true ∨ path.isTooLong = true) ∧ ∃ other ∈ earlier,
      (base.join other).components = path.components ∧
        ∃ text, disk.readText (base.join other) = .ok text) ∧
    (now = first ∨
      first = .text (.error (.unreadable (if path.isTooLong then .nameTooLong else .notDirectory))) ∧
        ∃ other ∈ earlier, (base.join other).components = path.components ∧
          ∃ text, disk.readText (base.join other) = .ok text ∧ now = .text (.ok text)) := by
  intro path
  rw [start_eq, run_single, replyTo_single, replyTo_single]
  intro first now
  cases isRead : Shelf.firstRead? disk (earlier.map base.join) path with
  | none =>
    have same : now = first := congrArg Reply.text (Shelf.got_gotAll_of_none isRead)
    refine ⟨iff_of_false (not_not.mpr same) ?_, Or.inl same⟩
    rintro ⟨-, other, mem, components, text, read⟩
    exact Shelf.readText_ne_ok_of_firstRead? isRead (List.mem_map_of_mem mem) components text read
  | some text =>
    have isNow : now = .text (.ok text) := congrArg Reply.text (Shelf.got_gotAll_of_some isRead)
    obtain ⟨_, isOther, components, read⟩ := Shelf.firstRead?_eq_some isRead
    obtain ⟨other, mem, rfl⟩ := List.mem_map.mp isOther
    have fresh := Disk.readText_of_same components.symm read
    by_cases refused : path.namesFolder = true ∨ path.isTooLong = true
    · have fails : disk.readText path =
          .error (if path.isTooLong then .nameTooLong else .notDirectory) := by
        rw [fresh]
        rcases refused with wantsFolder | tooLong
        · rw [if_pos wantsFolder]
          split <;> rfl
        · rw [if_pos tooLong, if_pos tooLong]
      have isFirst : first = .text (.error (.unreadable _)) :=
        congrArg Reply.text (Shelf.got_empty_of_error fails (by split <;> nofun))
      have differ : now ≠ first := by
        rw [isNow, isFirst]
        exact fun h => nomatch Reply.text.inj h
      exact ⟨iff_of_true differ ⟨refused, other, mem, components, text, read⟩,
        Or.inr ⟨isFirst, other, mem, components, text, read, isNow⟩⟩
    · obtain ⟨wantsNone, notTooLong⟩ := not_or.mp refused
      rw [if_neg notTooLong, if_neg wantsNone] at fresh
      have same : now = first := by
        have got := Shelf.got_of_readText (Shelf.find?_empty base (base.join relative)) fresh
        rw [isNow]
        exact congrArg (fun answer => Reply.text answer.1) got.symm
      exact ⟨iff_of_false (not_not.mpr same) (fun h => refused h.1), Or.inl same⟩

/-- A folder with one template in it. -/
def oneTemplate : Disk :=
  ⟨.folder [("templates", .folder [("a.html", .file "hi".toUTF8)])], []⟩

/-- With a separator at its end the path of a template is answered, once the template was read. -/
theorem replyTo_get_run_differs :
    ¬ ∀ (disk : Disk) (base : FilePath) (earlier : List FilePath) (relative : FilePath),
      ((start disk base).run (earlier.map fun p => .ask 0 (.get p))).replyTo 0 (.get relative) =
        (start disk base).replyTo 0 (.get relative) := by
  intro transparent
  let base : FilePath := ⟨"templates"⟩
  have same := transparent oneTemplate base [⟨"a.html"⟩] ⟨"a.html/"⟩
  have refused : oneTemplate.readText (base.join ⟨"a.html/"⟩) = .error .notDirectory := by
    decide +kernel
  have read : Shelf.firstRead? oneTemplate ([⟨"a.html"⟩].map base.join) (base.join ⟨"a.html/"⟩) =
      some "hi" := by
    decide +kernel
  rw [start_eq, run_single, replyTo_single, replyTo_single, Reply.text.injEq,
    Shelf.got_gotAll_of_some read, Shelf.got_empty_of_error refused nofun] at same
  cases same

end Session
end TripCards
