/-
What renderers remember of a run.

`Session.Follows` says that each shelf keeps what its part of the history fetched since it was
cleared last. Every step keeps that, so it holds after every run.

The main theorem is `Session.remembers_run`. It gives what a renderer answers after a run from the
history alone, whatever has been written to and removed from the disk meanwhile.
-/
import Mathlib
import TripCards.Proofs.Session.History

namespace TripCards

/-- The folder of the shelf that a step adds. -/
def SessionStep.added? : SessionStep → Option FilePath
  | .add base => some base
  | _ => none

namespace Session

def next (session : Session) (step : SessionStep) : Session :=
  (session.step step).2.2

def run (session : Session) (steps : List SessionStep) : Session :=
  steps.foldl next session

def replyTo (session : Session) (renderer : Nat) (request : Request) : Reply :=
  (session.step (.ask renderer request)).1

def afterAsking (session : Session) (renderer : Nat) (request : Request) : Session :=
  session.next (.ask renderer request)

/-- What a step does to the shelf that it names. -/
def event? (session : Session) : SessionStep → Option (Nat × ShelfEvent)
  | .ask renderer request =>
    match session.shelfOf? renderer with
    | none => none
    | some (index, shelf) => (shelf.event? session.disk request).map (index, ·)
  | _ => none

def history (session : Session) : List SessionStep → History
  | [] => []
  | step :: steps => (session.event? step).toList ++ (session.next step).history steps

variable {session : Session}

theorem shelfOf?_eq_some_iff {renderer index : Nat} {shelf : Shelf} :
    session.shelfOf? renderer = some (index, shelf) ↔
      session.renderers[renderer]? = some index ∧ session.shelves[index]? = some shelf := by
  unfold shelfOf?
  cases session.renderers[renderer]? with
  | none => simp
  | some found =>
      rw [Option.map_eq_some_iff, Option.some.injEq]
      constructor
      · rintro ⟨held, isHeld, same⟩
        cases same
        exact ⟨rfl, isHeld⟩
      · rintro ⟨rfl, isHeld⟩
        exact ⟨shelf, isHeld, rfl⟩

section Asking

variable {renderer index : Nat} {shelf : Shelf}

theorem replyTo_eq (works : session.shelfOf? renderer = some (index, shelf))
    (request : Request) :
    session.replyTo renderer request = shelf.answer session.disk request := by
  simp only [replyTo, step, works, Shelf.run_reply]
  rfl

theorem afterAsking_eq (works : session.shelfOf? renderer = some (index, shelf))
    (request : Request) :
    session.afterAsking renderer request =
      { session with shelves := session.shelves.set index (shelf.after session.disk request) } := by
  simp only [afterAsking, next, step, works, Shelf.run_reply]
  rfl

/-- A request for a text that leaves the shelf as it is changes nothing. -/
theorem afterAsking_eq_self (works : session.shelfOf? renderer = some (index, shelf))
    {relative : FilePath} (same : (shelf.got session.disk relative).2 = shelf)
    {request : Request} (wanted : request.wanted? = some relative) :
    session.afterAsking renderer request = session := by
  have held := (shelfOf?_eq_some_iff.1 works).2
  obtain ⟨bound, rfl⟩ := List.getElem?_eq_some_iff.1 held
  rw [afterAsking_eq works, Shelf.after_of_wanted _ _ wanted, same, List.set_getElem_self]

theorem shelfOf?_afterAsking (works : session.shelfOf? renderer = some (index, shelf))
    (request : Request) :
    (session.afterAsking renderer request).shelfOf? renderer =
      some (index, shelf.after session.disk request) := by
  obtain ⟨isIndex, held⟩ := shelfOf?_eq_some_iff.1 works
  obtain ⟨bound, -⟩ := List.getElem?_eq_some_iff.1 held
  rw [afterAsking_eq works, shelfOf?_eq_some_iff]
  exact ⟨isIndex, List.getElem?_set_self bound⟩

end Asking

/-- What a renderer with a shelf in the folder `root` answers when the texts of `fetched` were
fetched from that shelf since it was cleared. -/
structure Remembers (session : Session) (renderer : Nat) (root : FilePath)
    (fetched : List Fetch) : Prop where
  /-- A path is there exactly when it was fetched, under whatever spelling. -/
  contains_iff : ∀ relative,
    session.replyTo renderer (.contains relative) = .truth true ↔
      ∃ fetch ∈ fetched, fetch.path.components = (root.join relative).components
  /-- What was fetched is answered as it was read then, and nothing changes. -/
  held : ∀ relative first, Fetch.first? fetched (root.join relative) = some first →
    first.disk.readText first.path = .ok first.text ∧
    session.replyTo renderer (.get relative) = .text (.ok first.text) ∧
    ∀ request, request.wanted? = some relative → session.afterAsking renderer request = session
  /-- What was not fetched is read from the disk as it is now, and is there from then on. -/
  read : ∀ relative text, Fetch.first? fetched (root.join relative) = none →
    session.disk.readText (root.join relative) = .ok text →
    session.replyTo renderer (.get relative) = .text (.ok text) ∧
    ∀ request, request.wanted? = some relative → ∀ disk : Disk,
      let after := { session.afterAsking renderer request with disk }
      after.replyTo renderer (.contains relative) = .truth true ∧
      after.replyTo renderer (.get relative) = .text (.ok text)
  /-- What cannot be read is an error, and nothing changes. -/
  failed : ∀ relative e, Fetch.first? fetched (root.join relative) = none →
    session.disk.readText (root.join relative) = .error e →
    session.replyTo renderer (.get relative) =
      .text (.error (if e = .notFound then .notFound (root.join relative) else .unreadable e)) ∧
    ∀ request, request.wanted? = some relative → session.afterAsking renderer request = session
  /-- Each path counts once, however often and under whatever spellings it was fetched. -/
  size_eq : session.cached renderer =
    (fetched.map fun fetch => fetch.path.components).toFinset.card
  /-- Asking one renderer does not change the shelves of others. -/
  apart : ∀ request other, session.renderers[other]? ≠ session.renderers[renderer]? →
    (session.afterAsking renderer request).shelfOf? other = session.shelfOf? other

theorem remembers_of_keeps {renderer index : Nat} {shelf : Shelf} {fetched : List Fetch}
    (works : session.shelfOf? renderer = some (index, shelf)) (keeps : shelf.Keeps fetched) :
    session.Remembers renderer shelf.base fetched where
  contains_iff relative := by
    rw [replyTo_eq works, Shelf.answer, Reply.truth.injEq]
    exact keeps.contains_iff relative
  held relative first isFirst := by
    have found : shelf.find? (shelf.pathOf relative) = some first.text := by
      rw [keeps.found]
      exact congrArg (Option.map Fetch.text) isFirst
    have got := Shelf.got_of_find? session.disk found
    refine ⟨keeps.read _ first isFirst, ?_, ?_⟩
    · rw [replyTo_eq works, Shelf.answer, got]
    · intro request wanted
      exact afterAsking_eq_self works (by rw [got]) wanted
  read relative text isFirst read := by
    have missing : shelf.find? (shelf.pathOf relative) = none := by
      rw [keeps.found]
      exact congrArg (Option.map Fetch.text) isFirst
    have got := Shelf.got_of_readText missing read
    have found : (shelf.got session.disk relative).2.find? (shelf.pathOf relative) =
        some text := by
      rw [got, Shelf.find?_keep text missing, missing, if_pos rfl]
      rfl
    refine ⟨?_, ?_⟩
    · rw [replyTo_eq works, Shelf.answer, got]
    · intro request wanted disk after
      have works' : after.shelfOf? renderer = some (index, (shelf.got session.disk relative).2) := by
        rw [← Shelf.after_of_wanted shelf session.disk wanted]
        exact shelfOf?_afterAsking works request
      have base := Shelf.got_base shelf session.disk relative
      generalize (shelf.got session.disk relative).2 = grown at found works' base
      have held : grown.find? (grown.pathOf relative) = some text := by
        rw [Shelf.pathOf, base]
        exact found
      constructor
      · rw [replyTo_eq works', Shelf.answer, Shelf.contains, held]
        rfl
      · rw [replyTo_eq works', Shelf.answer, Shelf.got_of_find? disk held]
  failed relative e isFirst failed := by
    have missing : shelf.find? (shelf.pathOf relative) = none := by
      rw [keeps.found]
      exact congrArg (Option.map Fetch.text) isFirst
    have got := Shelf.got_of_error missing failed
    refine ⟨?_, ?_⟩
    · rw [replyTo_eq works, Shelf.answer, got]
      rfl
    · intro request wanted
      exact afterAsking_eq_self works (by rw [got]) wanted
  size_eq := by
    rw [cached, works]
    exact keeps.size_eq
  apart request other distinct := by
    rw [(shelfOf?_eq_some_iff.1 works).1] at distinct
    rw [afterAsking_eq works]
    unfold shelfOf?
    cases isOther : session.renderers[other]? with
    | none => rfl
    | some held =>
        have apart : index ≠ held := by
          rintro rfl
          exact distinct isOther
        show ((session.shelves.set index _)[held]?).map _ = _
        rw [List.getElem?_set_ne apart]

/-- The shelves are as their histories left them: they stand in the folders `roots`, the history
and the renderers name no others, and each keeps what was fetched from it since it was cleared. -/
structure Follows (session : Session) (roots : List FilePath) (past : History) : Prop where
  roots_eq : session.shelves.map Shelf.base = roots
  renderers_lt : ∀ index ∈ session.renderers, index < session.shelves.length
  past_lt : ∀ entry ∈ past, entry.1 < session.shelves.length
  keeps : ∀ (index : Nat) (shelf : Shelf), session.shelves[index]? = some shelf →
    shelf.Keeps (past.fetchedFrom index)

namespace Follows

variable {roots : List FilePath} {past : History}

theorem start (disk : Disk) (base : FilePath) : (Session.start disk base).Follows [base] [] where
  roots_eq := rfl
  renderers_lt index mem := by
    rw [List.mem_singleton.1 mem]
    exact Nat.zero_lt_one
  past_lt entry mem := nomatch mem
  keeps index shelf held := by
    cases index with
    | zero =>
        cases held
        exact Shelf.Keeps.empty base
    | succ index => nomatch held

/-- The disk does not matter to what is kept. -/
theorem withDisk (follows : session.Follows roots past) (disk : Disk) :
    { session with disk }.Follows roots past :=
  ⟨follows.roots_eq, follows.renderers_lt, follows.past_lt, follows.keeps⟩

theorem asked (follows : session.Follows roots past) {renderer index : Nat} {shelf : Shelf}
    (works : session.shelfOf? renderer = some (index, shelf)) (request : Request) :
    (session.afterAsking renderer request).Follows roots
      (past ++ ((shelf.event? session.disk request).map (index, ·)).toList) := by
  obtain ⟨-, held⟩ := shelfOf?_eq_some_iff.1 works
  obtain ⟨bound, isHeld⟩ := List.getElem?_eq_some_iff.1 held
  rw [afterAsking_eq works]
  refine ⟨?_, ?_, ?_, ?_⟩
  · show (session.shelves.set index _).map Shelf.base = roots
    rw [List.map_set, Shelf.after_base, ← follows.roots_eq, ← isHeld, ← List.map_set,
      List.set_getElem_self]
  · intro named mem
    rw [List.length_set]
    exact follows.renderers_lt named mem
  · intro entry mem
    rw [List.length_set]
    rcases List.mem_append.1 mem with mem | mem
    · exact follows.past_lt entry mem
    · obtain ⟨event, -, rfl⟩ := Option.map_eq_some_iff.1 (Option.mem_toList.1 mem)
      exact bound
  · intro other kept isKept
    rw [History.fetchedFrom, History.ofShelf_append]
    by_cases same : index = other
    · subst same
      have isAfter : shelf.after session.disk request = kept := by
        rw [List.getElem?_set_self bound] at isKept
        exact Option.some.inj isKept
      rw [History.ofShelf_self, ← isAfter]
      exact (follows.keeps index shelf held).after session.disk request
    · rw [List.getElem?_set_ne same] at isKept
      rw [History.ofShelf_other same, List.append_nil]
      exact follows.keeps other kept isKept

theorem cloned (follows : session.Follows roots past) {renderer index : Nat}
    (isIndex : session.renderers[renderer]? = some index) :
    { session with renderers := session.renderers ++ [index] }.Follows roots past := by
  refine ⟨follows.roots_eq, ?_, follows.past_lt, follows.keeps⟩
  intro named mem
  rcases List.mem_append.1 mem with mem | mem
  · exact follows.renderers_lt named mem
  · rw [List.mem_singleton.1 mem]
    exact follows.renderers_lt index (List.mem_of_getElem? isIndex)

theorem added (follows : session.Follows roots past) (base : FilePath) :
    { session with
      shelves := session.shelves ++ [Shelf.empty base]
      renderers := session.renderers ++ [session.shelves.length] }.Follows
        (roots ++ [base]) past := by
  have longer : (session.shelves ++ [Shelf.empty base]).length = session.shelves.length + 1 :=
    List.length_append
  refine ⟨?_, ?_, ?_, ?_⟩
  · show (session.shelves ++ [Shelf.empty base]).map Shelf.base = _
    rw [List.map_append, follows.roots_eq]
    rfl
  · intro named mem
    rw [longer]
    rcases List.mem_append.1 mem with mem | mem
    · have := follows.renderers_lt named mem
      omega
    · rw [List.mem_singleton.1 mem]
      omega
  · intro entry mem
    rw [longer]
    have := follows.past_lt entry mem
    omega
  · intro index kept isKept
    by_cases old : index < session.shelves.length
    · rw [List.getElem?_append_left old] at isKept
      exact follows.keeps index kept isKept
    · rw [List.getElem?_append_right (by omega)] at isKept
      obtain ⟨single, isNew⟩ := List.getElem?_eq_some_iff.1 isKept
      have isEmpty : Shelf.empty base = kept := by
        rw [← isNew]
        exact (List.getElem_singleton _).symm
      have unnamed : ∀ entry ∈ past, entry.1 ≠ index := by
        intro entry mem
        have := follows.past_lt entry mem
        omega
      rw [History.fetchedFrom, History.ofShelf_eq_nil unnamed, ← isEmpty]
      exact Shelf.Keeps.empty base

/-- Every step is followed. -/
theorem next (follows : session.Follows roots past) (step : SessionStep) :
    (session.next step).Follows (roots ++ step.added?.toList)
      (past ++ (session.event? step).toList) := by
  have unchanged {disk : Disk} : { session with disk }.Follows (roots ++ []) (past ++ []) := by
    rw [List.append_nil, List.append_nil]
    exact follows.withDisk disk
  cases step with
  | write path content => exact unchanged
  | makeFolder path => exact unchanged
  | remove path => exact unchanged
  | ask renderer request =>
      cases works : session.shelfOf? renderer with
      | none =>
          simp only [Session.next, step, event?, works]
          exact unchanged
      | some found =>
          obtain ⟨index, shelf⟩ := found
          simp only [event?, works]
          show (session.afterAsking renderer request).Follows (roots ++ []) _
          rw [List.append_nil]
          exact follows.asked works request
  | clone renderer =>
      cases isIndex : session.renderers[renderer]? with
      | none =>
          simp only [Session.next, step, isIndex]
          exact unchanged
      | some index =>
          simp only [Session.next, step, isIndex]
          show Follows _ (roots ++ []) (past ++ [])
          rw [List.append_nil, List.append_nil]
          exact follows.cloned isIndex
  | add base =>
      show Follows _ (roots ++ [base]) (past ++ [])
      rw [List.append_nil]
      exact follows.added base

/-- And so is every run. -/
theorem run (follows : session.Follows roots past) (steps : List SessionStep) :
    (session.run steps).Follows (roots ++ steps.filterMap SessionStep.added?)
      (past ++ session.history steps) := by
  induction steps generalizing session roots past with
  | nil =>
      rw [List.filterMap_nil, List.append_nil, history, List.append_nil]
      exact follows
  | cons step steps ih =>
      have later := ih (follows.next step)
      rw [List.append_assoc, List.append_assoc] at later
      have roots_eq : (step :: steps).filterMap SessionStep.added? =
          step.added?.toList ++ steps.filterMap SessionStep.added? := by
        rw [List.filterMap_cons]
        cases step.added? <;> rfl
      rw [roots_eq]
      exact later

end Follows

/-- What a renderer answers is determined by what was fetched since its shelf was cleared. -/
theorem remembers_run (disk : Disk) (base : FilePath) (steps : List SessionStep)
    (renderer index : Nat)
    (works : ((start disk base).run steps).renderers[renderer]? = some index) :
    ∃ root, (base :: steps.filterMap SessionStep.added?)[index]? = some root ∧
      ((start disk base).run steps).Remembers renderer root
        (((start disk base).history steps).fetchedFrom index) := by
  have follows : ((start disk base).run steps).Follows
      (base :: steps.filterMap SessionStep.added?) ((start disk base).history steps) :=
    (Follows.start disk base).run steps
  have bound := follows.renderers_lt index (List.mem_of_getElem? works)
  have held := List.getElem?_eq_getElem bound
  refine ⟨(((start disk base).run steps).shelves[index]).base, ?_, ?_⟩
  · rw [← follows.roots_eq, List.getElem?_map, held]
    rfl
  · exact remembers_of_keeps (shelfOf?_eq_some_iff.2 ⟨works, held⟩) (follows.keeps _ _ held)

/-- The root folder with one file in it. -/
def oneFile : Disk := ⟨.folder [("a", .file "x".toUTF8)], []⟩

/-- The file is fetched and then removed, and a clone is made after that. -/
def fetchThenRemove : List SessionStep :=
  [.ask 0 (.get ⟨"a"⟩), .remove ⟨"/a"⟩, .clone 0]

theorem remembers_removed :
    let session := (start oneFile ⟨"/"⟩).run fetchThenRemove
    session.renderers[1]? = some 0 ∧
      session.disk.readText ⟨"/./a"⟩ = .error .notFound ∧
      session.replyTo 1 (.get ⟨"./a"⟩) = .text (.ok "x") := by
  have works : ((start oneFile ⟨"/"⟩).run fetchThenRemove).renderers[1]? = some 0 := by cbv
  have isFirst : Fetch.first? (((start oneFile ⟨"/"⟩).history fetchThenRemove).fetchedFrom 0)
      (FilePath.join ⟨"/"⟩ ⟨"./a"⟩) = some ⟨⟨"/a"⟩, oneFile, "x"⟩ := by cbv
  obtain ⟨root, isRoot, remembers⟩ := remembers_run oneFile ⟨"/"⟩ fetchThenRemove 1 0 works
  rw [List.getElem?_cons_zero, Option.some.injEq] at isRoot
  subst isRoot
  exact ⟨works, by cbv, (remembers.held ⟨"./a"⟩ _ isFirst).2.1⟩

end Session
end TripCards
