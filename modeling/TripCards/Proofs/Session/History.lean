/-
What happens to shelves, in the order in which it happens.

A history names the shelf of every request for a text, with the disk at that time and the answer,
and of every clearing. What counts for a shelf is what was fetched from it since it was cleared
last.
-/
import TripCards.Proofs.Shelf.Keeping
import Mathlib.Data.List.DropRight

namespace TripCards

/-- What happens to a shelf: it is asked for a text, and answers from what it holds or from the
disk, or it is cleared. -/
inductive ShelfEvent where
  | asked (path : FilePath) (disk : Disk) (answer : Except CardError String)
  | cleared

namespace ShelfEvent

def isCleared : ShelfEvent → Bool
  | cleared => true
  | asked .. => false

def fetch? : ShelfEvent → Option Fetch
  | asked path disk answer => Fetch.ofAnswer? path disk answer
  | cleared => none

/-- The texts that were fetched since the last clearing. -/
def fetched (events : List ShelfEvent) : List Fetch :=
  (events.rtakeWhile fun event => !event.isCleared).filterMap fetch?

theorem fetched_append_asked (events : List ShelfEvent) (path : FilePath) (disk : Disk)
    (answer : Except CardError String) :
    fetched (events ++ [asked path disk answer]) =
      fetched events ++ (Fetch.ofAnswer? path disk answer).toList := by
  rw [fetched, List.rtakeWhile_concat_pos _ _ _ rfl, List.filterMap_append]
  cases answer <;> rfl

theorem fetched_append_cleared (events : List ShelfEvent) :
    fetched (events ++ [cleared]) = [] := by
  rw [fetched, List.rtakeWhile_concat_neg _ _ _ (by decide), List.filterMap_nil]

end ShelfEvent

namespace Shelf

/-- What a request does to a shelf, if it is one of the requests that can change it. -/
def event? (shelf : Shelf) (disk : Disk) : Request → Option ShelfEvent
  | .clear => some .cleared
  | request =>
    request.wanted?.map fun relative =>
      .asked (shelf.pathOf relative) disk ((shelf.get relative).run (World.fresh disk)).1.1

/-- A request is a clearing, or a request for a text, or leaves no event. -/
theorem event_cases (shelf : Shelf) (disk : Disk) (request : Request) :
    (shelf.event? disk request = some .cleared ∧ shelf.after disk request = shelf.cleared) ∨
    (∃ relative, request.wanted? = some relative ∧
      shelf.event? disk request =
        some (.asked (shelf.pathOf relative) disk (shelf.got disk relative).1) ∧
      shelf.after disk request = (shelf.got disk relative).2) ∨
    (request.wanted? = none ∧ shelf.event? disk request = none ∧
      shelf.after disk request = shelf) := by
  have asked : ∀ relative, request.wanted? = some relative → shelf.event? disk request =
      some (.asked (shelf.pathOf relative) disk (shelf.got disk relative).1) := by
    intro relative wanted
    have answer : ((shelf.get relative).run (World.fresh disk)).1 = shelf.got disk relative :=
      congrArg Prod.fst (run_get shelf relative (World.fresh disk))
    rw [← answer]
    cases request <;> cases wanted <;> rfl
  cases request with
  | clear => exact Or.inl ⟨rfl, rfl⟩
  | fill | contains | pathOf | base => exact Or.inr (Or.inr ⟨rfl, rfl, rfl⟩)
  | render | renderOrFragment | load | get =>
      exact Or.inr (Or.inl ⟨_, rfl, asked _ rfl, after_of_wanted shelf disk rfl⟩)

/-- A shelf keeps what its events fetched, and keeps it through one more request. -/
theorem Keeps.after {shelf : Shelf} {events : List ShelfEvent}
    (keeps : shelf.Keeps (ShelfEvent.fetched events)) (disk : Disk) (request : Request) :
    (shelf.after disk request).Keeps
      (ShelfEvent.fetched (events ++ (shelf.event? disk request).toList)) := by
  rcases shelf.event_cases disk request with
    ⟨event, after⟩ | ⟨relative, -, event, after⟩ | ⟨-, event, after⟩
  · rw [event, after, Option.toList_some, ShelfEvent.fetched_append_cleared]
    exact Keeps.cleared shelf
  · rw [event, after, Option.toList_some, ShelfEvent.fetched_append_asked]
    exact keeps.got disk relative
  · rw [event, after, Option.toList_none, List.append_nil]
    exact keeps

end Shelf

/-- The events of a run, each with the number of its shelf. -/
abbrev History := List (Nat × ShelfEvent)

namespace History

/-- The events of one shelf. -/
def ofShelf (index : Nat) (past : History) : List ShelfEvent :=
  past.filterMap fun (shelf, event) => if shelf = index then some event else none

/-- The texts that were fetched from a shelf since it was cleared last. -/
def fetchedFrom (index : Nat) (past : History) : List Fetch :=
  ShelfEvent.fetched (past.ofShelf index)

theorem ofShelf_append (index : Nat) (past more : History) :
    ofShelf index (past ++ more) = past.ofShelf index ++ more.ofShelf index :=
  List.filterMap_append

theorem ofShelf_self (index : Nat) (event? : Option ShelfEvent) :
    ofShelf index (event?.map (index, ·)).toList = event?.toList := by
  cases event? with
  | none => rfl
  | some event =>
      show List.filterMap _ [(index, event)] = [event]
      simp

theorem ofShelf_other {index other : Nat} (apart : other ≠ index)
    (event? : Option ShelfEvent) :
    ofShelf index (event?.map (other, ·)).toList = [] := by
  cases event? with
  | none => rfl
  | some event =>
      show List.filterMap _ [(other, event)] = []
      simp [apart]

/-- A shelf that is not named has no events. -/
theorem ofShelf_eq_nil {index : Nat} {past : History}
    (unnamed : ∀ entry ∈ past, entry.1 ≠ index) : past.ofShelf index = [] := by
  rw [ofShelf, List.filterMap_eq_nil_iff]
  intro entry mem
  exact if_neg (unnamed entry mem)

end History
end TripCards
