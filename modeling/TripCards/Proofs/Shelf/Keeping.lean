/-
What a shelf keeps of the texts that were fetched from it.

`Shelf.Keeps` ties a shelf to all that was fetched from it since it was empty. It says which text is
found for a path, when that text was read, and that every path is kept once. A request for a text
and clearing keep it, whatever the disk is by then.
-/
import TripCards.Proofs.Shelf.Answers
import Mathlib.Data.Finset.Card

namespace TripCards

/-- One request for a text that was answered: the path that was asked for, the disk at that time,
and the text of the answer. -/
structure Fetch where
  path : FilePath
  disk : Disk
  text : String

namespace Fetch

/-- What is fetched by a request with that answer. -/
def ofAnswer? (path : FilePath) (disk : Disk) : Except CardError String → Option Fetch
  | .ok text => some ⟨path, disk, text⟩
  | .error _ => none

/-- The earliest fetch of a path, however it was spelled. -/
def first? (fetched : List Fetch) (path : FilePath) : Option Fetch :=
  fetched.find? fun fetch => fetch.path.components = path.components

theorem first?_append (fetched more : List Fetch) (path : FilePath) :
    first? (fetched ++ more) path = (first? fetched path).or (first? more path) :=
  List.find?_append

theorem first?_isSome_iff (fetched : List Fetch) (path : FilePath) :
    (first? fetched path).isSome ↔
      ∃ fetch ∈ fetched, fetch.path.components = path.components := by
  rw [first?, List.find?_isSome]
  simp only [decide_eq_true_eq]

/-- The earliest fetch depends on a path by its components only. -/
theorem first?_congr {path other : FilePath} (fetched : List Fetch)
    (same : path.components = other.components) :
    first? fetched path = first? fetched other := by
  unfold first?
  rw [same]

end Fetch

namespace Shelf

theorem find?_eq_none_iff (shelf : Shelf) (path : FilePath) :
    shelf.find? path = none ↔ path.components ∉ shelf.texts.map Prod.fst := by
  rw [find?, List.findSome?_eq_none_iff, List.mem_map]
  constructor
  · rintro missing ⟨⟨key, text⟩, held, rfl⟩
    have unequal := missing _ held
    simp at unequal
  · rintro absent ⟨key, text⟩ held
    exact if_neg fun same => absent ⟨(key, text), held, same⟩

/-- A text that is kept for a path that was missing is found for that path alone, and for no
other that was not found before. -/
theorem find?_keep {shelf : Shelf} {path : FilePath} (text : String)
    (missing : shelf.find? path = none) (other : FilePath) :
    (shelf.keep path text).find? other =
      (shelf.find? other).or
        (if path.components = other.components then some text else none) := by
  rw [keep, missing]
  show List.findSome? _ (shelf.texts ++ [(path.components, text)]) = _
  rw [List.findSome?_append, List.findSome?_singleton]
  rfl

/-- The shelf holds, for every path that was fetched, the text that was read for it first. -/
structure Keeps (shelf : Shelf) (fetched : List Fetch) : Prop where
  found : ∀ path, shelf.find? path = (Fetch.first? fetched path).map Fetch.text
  read : ∀ path first, Fetch.first? fetched path = some first →
    first.disk.readText first.path = .ok first.text
  keys : ∀ key, key ∈ shelf.texts.map Prod.fst ↔
    key ∈ fetched.map fun fetch => fetch.path.components
  once : (shelf.texts.map Prod.fst).Nodup

namespace Keeps

variable {shelf : Shelf} {fetched : List Fetch}

theorem empty (base : FilePath) : (Shelf.empty base).Keeps [] where
  found _ := rfl
  read _ _ h := nomatch h
  keys _ := Iff.rfl
  once := List.nodup_nil

theorem cleared (shelf : Shelf) : shelf.cleared.Keeps [] :=
  empty shelf.base

theorem contains_iff (keeps : shelf.Keeps fetched) (relative : FilePath) :
    shelf.contains relative = true ↔
      ∃ fetch ∈ fetched, fetch.path.components = (shelf.pathOf relative).components := by
  rw [Shelf.contains, keeps.found, Option.isSome_map]
  exact Fetch.first?_isSome_iff fetched _

theorem size_eq (keeps : shelf.Keeps fetched) :
    shelf.size = (fetched.map fun fetch => fetch.path.components).toFinset.card := by
  have same : (shelf.texts.map Prod.fst).toFinset =
      (fetched.map fun fetch => fetch.path.components).toFinset := by
    ext key
    rw [List.mem_toFinset, List.mem_toFinset]
    exact keeps.keys key
  rw [← same, List.toFinset_card_of_nodup keeps.once, List.length_map]
  rfl

/-- A text that is found already is fetched once more, and changes nothing. -/
theorem again (keeps : shelf.Keeps fetched) {path : FilePath} {text : String} (disk : Disk)
    (known : shelf.find? path = some text) : shelf.Keeps (fetched ++ [⟨path, disk, text⟩]) := by
  rw [keeps.found, Option.map_eq_some_iff] at known
  obtain ⟨first, isFirst, -⟩ := known
  have unchanged : ∀ other,
      Fetch.first? (fetched ++ [⟨path, disk, text⟩]) other = Fetch.first? fetched other := by
    intro other
    rw [Fetch.first?_append]
    by_cases same : path.components = other.components
    · rw [← Fetch.first?_congr fetched same, isFirst]
      rfl
    · have fresh : Fetch.first? [⟨path, disk, text⟩] other = none := by
        simp [Fetch.first?, same]
      rw [fresh, Option.or_none]
  refine ⟨?_, ?_, ?_, keeps.once⟩
  · intro other
    rw [unchanged]
    exact keeps.found other
  · intro other earliest h
    rw [unchanged] at h
    exact keeps.read other earliest h
  · intro key
    have held : path.components ∈ fetched.map fun fetch => fetch.path.components := by
      obtain ⟨fetch, mem, same⟩ := (Fetch.first?_isSome_iff fetched path).1 (by rw [isFirst]; rfl)
      exact List.mem_map.2 ⟨fetch, mem, same⟩
    rw [keeps.keys, List.map_append, List.mem_append, List.map_singleton, List.mem_singleton]
    constructor
    · intro h
      exact Or.inl h
    · rintro (h | rfl)
      · exact h
      · exact held

/-- A text that is read for a path that was missing is kept. -/
theorem keep (keeps : shelf.Keeps fetched) {path : FilePath} {text : String} {disk : Disk}
    (missing : shelf.find? path = none) (read : disk.readText path = .ok text) :
    (shelf.keep path text).Keeps (fetched ++ [⟨path, disk, text⟩]) := by
  have grown : (shelf.keep path text).texts.map Prod.fst =
      shelf.texts.map Prod.fst ++ [path.components] := by
    rw [Shelf.keep, missing]
    exact List.map_append
  have single : ∀ other, Fetch.first? [⟨path, disk, text⟩] other =
      if path.components = other.components then some ⟨path, disk, text⟩ else none := by
    intro other
    by_cases same : path.components = other.components <;> simp [Fetch.first?, same]
  refine ⟨?_, ?_, ?_, ?_⟩
  · intro other
    rw [find?_keep text missing, keeps.found, Fetch.first?_append, single]
    cases Fetch.first? fetched other with
    | some first => rfl
    | none => split <;> rfl
  · intro other first h
    rw [Fetch.first?_append, Option.or_eq_some_iff, single] at h
    rcases h with h | ⟨-, h⟩
    · exact keeps.read other first h
    · split at h
      · cases h
        exact read
      · contradiction
  · intro key
    rw [grown, List.map_append, List.mem_append, List.mem_append, keeps.keys]
    rfl
  · rw [grown, List.nodup_append]
    refine ⟨keeps.once, List.nodup_singleton _, ?_⟩
    intro key held other isPath same
    rw [List.mem_singleton] at isPath
    exact (find?_eq_none_iff shelf path).1 missing (isPath ▸ same ▸ held)

/-- A request for a text adds what it fetched. -/
theorem got (keeps : shelf.Keeps fetched) (disk : Disk) (relative : FilePath) :
    (shelf.got disk relative).2.Keeps
      (fetched ++
        (Fetch.ofAnswer? (shelf.pathOf relative) disk (shelf.got disk relative).1).toList) := by
  cases known : shelf.find? (shelf.pathOf relative) with
  | some text =>
      rw [got_of_find? disk known]
      exact keeps.again disk known
  | none =>
      cases read : disk.readText (shelf.pathOf relative) with
      | ok text =>
          rw [got_of_readText known read]
          exact keeps.keep known read
      | error e =>
          rw [got_of_error known read]
          show shelf.Keeps (fetched ++ [])
          rw [List.append_nil]
          exact keeps

end Keeps
end Shelf
end TripCards
