/-
Entries of which no two have the same name.

Such entries are as good as a set of them: a name is looked up to the one entry that has it, in
whatever order they come, `get?_of_perm`.
-/
import TripCards.Entries

namespace TripCards
namespace Entries

variable {α : Type}

theorem get?_eq_none_iff {entries : Entries α} {name : String} :
    get? entries name = none ↔ name ∉ names entries := by
  induction entries with
  | nil => simp [names]
  | cons entry rest ih =>
    obtain ⟨key, value⟩ := entry
    rw [get?_cons, names, List.map_cons, List.mem_cons, not_or, ← names, ← ih]
    by_cases same : key = name
    · rw [if_pos same]
      exact iff_of_false (Option.some_ne_none value) fun h => h.1 same.symm
    · rw [if_neg same]
      exact ⟨fun h => ⟨Ne.symm same, h⟩, And.right⟩

theorem distinct_nil : Distinct ([] : Entries α) :=
  List.nodup_nil

theorem distinct_cons_iff {entry : String × α} {rest : Entries α} :
    Distinct (entry :: rest) ↔ entry.1 ∉ names rest ∧ Distinct rest := by
  rw [Distinct, names, List.map_cons, List.nodup_cons]
  rfl

/-- Every entry is found under its name. -/
theorem Distinct.get?_eq_some_iff {entries : Entries α} (h : Distinct entries) {name : String}
    {value : α} : get? entries name = some value ↔ (name, value) ∈ entries := by
  refine ⟨mem_of_get?_eq_some, fun mem => ?_⟩
  induction entries with
  | nil => cases mem
  | cons entry rest ih =>
    obtain ⟨key, old⟩ := entry
    obtain ⟨fresh, hrest⟩ := distinct_cons_iff.mp h
    rw [get?_cons]
    rcases List.mem_cons.mp mem with here | there
    · obtain ⟨rfl, rfl⟩ := Prod.mk.inj here
      rw [if_pos rfl]
    · have other : key ≠ name := by
        rintro rfl
        exact fresh (List.mem_map.mpr ⟨_, there, rfl⟩)
      rw [if_neg other]
      exact ih hrest there

/-- The order of entries does not matter to what is found. -/
theorem Distinct.get?_of_perm {entries others : Entries α} (h : Distinct entries)
    (perm : entries.Perm others) (name : String) : get? entries name = get? others name := by
  have hothers : Distinct others := (perm.map Prod.fst).nodup h
  refine Option.ext fun value => ?_
  rw [h.get?_eq_some_iff, hothers.get?_eq_some_iff, perm.mem_iff]

end Entries
end TripCards
