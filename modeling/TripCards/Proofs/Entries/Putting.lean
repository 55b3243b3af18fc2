/-
Entries with others put among them, one after the other.

A name then has the last value that was put under it, and failing that the one it had before,
`get?_putAll`. Names that were there keep their places, and those that were not come behind them in
the order in which they were first put, `names_putAll`.
-/
import TripCards.Proofs.Entries.Distinct

namespace TripCards
namespace Entries

variable {α : Type} {entries : Entries α} {others : List (String × α)}

theorem names_append (entries others : Entries α) :
    names (entries ++ others) = names entries ++ names others := List.map_append

theorem has_iff {name : String} : has entries name = true ↔ name ∈ names entries := by
  rw [has, Option.isSome_iff_ne_none, Ne, get?_eq_none_iff, Decidable.not_not]

theorem has_eq_false_iff {name : String} : has entries name = false ↔ name ∉ names entries := by
  rw [← Bool.not_eq_true, has_iff]

/-- Entries that are made of items have what the first item of a name makes. -/
theorem get?_map_mk {β : Type} (key : β → String) (value : β → α) (items : List β)
    (name : String) :
    get? (items.map fun item => (key item, value item)) name =
      (items.find? fun item => key item = name).map value := by
  induction items with
  | nil => rfl
  | cons item items ih =>
    rw [List.map_cons, get?_cons, List.find?_cons, ih]
    by_cases same : key item = name
    · simp [same]
    · simp [same]

/-- A value of the entries is an earlier one or the one that was put. -/
theorem mem_put {entry : String × α} {name : String} {value : α}
    (h : entry ∈ put entries name value) : entry ∈ entries ∨ entry.2 = value := by
  induction entries with
  | nil =>
    obtain rfl := List.mem_singleton.mp h
    exact .inr rfl
  | cons first rest ih =>
    obtain ⟨key, old⟩ := first
    rw [put] at h
    split at h
    · rcases List.mem_cons.mp h with rfl | there
      · exact .inr rfl
      · exact .inl (List.mem_cons_of_mem _ there)
    · rcases List.mem_cons.mp h with rfl | there
      · exact .inl List.mem_cons_self
      · exact (ih there).imp_left (List.mem_cons_of_mem _)

theorem forall_mem_putAll {P : α → Prop} (h : ∀ entry ∈ entries, P entry.2)
    (hothers : ∀ other ∈ others, P other.2) : ∀ entry ∈ putAll entries others, P entry.2 := by
  induction others generalizing entries with
  | nil => exact h
  | cons other others ih =>
    obtain ⟨hother, hothers⟩ := List.forall_mem_cons.mp hothers
    refine ih (fun entry mem => ?_) hothers
    rcases mem_put mem with there | put
    · exact h entry there
    · exact put ▸ hother

theorem Distinct.putAll (h : Distinct entries) (others : List (String × α)) :
    Distinct (putAll entries others) := by
  induction others generalizing entries with
  | nil => exact h
  | cons other others ih => exact ih (h.put other.1 other.2)

/-- A new name goes behind all others. -/
theorem put_eq_append {name : String} (h : name ∉ names entries) (value : α) :
    put entries name value = entries ++ [(name, value)] := by
  induction entries with
  | nil => rfl
  | cons entry rest ih =>
    obtain ⟨key, old⟩ := entry
    simp only [names, List.map_cons, List.mem_cons, not_or] at h
    rw [put, if_neg (Ne.symm h.1), ih h.2, List.cons_append]

theorem get?_putAll (entries : Entries α) (others : List (String × α)) (name : String) :
    get? (putAll entries others) name = (get? others.reverse name).or (get? entries name) := by
  induction others generalizing entries with
  | nil => rw [List.reverse_nil, get?_nil, Option.none_or]; rfl
  | cons other others ih =>
    obtain ⟨key, value⟩ := other
    have one : get? (put entries key value) name =
        (get? [(key, value)] name).or (get? entries name) := by
      rw [get?_put, get?_cons, get?_nil]
      by_cases same : key = name
      · rw [if_pos same, if_pos same, Option.some_or]
      · rw [if_neg same, if_neg same, Option.none_or]
    calc get? (putAll entries ((key, value) :: others)) name
        = (get? others.reverse name).or (get? (put entries key value) name) := ih _
      _ = ((get? others.reverse name).or (get? [(key, value)] name)).or (get? entries name) := by
        rw [one, Option.or_assoc]
      _ = (get? ((key, value) :: others).reverse name).or (get? entries name) := by
        rw [List.reverse_cons, get?_append]

theorem names_putAll (entries : Entries α) (others : List (String × α)) :
    names (putAll entries others) =
      names entries ++ ((names others).filter (· ∉ names entries)).eraseDups := by
  induction others generalizing entries with
  | nil => exact (List.append_nil _).symm
  | cons other others ih =>
    obtain ⟨key, value⟩ := other
    have step : names (putAll entries ((key, value) :: others)) = _ := ih (put entries key value)
    rw [step, names_put]
    by_cases mem : key ∈ names entries
    · rw [if_pos mem]
      congr 2
      exact (List.filter_cons_of_neg (by simpa using mem)).symm
    · have behind : (names others).filter (· ∉ names entries ++ [key]) =
          ((names others).filter (· ∉ names entries)).filter fun name => !name == key := by
        rw [List.filter_filter]
        refine List.filter_congr fun name _ => ?_
        by_cases same : name = key <;> simp [same]
      have front : (names ((key, value) :: others)).filter (· ∉ names entries) =
          key :: (names others).filter (· ∉ names entries) :=
        List.filter_cons_of_pos (by simpa using mem)
      rw [if_neg mem, front, List.eraseDups_cons, ← behind, List.append_assoc,
        List.singleton_append]

end Entries
end TripCards
