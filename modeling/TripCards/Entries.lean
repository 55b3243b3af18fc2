/-
Named entries in the order in which their names first came.
-/

namespace TripCards

/-- A name occurs once. Reading a document and `Entries.put` keep it so. -/
abbrev Entries (α : Type) : Type := List (String × α)

namespace Entries

variable {α : Type}

def get? (entries : Entries α) (name : String) : Option α :=
  entries.findSome? fun (key, value) => if key = name then some value else none

def has (entries : Entries α) (name : String) : Bool :=
  (get? entries name).isSome

def names (entries : Entries α) : List String :=
  entries.map Prod.fst

/-- A value for a name that is there takes the place of the earlier one; a new name goes last. -/
def put (entries : Entries α) (name : String) (value : α) : Entries α :=
  match entries with
  | [] => [(name, value)]
  | (key, old) :: rest =>
      if key = name then (key, value) :: rest else (key, old) :: put rest name value

def putAll (entries : Entries α) (others : List (String × α)) : Entries α :=
  others.foldl (fun acc (name, value) => put acc name value) entries

/-- No name occurs twice. -/
def Distinct (entries : Entries α) : Prop :=
  (names entries).Nodup

@[simp] theorem get?_nil (name : String) : get? ([] : Entries α) name = none := rfl

@[simp] theorem get?_cons (key : String) (value : α) (rest : Entries α) (name : String) :
    get? ((key, value) :: rest) name = if key = name then some value else get? rest name := by
  by_cases h : key = name <;> simp [get?, h]

/-- What is found under a name is an entry of that name. -/
theorem mem_of_get?_eq_some {entries : Entries α} {name : String} {value : α}
    (h : get? entries name = some value) : (name, value) ∈ entries := by
  induction entries with
  | nil => cases h
  | cons entry rest ih =>
    obtain ⟨key, old⟩ := entry
    rw [get?_cons] at h
    split at h
    · rename_i same
      rw [← same, Option.some.inj h]
      exact List.mem_cons_self
    · exact List.mem_cons_of_mem _ (ih h)

theorem get?_append (entries others : Entries α) (name : String) :
    get? (entries ++ others) name = (get? entries name).or (get? others name) := by
  induction entries with
  | nil => rw [List.nil_append, get?_nil, Option.none_or]
  | cons entry rest ih =>
    obtain ⟨key, value⟩ := entry
    rw [List.cons_append, get?_cons, get?_cons, ih]
    by_cases hk : key = name
    · rw [if_pos hk, if_pos hk, Option.some_or]
    · rw [if_neg hk, if_neg hk]

theorem get?_map (f : String → α → α) (entries : Entries α) (name : String) :
    get? (entries.map fun entry => (entry.1, f entry.1 entry.2)) name =
      (get? entries name).map (f name) := by
  induction entries with
  | nil => rfl
  | cons entry rest ih =>
    obtain ⟨key, value⟩ := entry
    rw [List.map_cons, get?_cons, get?_cons, ih]
    by_cases hk : key = name
    · rw [if_pos hk, if_pos hk, hk, Option.map_some]
    · rw [if_neg hk, if_neg hk]

theorem get?_filter (keep : String → Bool) (entries : Entries α) (name : String) :
    get? (entries.filter fun entry => keep entry.1) name =
      if keep name then get? entries name else none := by
  induction entries with
  | nil => rw [List.filter_nil, get?_nil, ite_self]
  | cons entry rest ih =>
    obtain ⟨key, value⟩ := entry
    rw [List.filter_cons, get?_cons]
    by_cases hk : key = name
    · subst hk
      by_cases hkeep : keep key = true
      · rw [if_pos hkeep, get?_cons, if_pos rfl, if_pos hkeep, if_pos rfl]
      · rw [if_neg hkeep, ih, if_neg hkeep, if_neg hkeep]
    · rw [if_neg hk, ← ih]
      split
      · rw [get?_cons, if_neg hk]
      · rfl

theorem get?_put (entries : Entries α) (name : String) (value : α) (other : String) :
    get? (put entries name value) other =
      if name = other then some value else get? entries other := by
  induction entries with
  | nil => simp [put]
  | cons entry rest ih =>
    obtain ⟨key, old⟩ := entry
    by_cases hk : key = name
    · subst hk
      by_cases ho : key = other <;> simp [put, ho]
    · by_cases ho : key = other
      · subst ho
        simp [put, hk, Ne.symm hk]
      · simp [put, hk, ho, ih]

theorem names_put (entries : Entries α) (name : String) (value : α) :
    names (put entries name value) =
      if name ∈ names entries then names entries else names entries ++ [name] := by
  induction entries with
  | nil => simp [put, names]
  | cons entry rest ih =>
    obtain ⟨key, old⟩ := entry
    by_cases hk : key = name
    · simp [put, names, hk]
    · simp only [names] at ih
      simp only [put, hk, if_false, names, List.map_cons, ih, List.mem_cons, Ne.symm hk, false_or]
      split <;> simp_all

theorem Distinct.put {entries : Entries α} (h : Distinct entries) (name : String) (value : α) :
    Distinct (put entries name value) := by
  unfold Distinct at *
  rw [names_put]
  split
  · exact h
  · rename_i hn
    rw [List.nodup_append]
    refine ⟨h, by simp, ?_⟩
    intro a ha b hb
    rw [List.mem_singleton] at hb
    rintro rfl
    exact hn (hb ▸ ha)

end Entries
end TripCards
