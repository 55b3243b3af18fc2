/-
Values that are equal but for the order of their fields.

`Value.Alike` says what that is without saying how it is found out: names lead to like values in both,
sequences are alike item by item, and numbers are the same. `alike_of_same` says that values are
alike if `Value.same` finds them equal. That compares the fields of one mapping with those of the
other and counts both, which is enough as long as no name occurs twice in a mapping.

All that a card makes of values is the same for values that are alike, and what a path leads to from
them is alike again.
-/
import Mathlib
import TripCards.Proofs.Entries.Distinct
import TripCards.Proofs.Number.Same
import TripCards.Scope

namespace TripCards

/-- Related outcomes are both nothing, or related values. -/
theorem none_or_some_of_rel {α β : Type} {R : α → β → Prop} {x : Option α} {y : Option β}
    (h : Option.Rel R x y) :
    x = none ∧ y = none ∨ ∃ a b, x = some a ∧ y = some b ∧ R a b := by
  cases h with
  | none => exact Or.inl ⟨rfl, rfl⟩
  | some related => exact Or.inr ⟨_, _, rfl, rfl, related⟩

namespace Value

/-- No two fields of a mapping have the same name, at any depth in the value. -/
inductive AllDistinct : Value → Prop where
  | text {s : String} : AllDistinct (.text s)
  | number {n : Number} : AllDistinct (.number n)
  | boolean {b : Bool} : AllDistinct (.boolean b)
  | mapping {fields : Fields} : Entries.Distinct fields →
      (∀ entry ∈ fields, AllDistinct entry.2) → AllDistinct (.mapping fields)
  | sequence {items : List Value} : (∀ item ∈ items, AllDistinct item) →
      AllDistinct (.sequence items)

/-- The values are equal, whatever the order of fields and the signs of zeros. -/
inductive Alike : Value → Value → Prop where
  | text {s : String} : Alike (.text s) (.text s)
  | number {m n : Number} : m.same n = true → Alike (.number m) (.number n)
  | boolean {b : Bool} : Alike (.boolean b) (.boolean b)
  | mapping {fields others : Fields} :
      (∀ name, Option.Rel Alike (Entries.get? fields name) (Entries.get? others name)) →
      Alike (.mapping fields) (.mapping others)
  | sequence {items others : List Value} : List.Forall₂ Alike items others →
      Alike (.sequence items) (.sequence others)

/-! Values that compare equal are alike -/

/-- Fields of distinct names that all have their like among others, as many as they are, leave none
of those over. -/
theorem alike_mapping {fields others : Fields} (distinct : Entries.Distinct fields)
    (length : fields.length = others.length)
    (h : ∀ entry ∈ fields, ∃ other, Entries.get? others entry.1 = some other ∧
      Alike entry.2 other) : Alike (.mapping fields) (.mapping others) := by
  have names_subset : Entries.names fields ⊆ Entries.names others := by
    intro name mem
    obtain ⟨entry, hentry, rfl⟩ := List.mem_map.mp mem
    obtain ⟨other, found, -⟩ := h entry hentry
    exact List.mem_map.mpr ⟨_, Entries.mem_of_get?_eq_some found, rfl⟩
  have lengths : (Entries.names others).length ≤ (Entries.names fields).length := by
    rw [Entries.names, Entries.names, List.length_map, List.length_map, length]
  have perm := (List.subperm_of_subset distinct names_subset).perm_of_length_le lengths
  refine .mapping fun name => ?_
  cases found : Entries.get? fields name with
  | none =>
    rw [Entries.get?_eq_none_iff, perm.mem_iff, ← Entries.get?_eq_none_iff] at found
    rw [found]
    exact .none
  | some value =>
    obtain ⟨other, foundOther, alike⟩ := h _ (Entries.mem_of_get?_eq_some found)
    rw [foundOther]
    exact .some alike

mutual

theorem alike_of_same (value other : Value) (distinct : value.AllDistinct)
    (h : value.same other = true) : Alike value other := by
  cases value with
  | text s =>
    cases other with
    | text t =>
      rw [same, beq_iff_eq] at h
      exact h ▸ .text
    | number | boolean | mapping | sequence => simp [same] at h
  | number m =>
    cases other with
    | number n =>
      rw [same] at h
      exact .number h
    | text | boolean | mapping | sequence => simp [same] at h
  | boolean a =>
    cases other with
    | boolean b =>
      rw [same, beq_iff_eq] at h
      exact h ▸ .boolean
    | text | number | mapping | sequence => simp [same] at h
  | mapping fields =>
    cases other with
    | mapping others =>
      cases distinct with
      | mapping names values =>
        rw [same, Bool.and_eq_true, beq_iff_eq] at h
        exact alike_mapping names h.1 (alike_of_sameFields fields others values h.2)
    | text | number | boolean | sequence => simp [same] at h
  | sequence items =>
    cases other with
    | sequence others =>
      cases distinct with
      | sequence values =>
        rw [same] at h
        exact .sequence (alike_of_sameItems items others values h)
    | text | number | boolean | mapping => simp [same] at h
termination_by structural value

theorem alike_of_sameItems (items others : List Value)
    (distinct : ∀ item ∈ items, item.AllDistinct) (h : sameItems items others = true) :
    List.Forall₂ Alike items others := by
  cases items with
  | nil =>
    cases others with
    | nil => exact .nil
    | cons other others => simp [sameItems] at h
  | cons item items =>
    cases others with
    | nil => simp [sameItems] at h
    | cons other others =>
      rw [sameItems, Bool.and_eq_true] at h
      rw [List.forall_mem_cons] at distinct
      exact .cons (alike_of_same item other distinct.1 h.1)
        (alike_of_sameItems items others distinct.2 h.2)
termination_by structural items

theorem alike_of_sameFields (fields : List (String × Value)) (others : Fields)
    (distinct : ∀ entry ∈ fields, entry.2.AllDistinct) (h : sameFields fields others = true) :
    ∀ entry ∈ fields, ∃ other, Entries.get? others entry.1 = some other ∧ Alike entry.2 other := by
  cases fields with
  | nil => exact List.forall_mem_nil _
  | cons field fields =>
    rw [sameFields, Bool.and_eq_true] at h
    rw [List.forall_mem_cons] at distinct ⊢
    exact ⟨alike_of_sameField field others distinct.1 h.1,
      alike_of_sameFields fields others distinct.2 h.2⟩
termination_by structural fields

theorem alike_of_sameField (field : String × Value) (others : Fields)
    (distinct : field.2.AllDistinct) (h : sameField field others = true) :
    ∃ other, Entries.get? others field.1 = some other ∧ Alike field.2 other := by
  obtain ⟨name, value⟩ := field
  rw [sameField] at h
  split at h
  · rename_i other found
    exact ⟨other, found, alike_of_same value other distinct h⟩
  · cases h
termination_by structural field

end

/-! What is made of values that are alike -/

variable {value other : Value}

theorem Alike.holds_eq (h : Alike value other) : value.holds = other.holds := by
  cases h with
  | number same => rw [holds, holds, Number.isZero_eq_of_same same]
  | text | boolean | mapping | sequence => rfl

theorem Alike.shown_eq (h : Alike value other) (path : Path) :
    value.shown path = other.shown path := by
  cases h with
  | number same => rw [shown, shown, Number.cardText_eq_of_same same]
  | text | boolean | mapping | sequence => rfl

theorem Alike.items? (h : Alike value other) :
    Option.Rel (List.Forall₂ Alike) value.items? other.items? := by
  cases h with
  | sequence items => exact .some items
  | text | number | boolean | mapping => exact .none

theorem Alike.field {fields others : Fields} (h : Alike (.mapping fields) (.mapping others))
    (name : String) : Option.Rel Alike (Entries.get? fields name) (Entries.get? others name) := by
  cases h with
  | mapping alike => exact alike name

theorem Alike.get? (h : Alike value other) (name : String) :
    Option.Rel Alike (value.fields?.bind (Entries.get? · name))
      (other.fields?.bind (Entries.get? · name)) := by
  cases h with
  | mapping fields => exact fields name
  | text | number | boolean | sequence => exact .none

theorem Alike.walk (h : Alike value other) (names : List String) :
    Option.Rel Alike (value.walk names) (other.walk names) := by
  induction names generalizing value other with
  | nil => exact .some h
  | cons name names ih =>
    cases h with
    | text | number | boolean | sequence => exact .none
    | @mapping fields others alike =>
      rw [Value.walk, Value.walk]
      rcases none_or_some_of_rel (alike name) with ⟨hx, hy⟩ | ⟨next, like, hx, hy, here⟩
      · rw [hx, hy]
        exact .none
      · rw [hx, hy]
        exact ih here

end Value

namespace Scope

/-- Every name has like values in both scopes. -/
def Alike (scope other : Scope) : Prop :=
  ∀ name, Option.Rel Value.Alike (scope.lookup name) (other.lookup name)

theorem alike_root {fields others : Fields}
    (h : Value.Alike (.mapping fields) (.mapping others)) :
    Alike (.root fields) (.root others) :=
  fun name => h.field name

/-- The place of an item is a number and two truth values, each alike to itself. -/
theorem alike_of_get?_placeOf {index count : Nat} {name : String} {value : Value}
    (h : Entries.get? (placeOf index count) name = some value) : value.Alike value := by
  have mem := Entries.mem_of_get?_eq_some h
  simp only [placeOf, List.mem_cons, Prod.mk.injEq, List.not_mem_nil, or_false] at mem
  rcases mem with ⟨-, rfl⟩ | ⟨-, rfl⟩ | ⟨-, rfl⟩
  · exact .number (beq_self_eq_true _)
  · exact .boolean
  · exact .boolean

variable {scope other : Scope}

theorem Alike.item (h : Alike scope other) {value like : Value} (hvalue : value.Alike like)
    (index count : Nat) :
    Alike (.item value index count scope) (.item like index count other) := by
  intro name
  rw [lookup, lookup]
  cases isPlace : Entries.get? (placeOf index count) name with
  | some v => exact .some (alike_of_get?_placeOf isPlace)
  | none =>
    rcases none_or_some_of_rel (hvalue.get? name) with ⟨hx, hy⟩ | ⟨_, _, hx, hy, own⟩
    · rw [hx, hy]
      exact h name
    · rw [hx, hy]
      exact .some own

theorem Alike.resolve (h : Alike scope other) (path : Path) :
    Option.Rel Value.Alike (scope.resolve path) (other.resolve path) := by
  rw [Scope.resolve, Scope.resolve]
  rcases none_or_some_of_rel (h path.head) with ⟨hx, hy⟩ | ⟨_, _, hx, hy, here⟩
  · rw [hx, hy]
    exact .none
  · rw [hx, hy]
    exact here.walk path.tail

end Scope
end TripCards
