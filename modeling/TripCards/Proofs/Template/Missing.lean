/-
Fields that are missing, and fields that are empty.

A template has no other use for an empty text than it has for nothing: it shows neither, neither
holds, and neither has items or fields. So data can be given an empty field in the place of one that
is missing, and no card changes, `fill_put_empty`. An item that has the field hides both.
-/
import TripCards.Proofs.Entries.Distinct
import TripCards.Proofs.Template.Interchange

namespace TripCards

/-- The same is found in two places, or nothing in the first and an empty text in the second. -/
inductive SameOrEmpty : Option Value → Option Value → Prop where
  | same (found : Option Value) : SameOrEmpty found found
  | empty : SameOrEmpty none (some (.text ""))

namespace SameOrEmpty

variable {found other : Option Value}

theorem sameUse (h : SameOrEmpty found other) : SameUse Eq found other := by
  cases h with
  | same => exact .refl found
  | empty => exact ⟨fun _ => rfl, rfl, .none⟩

/-- An empty text has no fields, so a path that goes on from it leads to nothing. -/
theorem walk (h : SameOrEmpty found other) (names : List String) :
    SameOrEmpty (found.bind (·.walk names)) (other.bind (·.walk names)) := by
  cases h with
  | same => exact .same _
  | empty =>
    cases names with
    | nil => exact .empty
    | cons name names => exact .same none

end SameOrEmpty

namespace Scope

/-- Every name leads to the same in both scopes, or to nothing in the first and to an empty text in
the second. -/
def AgreeOrEmpty (scope other : Scope) : Prop :=
  ∀ name, SameOrEmpty (scope.lookup name) (other.lookup name)

variable {scope other : Scope}

theorem AgreeOrEmpty.item (h : scope.AgreeOrEmpty other) (value : Value) (index count : Nat) :
    AgreeOrEmpty (.item value index count scope) (.item value index count other) := by
  intro name
  rw [lookup, lookup]
  cases Entries.get? (placeOf index count) name with
  | some place => exact .same _
  | none =>
    cases value.fields?.bind (Entries.get? · name) with
    | some own => exact .same _
    | none => exact h name

theorem AgreeOrEmpty.resolve (h : scope.AgreeOrEmpty other) (path : Path) :
    SameOrEmpty (scope.resolve path) (other.resolve path) :=
  (h path.head).walk path.tail

theorem indistinct_agreeOrEmpty (names : List String) : Indistinct names Eq AgreeOrEmpty where
  sameUse h path _ := (h.resolve path).sameUse
  item := by
    intro scope other h value _ same index count
    rw [← same]
    exact h.item value index count

theorem agreeOrEmpty_put {fields : Fields} {name : String}
    (missing : name ∉ Entries.names fields) :
    AgreeOrEmpty (.root fields) (.root (Entries.put fields name (.text ""))) := by
  intro other
  rw [lookup, lookup, Entries.get?_put]
  by_cases here : name = other
  · rw [if_pos here, ← here, Entries.get?_eq_none_iff.mpr missing]
    exact .empty
  · rw [if_neg here]
    exact .same _

end Scope

namespace Template

/-- A template shows the same of data that lacks a field and of data that has an empty text there, or
reports the same fault. -/
theorem fill_put_empty (template : Template) {fields : Fields} {name : String}
    (missing : name ∉ Entries.names fields) :
    template.fill (Entries.put fields name (.text "")) = template.fill fields :=
  (template.fill_eq_of_indistinct (Scope.indistinct_agreeOrEmpty template.names)
    (Scope.agreeOrEmpty_put missing)).symm

/-- A note in all the places that a path may stand in, and again for each day. -/
def notedDays : Template :=
  let note : Path := ⟨"note", []⟩
  let uses : List Node := [.slot note, .block .conditional note [.text "!"],
    .block .repeated note [.text "?"], .slot ⟨"note", ["by"]⟩]
  ⟨uses ++ [.block .repeated ⟨"days", []⟩ (.text ";" :: uses)]⟩

/-- Of two days the second has a note of its own. -/
theorem fill_put_empty_notedDays :
    let fields : Fields :=
      [("days", .sequence [.text "rest", .mapping [("note", .text "sun")]])]
    "note" ∉ Entries.names fields ∧
      notedDays.fill (Entries.put fields "note" (.text "")) = .ok ";;sun!" := by
  intro fields
  have missing : "note" ∉ Entries.names fields := by decide
  have filled : notedDays.fill fields = .ok ";;sun!" := rfl
  exact ⟨missing, (fill_put_empty notedDays missing).trans filled⟩

end Template
end TripCards
