/-
What a template sees of its data.

A path leads on from the value of its first name, and that name is looked for in the items around
and at last in the data. So a template sees the fields of the data that its paths name first, in
blocks at any depth, and no others. `fill_eq_of_agree` says so: data that agrees on these names gives
the same card, or the same fault, whatever else it holds and in whatever order.
-/
import TripCards.Proofs.Entries.Distinct
import TripCards.Proofs.Template.Interchange

namespace TripCards

namespace Scope

/-- Two scopes give the same value to each of the names, or none. -/
def Agree (names : List String) (scope other : Scope) : Prop :=
  ∀ name ∈ names, scope.lookup name = other.lookup name

variable {names : List String} {scope other : Scope}

/-- An item hides the same names of both, and what it does not hide they agree on. -/
theorem Agree.item (h : Agree names scope other) (value : Value) (index count : Nat) :
    Agree names (.item value index count scope) (.item value index count other) := by
  intro name mem
  rw [lookup, lookup, h name mem]

theorem Agree.resolve {path : Path} (h : Agree names scope other) (mem : path.head ∈ names) :
    scope.resolve path = other.resolve path := by
  rw [Scope.resolve, h path.head mem, ← Scope.resolve]

theorem indistinct_agree (names : List String) : Indistinct names Eq (Agree names) where
  sameUse := by
    intro scope other h path mem
    rw [h.resolve mem]
    exact .refl _
  item := by
    intro scope other h value _ same index count
    rw [← same]
    exact h.item value index count

end Scope

namespace Template

theorem fill_eq_of_roots_agree (template : Template) {fields others : Fields}
    (h : Scope.Agree template.names (.root fields) (.root others)) :
    template.fill fields = template.fill others :=
  template.fill_eq_of_indistinct (Scope.indistinct_agree template.names) h

/-- Only the fields that a template names matter to it. So any other field may be set to whatever
value, or taken out, and the fields may come in any order. -/
theorem fill_eq_of_agree (template : Template) (fields : Fields) :
    (∀ others : Fields,
      (∀ name ∈ template.names, Entries.get? fields name = Entries.get? others name) →
        template.fill others = template.fill fields) ∧
    (∀ name ∉ template.names,
      (∀ value, template.fill (Entries.put fields name value) = template.fill fields) ∧
        template.fill (fields.filter fun entry => entry.1 != name) = template.fill fields) ∧
    (Entries.Distinct fields → ∀ others : Fields, fields.Perm others →
      template.fill others = template.fill fields) := by
  refine ⟨fun others h => ?_, fun name unnamed => ⟨fun value => ?_, ?_⟩, fun distinct others perm => ?_⟩
  · exact template.fill_eq_of_roots_agree fun name mem => (h name mem).symm
  · refine template.fill_eq_of_roots_agree fun other mem => ?_
    have differ : name ≠ other := fun same => unnamed (same ▸ mem)
    exact (Entries.get?_put fields name value other).trans (if_neg differ)
  · refine template.fill_eq_of_roots_agree fun other mem => ?_
    have differ : other ≠ name := fun same => unnamed (same ▸ mem)
    exact (Entries.get?_filter (fun key => key != name) fields other).trans
      (if_pos (bne_iff_ne.mpr differ))
  · exact template.fill_eq_of_roots_agree fun name _ => (distinct.get?_of_perm perm name).symm

/-- The name of the trip and the titles of its stops, of which only some have a title of their
own. -/
def stopTitles : Template :=
  ⟨[.block .repeated ⟨"days", []⟩ [.slot ⟨"trip", ["name"]⟩,
    .block .repeated ⟨"stops", []⟩ [.slot ⟨"title", []⟩]]]⟩

def plannedTrip : Fields :=
  [("title", .text "?"), ("note", .text "none"), ("trip", .mapping [("name", .text "Lyon")]),
    ("days", .sequence [.mapping [("stops", .sequence [.text "a", .mapping [("title", .text "!")]])]])]

/-- The note is not shown, nor is a map, and the order of the data is not either. -/
theorem fill_eq_of_agree_stopTitles :
    let mapped : Fields := ("map", .mapping []) :: plannedTrip.reverse
    stopTitles.fill mapped = .ok "Lyon?!" ∧
      stopTitles.fill (Entries.put plannedTrip "note" (.boolean true)) = .ok "Lyon?!" ∧
      stopTitles.fill (plannedTrip.filter fun entry => entry.1 != "note") = .ok "Lyon?!" ∧
      stopTitles.fill plannedTrip.reverse = .ok "Lyon?!" := by
  intro mapped
  have filled : stopTitles.fill plannedTrip = .ok "Lyon?!" := rfl
  have named : stopTitles.names = ["days", "trip", "stops", "title"] := rfl
  have agree : ∀ name ∈ stopTitles.names,
      Entries.get? plannedTrip name = Entries.get? mapped name := by
    rw [named, List.forall_mem_cons, List.forall_mem_cons, List.forall_mem_cons,
      List.forall_mem_singleton]
    exact ⟨rfl, rfl, rfl, rfl⟩
  have unnamed : "note" ∉ stopTitles.names := by decide
  have distinct : Entries.Distinct plannedTrip := by
    rw [Entries.Distinct]
    decide
  obtain ⟨agreeing, other, reordered⟩ := fill_eq_of_agree stopTitles plannedTrip
  exact ⟨(agreeing mapped agree).trans filled, ((other _ unnamed).1 _).trans filled,
    (other _ unnamed).2.trans filled,
    (reordered distinct _ (List.reverse_perm plannedTrip).symm).trans filled⟩

end Template
end TripCards
