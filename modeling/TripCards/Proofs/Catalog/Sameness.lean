/-
Data that is the same gives the same cards and the same reports.

`Value.same` looks at no order of fields and takes both zeros for one. Neither does a template, which
looks names up, nor a schema, which goes by its own rules and looks names up too. So nothing that is
made of data tells apart what `Value.same` does not: `same_congr`.
-/
import TripCards.Catalog
import TripCards.Proofs.Schema.Acceptance
import TripCards.Proofs.Template.Interchange
import TripCards.Proofs.Value.Alike

namespace TripCards

open Value (Alike)

/-! Lists that are alike item by item -/

section

variable {α β γ : Type} {R : α → β → Prop} {items : List α} {others : List β}

theorem flatMap_eq_of_forall₂ {f : α → List γ} {g : β → List γ} (hf : ∀ a b, R a b → f a = g b)
    (h : List.Forall₂ R items others) : items.flatMap f = others.flatMap g := by
  induction h with
  | nil => rfl
  | cons head _ ih => rw [List.flatMap_cons, List.flatMap_cons, hf _ _ head, ih]

end

/-! What is found, where it is alike -/

section

variable {found other : Option Value}

theorem any_holds_eq_of_rel (h : Option.Rel Alike found other) :
    found.any Value.holds = other.any Value.holds := by
  cases h with
  | none => rfl
  | some alike => exact alike.holds_eq

theorem bind_items?_of_rel (h : Option.Rel Alike found other) :
    Option.Rel (List.Forall₂ Alike) (found.bind Value.items?) (other.bind Value.items?) := by
  cases h with
  | none => exact .none
  | some alike => exact alike.items?

/-! Cards -/

theorem sameUse_of_rel (h : Option.Rel Alike found other) : SameUse Alike found other where
  shown := by
    intro path
    cases h with
    | none => rfl
    | some alike =>
      have text (value : Value) : Node.slotText path (some value) = value.shown path := by
        cases value with
        | boolean b => cases b <;> rfl
        | text | number | mapping | sequence => rfl
      rw [text, text, alike.shown_eq path]
  holds := any_holds_eq_of_rel h
  items := bind_items?_of_rel h

end

/-- Items that are alike, laid over scopes that are alike, give scopes that are alike again. -/
theorem Scope.indistinct_alike (names : List String) : Indistinct names Value.Alike Alike where
  sameUse h path _ := sameUse_of_rel (h.resolve path)
  item h _ _ alike index count := h.item alike index count

theorem Template.fill_eq_of_alike (template : Template) {fields others : Fields}
    (h : Alike (.mapping fields) (.mapping others)) :
    template.fill fields = template.fill others :=
  template.fill_eq_of_indistinct (Scope.indistinct_alike template.names) (Scope.alike_root h)

/-! Reports -/

namespace Rule

theorem boundProblems_eq_of_same (least most : Option Nat) {m n : Number}
    (h : m.same n = true) : boundProblems least most m = boundProblems least most n := by
  rw [boundProblems, boundProblems, Number.isBelow_eq_of_same h, Number.isAbove_eq_of_same h]

theorem violations_object_eq_of_alike {parts : List (FieldRule Rule)}
    (hparts : ∀ place (fields others : Fields), Alike (.mapping fields) (.mapping others) →
      violationsOfParts place fields parts = violationsOfParts place others parts)
    (place : Place) {value other : Value} (h : Alike value other) :
    violations place value (.object parts) = violations place other (.object parts) := by
  cases h with
  | mapping alike => exact hparts place _ _ (.mapping alike)
  | text | number | boolean | sequence => rfl

mutual

theorem violations_eq_of_alike (place : Place) {value other : Value} (h : Alike value other)
    (rule : Rule) : violations place value rule = violations place other rule := by
  cases rule with
  | text => cases h <;> rfl
  | webAddress => cases h <;> rfl
  | number least most =>
    cases h with
    | number same => rw [violations, violations, boundProblems_eq_of_same least most same]
    | text | boolean | mapping | sequence => rfl
  | list parts =>
    cases h with
    | @sequence items others alike =>
      rw [violations_list, violations_list]
      refine flatMap_eq_of_forall₂ ?_ (forall₂_zipIdx alike 0)
      rintro ⟨item, index⟩ ⟨like, _⟩ ⟨hitem, rfl⟩
      exact violations_object_eq_of_alike
        (fun place fields others h => violationsOfParts_eq_of_alike place h parts) _ hitem
    | text | number | boolean | mapping => rfl
  | object parts =>
    exact violations_object_eq_of_alike
      (fun place fields others h => violationsOfParts_eq_of_alike place h parts) place h

theorem violationsOfParts_eq_of_alike (place : Place) {fields others : Fields}
    (h : Alike (.mapping fields) (.mapping others)) (parts : List (FieldRule Rule)) :
    violationsOfParts place fields parts = violationsOfParts place others parts := by
  cases parts with
  | nil => rfl
  | cons part parts =>
    rw [violationsOfParts, violationsOfParts, violationsOfPart_eq_of_alike place h part,
      violationsOfParts_eq_of_alike place h parts]

theorem violationsOfPart_eq_of_alike (place : Place) {fields others : Fields}
    (h : Alike (.mapping fields) (.mapping others)) (part : FieldRule Rule) :
    violationsOfPart place fields part = violationsOfPart place others part := by
  obtain ⟨name, required, rule⟩ := part
  rw [violationsOfPart, violationsOfPart]
  rcases none_or_some_of_rel (h.field name) with ⟨hx, hy⟩ | ⟨value, like, hx, hy, alike⟩
  · rw [hx, hy]
  · rw [hx, hy]
    exact violations_eq_of_alike _ alike rule

end

end Rule

namespace Schema

theorem presenceViolations_eq_of_alike (schema : Schema) {fields others : Fields}
    (h : Alike (.mapping fields) (.mapping others)) :
    schema.presenceViolations fields = schema.presenceViolations others := by
  have holds (name : String) : (Entries.get? fields name).any Value.holds =
      (Entries.get? others name).any Value.holds :=
    any_holds_eq_of_rel (h.field name)
  have sequences (name : String) : ((Entries.get? fields name).bind Value.items?).isNone =
      ((Entries.get? others name).bind Value.items?).isNone := by
    rcases none_or_some_of_rel (bind_items?_of_rel (h.field name)) with
      ⟨hx, hy⟩ | ⟨_, _, hx, hy, -⟩
    · rw [hx, hy]
    · rw [hx, hy, Option.isNone_some, Option.isNone_some]
  simp only [presenceViolations, holds, sequences]

theorem violations_eq_of_alike (schema : Schema) {fields others : Fields}
    (h : Alike (.mapping fields) (.mapping others)) :
    schema.violations fields = schema.violations others := by
  rw [violations, violations, schema.presenceViolations_eq_of_alike h,
    Rule.violationsOfParts_eq_of_alike [] h]

end Schema

namespace Catalog

theorem violations_eq_of_alike (id : String) {fields others : Fields}
    (h : Alike (.mapping fields) (.mapping others)) :
    violations id fields = violations id others := by
  rw [violations, violations]
  cases find? id with
  | none => rfl
  | some card => exact card.schema.violations_eq_of_alike h

/-- Data that compares equal, with no name twice in a mapping, fills every template alike, or fails
to in the same way, and is reported the same of, for every card. -/
theorem same_congr {fields others : Fields} (distinct : (Value.mapping fields).AllDistinct)
    (h : Value.same (.mapping fields) (.mapping others) = true) :
    (∀ template : Template, template.fill fields = template.fill others) ∧
      ∀ id, violations id fields = violations id others := by
  have alike := Value.alike_of_same _ _ distinct h
  exact ⟨fun template => template.fill_eq_of_alike alike, fun id => violations_eq_of_alike id alike⟩

/-- A visit, with the fields of the whole and of its stop in this order, and `rating` a zero. -/
def ratedVisit (negative : Bool) : Fields :=
  [("attraction_name", .text "Louvre"), ("rating", .number (.float (.zero negative))),
    ("stops", .sequence [.mapping [("title", .text "Gallery"), ("price", .number (.whole 22))]])]

/-- The same visit with other zeros and in another order. -/
def visitRated (negative : Bool) : Fields :=
  [("stops", .sequence [.mapping [("price", .number (.whole 22)), ("title", .text "Gallery")]]),
    ("rating", .number (.float (.zero negative))), ("attraction_name", .text "Louvre")]

theorem same_congr_ratedVisit :
    let template : Template :=
      ⟨[.slot ⟨"rating", []⟩, .block .repeated ⟨"stops", []⟩ [.slot ⟨"title", []⟩]]⟩
    (Value.mapping (ratedVisit true)).AllDistinct ∧
      Value.same (.mapping (ratedVisit true)) (.mapping (visitRated false)) = true ∧
      template.fill (ratedVisit true) = template.fill (visitRated false) ∧
      violations "attraction" (ratedVisit true) = violations "attraction" (visitRated false) := by
  intro template
  have distinct : (Value.mapping (ratedVisit true)).AllDistinct := by
    refine .mapping (by rw [Entries.Distinct]; decide) ?_
    rw [ratedVisit, List.forall_mem_cons, List.forall_mem_cons, List.forall_mem_singleton]
    refine ⟨.text, .number, .sequence (List.forall_mem_singleton.mpr (.mapping ?_ ?_))⟩
    · rw [Entries.Distinct]
      decide
    · rw [List.forall_mem_cons, List.forall_mem_singleton]
      exact ⟨.text, .number⟩
  have same : Value.same (.mapping (ratedVisit true)) (.mapping (visitRated false)) = true := by
    cbv
  have congr := same_congr distinct same
  exact ⟨distinct, same, congr.1 template, congr.2 "attraction"⟩

end Catalog
end TripCards
