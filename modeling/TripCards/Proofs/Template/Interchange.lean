/-
Scopes that a template cannot tell apart.

A template does three things with what a path leads to: it shows it, it asks whether it holds, and it
repeats a body for its items. `SameUse` says that two findings come to the same in all three. If the
paths of a template lead to such findings in two scopes, and still do so with an item laid over both,
then both scopes fill it alike: `Node.renderAll_eq_of_indistinct`. This is the one induction on
templates for all of that; which scopes are related, and how, is left to those who use it.
-/
import Mathlib.Data.List.Forall2
import TripCards.Proofs.Template.Copying

namespace TripCards

/-! Lists that are alike item by item -/

section

variable {α β γ ε : Type} {R : α → β → Prop} {items : List α} {others : List β}

theorem forall₂_zipIdx (h : List.Forall₂ R items others) (start : Nat) :
    List.Forall₂ (fun a b => R a.1 b.1 ∧ a.2 = b.2) (items.zipIdx start)
      (others.zipIdx start) := by
  induction h generalizing start with
  | nil => exact .nil
  | cons head _ ih => exact .cons ⟨head, rfl⟩ (ih (start + 1))

/-- Two folds go side by side where their steps agree on items that are related. -/
theorem foldlM_eq_of_forall₂ {step : γ → α → Except ε γ} {other : γ → β → Except ε γ}
    (hstep : ∀ a b, R a b → ∀ state, step state a = other state b)
    (h : List.Forall₂ R items others) (state : γ) :
    items.foldlM step state = others.foldlM other state := by
  induction h generalizing state with
  | nil => rfl
  | cons head _ ih =>
    rw [List.foldlM_cons, List.foldlM_cons, hstep _ _ head]
    exact bind_congr ih

end

/-! What is found, and what is made of it -/

/-- Two findings come to the same for a template: they are shown alike, both hold or neither does, and
the items of one are those of the other, up to what makes items `Alike`. -/
structure SameUse (Alike : Value → Value → Prop) (found other : Option Value) : Prop where
  shown : ∀ path, Node.slotText path found = Node.slotText path other
  holds : found.any Value.holds = other.any Value.holds
  items : Option.Rel (List.Forall₂ Alike) (found.bind Value.items?) (other.bind Value.items?)

theorem SameUse.refl (found : Option Value) : SameUse Eq found found where
  shown _ := rfl
  holds := rfl
  items := by
    cases found.bind Value.items? with
    | none => exact .none
    | some items => exact .some (List.forall₂_refl items)

namespace Node

mutual

/-- The first names of the paths of a node and of all nodes in it. -/
def names : Node → List String
  | text _ => []
  | slot path => [path.head]
  | block _ path body => path.head :: namesOfAll body

def namesOfAll : List Node → List String
  | [] => []
  | node :: nodes => node.names ++ namesOfAll nodes

end

end Node

/-- The first names of the paths of a template. -/
def Template.names (template : Template) : List String :=
  Node.namesOfAll template.nodes

/-- Paths that begin with one of the names come to the same in related scopes, and in those that lie
within them. -/
structure Scope.Indistinct (names : List String) (Alike : Value → Value → Prop)
    (Related : Scope → Scope → Prop) : Prop where
  sameUse : ∀ {scope other}, Related scope other → ∀ path : Path, path.head ∈ names →
    SameUse Alike (scope.resolve path) (other.resolve path)
  item : ∀ {scope other}, Related scope other → ∀ {value like}, Alike value like →
    ∀ index count, Related (.item value index count scope) (.item like index count other)

namespace Node

variable {names : List String} {Alike : Value → Value → Prop} {Related : Scope → Scope → Prop}

/- The scopes change on the way into a repetition, so they are general here. The names are not: those
of a body are among those of its block. -/
mutual

theorem render_eq_of_indistinct (h : Scope.Indistinct names Alike Related) {scope other : Scope}
    (related : Related scope other) (out : String) (node : Node)
    (within : ∀ name ∈ node.names, name ∈ names) :
    node.render scope out = node.render other out := by
  cases node with
  | text s => rfl
  | slot path =>
    have use := h.sameUse related path (within _ List.mem_cons_self)
    have shown (scope : Scope) : (slot path).render scope out =
        (slotText path (scope.resolve path)).map (out ++ ·) := by
      rw [render]
      exact append_slotText path (scope.resolve path) out
    rw [shown, shown, use.shown path]
  | block kind path body =>
    have use := h.sameUse related path (within _ List.mem_cons_self)
    have inBody : ∀ name ∈ namesOfAll body, name ∈ names :=
      fun name mem => within name (List.mem_cons_of_mem _ mem)
    cases kind with
    | conditional =>
      rw [render, render, use.holds, renderAll_eq_of_indistinct h related out body inBody]
    | «repeated» =>
      rw [render, render]
      have items := use.items
      generalize (scope.resolve path).bind Value.items? = found at items ⊢
      generalize (other.resolve path).bind Value.items? = like at items ⊢
      cases items with
      | none => rfl
      | @some items others alike =>
        refine foldlM_eq_of_forall₂ ?_ (forall₂_zipIdx alike 0) out
        rintro ⟨item, index⟩ ⟨like, _⟩ ⟨hitem, rfl⟩ out
        rw [alike.length_eq]
        exact renderAll_eq_of_indistinct h (h.item related hitem index others.length) out body inBody

theorem renderAll_eq_of_indistinct (h : Scope.Indistinct names Alike Related) {scope other : Scope}
    (related : Related scope other) (out : String) (nodes : List Node)
    (within : ∀ name ∈ namesOfAll nodes, name ∈ names) :
    renderAll scope out nodes = renderAll other out nodes := by
  cases nodes with
  | nil => rfl
  | cons node nodes =>
    have first := render_eq_of_indistinct h related out node
      fun name mem => within name (List.mem_append_left _ mem)
    rw [renderAll, renderAll, first]
    cases node.render other out with
    | error fault => rfl
    | ok next =>
      exact renderAll_eq_of_indistinct h related next nodes
        fun name mem => within name (List.mem_append_right _ mem)

end

end Node

/-- Data that is related as the root of a scope fills a template alike. -/
theorem Template.fill_eq_of_indistinct (template : Template) {fields others : Fields}
    {Alike : Value → Value → Prop} {Related : Scope → Scope → Prop}
    (h : Scope.Indistinct template.names Alike Related)
    (related : Related (.root fields) (.root others)) :
    template.fill fields = template.fill others := by
  rw [fill, fill, render, render,
    Node.renderAll_eq_of_indistinct h related "" template.nodes fun _ mem => mem]

end TripCards
