/-
When a template can be filled.

A template is filled unless a slot stands for a mapping or a sequence where it is reached.
`Node.Fills` says so for a node and what is in reach in it, with no output and no order among the
slots; `Template.exists_fill_iff` says that this decides whether there is a card.
-/
import TripCards.Card
import TripCards.Proofs.Outcome

namespace TripCards

/-- The values that have a text of their own. -/
def Value.hasText : Value → Bool
  | text _ => true
  | number _ => true
  | boolean _ => true
  | mapping _ => false
  | sequence _ => false

theorem Value.exists_shown_iff (value : Value) (path : Path) :
    (∃ s, value.shown path = .ok s) ↔ value.hasText = true := by
  cases value with
  | text | number | boolean => exact iff_of_true ⟨_, rfl⟩ rfl
  | mapping | sequence => exact iff_of_false (fun ⟨_, h⟩ => nomatch h) Bool.false_ne_true

namespace Node

mutual

/-- Every slot that is reached stands for a text or for nothing. -/
def Fills (scope : Scope) : Node → Prop
  | text _ => True
  | slot path => ∀ value, scope.resolve path = some value → value.hasText = true
  | block .conditional path body =>
      (scope.resolve path).any Value.holds = true → FillsAll scope body
  | block .repeated path body =>
      ∀ items, scope.resolve path = some (.sequence items) →
        ∀ entry ∈ items.zipIdx, FillsAll (.item entry.1 entry.2 items.length scope) body

def FillsAll (scope : Scope) : List Node → Prop
  | [] => True
  | node :: nodes => node.Fills scope ∧ FillsAll scope nodes

end

theorem fillsAll_iff {scope : Scope} {nodes : List Node} :
    FillsAll scope nodes ↔ ∀ node ∈ nodes, node.Fills scope := by
  induction nodes with
  | nil => exact iff_of_true trivial (List.forall_mem_nil _)
  | cons node nodes ih => rw [FillsAll, ih, List.forall_mem_cons]

/-- A fold that can always go on where it may goes on to the end. -/
theorem exists_foldlM_iff {β ε : Type} {add : String → β → Except ε String} {May : β → Prop}
    (h : ∀ out b, (∃ s, add out b = .ok s) ↔ May b) (items : List β) (out : String) :
    (∃ s, items.foldlM add out = .ok s) ↔ ∀ b ∈ items, May b := by
  induction items generalizing out with
  | nil => exact iff_of_true ⟨out, rfl⟩ (List.forall_mem_nil _)
  | cons b items ih =>
    rw [List.foldlM_cons, List.forall_mem_cons, ← h out b]
    cases add out b with
    | error e => exact iff_of_false (fun ⟨_, h⟩ => nomatch h) (fun ⟨⟨_, h⟩, _⟩ => nomatch h)
    | ok next =>
      rw [← ih next]
      exact ⟨fun h => ⟨⟨next, rfl⟩, h⟩, And.right⟩

mutual

theorem exists_render_iff (scope : Scope) (out : String) (node : Node) :
    (∃ s, node.render scope out = .ok s) ↔ node.Fills scope := by
  cases node with
  | text s => exact iff_of_true ⟨_, rfl⟩ trivial
  | slot path =>
    rw [render, Fills]
    cases scope.resolve path with
    | none => exact iff_of_true ⟨_, rfl⟩ nofun
    | some value =>
      show (∃ s, (value.shown path).map (out ++ ·) = .ok s) ↔ _
      constructor
      · rintro ⟨_, h⟩ _ ⟨⟩
        obtain ⟨s, shown, -⟩ := map_eq_ok_iff.mp h
        exact (value.exists_shown_iff path).mp ⟨s, shown⟩
      · intro h
        obtain ⟨s, shown⟩ := (value.exists_shown_iff path).mpr (h value rfl)
        exact ⟨out ++ s, map_eq_ok_iff.mpr ⟨s, shown, rfl⟩⟩
  | block kind path body =>
    have hbody := fun inner out => exists_renderAll_iff inner out body
    cases kind with
    | conditional =>
      rw [render, Fills]
      split
      · rename_i holds
        rw [hbody, holds]
        exact ⟨fun h _ => h, fun h => h rfl⟩
      · rename_i fails
        exact iff_of_true ⟨_, rfl⟩ fun holds => absurd holds fails
    | «repeated» =>
      rw [render, Fills]
      cases scope.resolve path with
      | none => exact iff_of_true ⟨_, rfl⟩ nofun
      | some value =>
        cases value with
        | text | number | boolean | mapping => exact iff_of_true ⟨_, rfl⟩ nofun
        | sequence items =>
          have hitem (out : String) (entry : Value × Nat) :=
            hbody (.item entry.1 entry.2 items.length scope) out
          refine (exists_foldlM_iff hitem items.zipIdx out).trans ?_
          constructor
          · rintro h _ ⟨⟩
            exact h
          · exact fun h => h items rfl

theorem exists_renderAll_iff (scope : Scope) (out : String) (nodes : List Node) :
    (∃ s, renderAll scope out nodes = .ok s) ↔ FillsAll scope nodes := by
  cases nodes with
  | nil => exact iff_of_true ⟨_, rfl⟩ trivial
  | cons node nodes =>
    rw [renderAll, FillsAll, ← exists_render_iff scope out node]
    cases node.render scope out with
    | error e => exact iff_of_false (fun ⟨_, h⟩ => nomatch h) (fun ⟨⟨_, h⟩, _⟩ => nomatch h)
    | ok next =>
      rw [← exists_renderAll_iff scope next nodes]
      exact ⟨fun h => ⟨⟨next, rfl⟩, h⟩, And.right⟩

end

end Node

theorem Template.exists_fill_iff (template : Template) (fields : Fields) :
    (∃ card, template.fill fields = .ok card) ↔ Node.FillsAll (.root fields) template.nodes := by
  rw [← Node.exists_renderAll_iff _ ""]
  simp only [fill, mapError_eq_ok_iff]
  rfl

end TripCards
