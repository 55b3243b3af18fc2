/-
Filling a template by copying the data.

`Node.copied` says what a node stands for without scopes and without an output to add to: the body
of a repetition is read once for each item with a full copy of the data, changed for that item, and
the texts of the parts are put together afterwards. It is the meaning of templates; `Node.render`
is the way they are filled. The theorem this file exists for is `fill_eq_copied`: both give the same
text, or report the same fault.
-/
import TripCards.Card
import TripCards.Proofs.Scope.Merged

namespace TripCards
namespace Node

/-- What a slot stands for. A path that leads to nothing stands for nothing. -/
def slotText (path : Path) : Option Value → Except Unprintable String
  | none => .ok ""
  | some (.text s) => .ok s
  | some (.number n) => .ok n.cardText
  | some (.boolean true) => .ok "true"
  | some (.boolean false) => .ok "false"
  | some (.mapping _) => .error ⟨path, .mapping⟩
  | some (.sequence _) => .error ⟨path, .sequence⟩

/-- A condition is met by all that is found, but for the empty text, a zero and `false`. -/
def isMet : Option Value → Bool
  | none => false
  | some (.text s) => s != ""
  | some (.number n) => !n.isZero
  | some (.boolean b) => b != false
  | some (.mapping _) => true
  | some (.sequence _) => true

mutual

/-- What a node stands for, given plain data. -/
def copied (fields : Fields) : Node → Except Unprintable String
  | text s => .ok s
  | slot path => slotText path (fields.resolve path)
  | block .conditional path body =>
    if isMet (fields.resolve path) then copiedAll fields body else .ok ""
  | block .repeated path body =>
    match fields.resolve path with
    | some (.sequence items) =>
      (items.zipIdx.mapM fun (item, index) =>
        copiedAll (fields.forItem item index items.length) body).map String.join
    | _ => .ok ""

def copiedAll (fields : Fields) : List Node → Except Unprintable String
  | [] => .ok ""
  | node :: nodes => do
    let first ← node.copied fields
    let rest ← copiedAll fields nodes
    return first ++ rest

end

theorem any_holds (found : Option Value) : found.any Value.holds = isMet found := by
  cases found with
  | none => rfl
  | some value =>
    cases value with
    | text s =>
      show (!s.isEmpty) = !(s == "")
      rw [Bool.not_inj_iff, Bool.eq_iff_iff, String.isEmpty_iff, beq_iff_eq]
    | boolean b => cases b <;> rfl
    | number | mapping | sequence => rfl

theorem append_slotText (path : Path) (found : Option Value) (out : String) :
    (match found with
      | none => .ok out
      | some value => (value.shown path).map (out ++ ·)) =
      (slotText path found).map (out ++ ·) := by
  cases found with
  | none => exact congrArg Except.ok String.append_empty.symm
  | some value =>
    cases value with
    | boolean b => cases b <;> rfl
    | text | number | mapping | sequence => rfl

/-- A fold that adds a part of each item to the output gives the parts put together. The first item
without a part ends both. -/
theorem foldlM_append_eq_join {β ε : Type} {part : β → Except ε String}
    {add : String → β → Except ε String} (h : ∀ out b, add out b = (part b).map (out ++ ·))
    (items : List β) (out : String) :
    items.foldlM add out =
      (items.mapM part).map fun parts => out ++ String.join parts := by
  induction items generalizing out with
  | nil =>
    rw [List.foldlM_nil, List.mapM_nil]
    exact congrArg Except.ok (String.append_empty).symm
  | cons b rest ih =>
    rw [List.foldlM_cons, List.mapM_cons, h]
    cases part b with
    | error e => rfl
    | ok s =>
      show rest.foldlM add (out ++ s) = _
      rw [ih]
      show _ = Except.map _ ((rest.mapM part).bind _)
      cases rest.mapM part with
      | error e => rfl
      | ok parts =>
        show Except.ok (out ++ s ++ String.join parts) = Except.ok (out ++ String.join (s :: parts))
        rw [String.join_cons, String.append_assoc]

/- Rendering adds to an output that is there already, and `copied` starts from nothing, so the two
are compared over every output. The scope changes on the way into a repetition; its merged fields
are by definition the copy that `copied` makes there, so nothing has to be assumed about it. -/
mutual

theorem render_eq_copied (scope : Scope) (out : String) (node : Node) :
    node.render scope out = (node.copied scope.merged).map (out ++ ·) := by
  have nothing : Except.ok out = (Except.ok "" : Except Unprintable String).map (out ++ ·) :=
    congrArg Except.ok String.append_empty.symm
  cases node with
  | text s => rfl
  | slot path =>
    rw [copied, ← scope.resolve_eq_resolve_merged, render]
    exact append_slotText path (scope.resolve path) out
  | block kind path body =>
    have hbody := fun inner out => renderAll_eq_copiedAll inner out body
    cases kind with
    | conditional =>
      rw [render, copied, any_holds, scope.resolve_eq_resolve_merged]
      cases isMet (scope.merged.resolve path) with
      | true => exact hbody scope out
      | false => exact nothing
    | «repeated» =>
      simp only [render, copied, scope.resolve_eq_resolve_merged]
      cases scope.merged.resolve path with
      | none => exact nothing
      | some value =>
        cases value with
        | text | number | boolean | mapping => exact nothing
        | sequence items =>
          show items.zipIdx.foldlM _ out = Except.map _ (Except.map _ (items.zipIdx.mapM _))
          rw [foldlM_append_eq_join fun out entry =>
            hbody (.item entry.1 entry.2 items.length scope) out]
          show Except.map _ (items.zipIdx.mapM fun entry =>
            copiedAll (scope.merged.forItem entry.1 entry.2 items.length) body) = _
          cases items.zipIdx.mapM fun entry =>
              copiedAll (scope.merged.forItem entry.1 entry.2 items.length) body with
          | error e => rfl
          | ok parts => rfl

theorem renderAll_eq_copiedAll (scope : Scope) (out : String) (nodes : List Node) :
    renderAll scope out nodes = (copiedAll scope.merged nodes).map (out ++ ·) := by
  cases nodes with
  | nil => exact congrArg Except.ok String.append_empty.symm
  | cons node nodes =>
    rw [renderAll, copiedAll, render_eq_copied scope out node]
    cases node.copied scope.merged with
    | error e => rfl
    | ok first =>
      show renderAll scope (out ++ first) nodes = Except.map _ ((copiedAll _ nodes).bind _)
      rw [renderAll_eq_copiedAll scope (out ++ first) nodes]
      cases copiedAll scope.merged nodes with
      | error e => rfl
      | ok rest => exact congrArg Except.ok String.append_assoc

end

end Node

namespace Template

/-- What a template stands for, given the data of a card. -/
def copied (template : Template) (fields : Fields) : Except CardError String :=
  match Node.copiedAll fields template.nodes with
  | .ok text => .ok text
  | .error fault => .error (.unprintable fault)

/-- Filling a template from a chain of scopes and one growing output gives what the template stands
for, or the fault that comes first in it. -/
theorem fill_eq_copied (template : Template) (fields : Fields) :
    template.fill fields = template.copied fields := by
  rw [fill, render, Node.renderAll_eq_copiedAll, copied]
  show Except.mapError _ (Except.map _ (Node.copiedAll fields template.nodes)) = _
  cases Node.copiedAll fields template.nodes with
  | error fault => rfl
  | ok text => exact congrArg Except.ok String.empty_append

end Template
end TripCards
