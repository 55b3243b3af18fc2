/-
Where the text of a card comes from.

`Node.trace` fills a template as `Node.render` does, but keeps apart what it puts together: literal
text, numbers and truth values, and texts of the data. What it does depends on a text of the data
only by whether that is empty. `render_mapTexts` says so: with other texts in the data, rendering
puts together the same parts with the other texts in their places, or reports the same fault. So a
text of the data is shown or not, and is never read as a part of the template.
-/
import TripCards.Card
import TripCards.Proofs.Outcome
import TripCards.Proofs.Scope.Retexted

namespace TripCards

/-- A part of a card. -/
inductive CardPart where
  | literal (s : String)
  | number (n : Number)
  | truth (b : Bool)
  | data (s : String)

namespace CardPart

/-- The text of a part, with `f` applied to the texts of the data. -/
def spelled (f : String → String) : CardPart → String
  | literal s => s
  | number n => n.cardText
  | truth b => if b then "true" else "false"
  | data s => f s

def spelledAll (f : String → String) (parts : List CardPart) : String :=
  String.join (parts.map (spelled f))

theorem spelledAll_append (f : String → String) (parts : List CardPart) (part : CardPart) :
    spelledAll f (parts ++ [part]) = spelledAll f parts ++ part.spelled f := by
  simp [spelledAll, String.join_append]

/-- What a value is shown as under a path. -/
def ofValue (path : Path) : Value → Except Unprintable CardPart
  | .text s => .ok (data s)
  | .number n => .ok (number n)
  | .boolean b => .ok (truth b)
  | .mapping _ => .error ⟨path, .mapping⟩
  | .sequence _ => .error ⟨path, .sequence⟩

theorem shown_mapTexts (f : String → String) (path : Path) (value : Value) :
    (value.mapTexts f).shown path = (ofValue path value).map (spelled f) := by
  cases value <;> rfl

end CardPart

namespace Node

mutual

/-- The parts so far, with what the node adds to them. -/
def trace (scope : Scope) (parts : List CardPart) : Node → Except Unprintable (List CardPart)
  | text s => .ok (parts ++ [.literal s])
  | slot path =>
    match scope.resolve path with
    | none => .ok parts
    | some value => (CardPart.ofValue path value).map fun part => parts ++ [part]
  | block .conditional path body =>
    if (scope.resolve path).any Value.holds then traceAll scope parts body else .ok parts
  | block .repeated path body =>
    match (scope.resolve path).bind Value.items? with
    | none => .ok parts
    | some items =>
      let count := items.length
      items.zipIdx.foldlM (fun parts (item, index) =>
        traceAll (.item item index count scope) parts body) parts

def traceAll (scope : Scope) (parts : List CardPart) :
    List Node → Except Unprintable (List CardPart)
  | [] => .ok parts
  | node :: nodes =>
    match node.trace scope parts with
    | .error e => .error e
    | .ok parts => traceAll scope parts nodes

end

/-! Rendering spells what tracing finds -/

/-- Two folds go side by side where each step of one is the image of a step of the other. -/
theorem foldlM_eq_map_foldlM {α β γ δ ε : Type} {image : γ → δ} {change : α → β}
    {step : γ → α → Except ε γ} {other : δ → β → Except ε δ}
    (h : ∀ state a, other (image state) (change a) = (step state a).map image)
    (items : List α) (state : γ) :
    (items.map change).foldlM other (image state) = (items.foldlM step state).map image := by
  induction items generalizing state with
  | nil => rfl
  | cons a items ih =>
    rw [List.map_cons, List.foldlM_cons, List.foldlM_cons, h]
    cases step state a with
    | error e => rfl
    | ok next => exact ih next

/- The scope and the output change on the way, so both are general here. Which blocks are entered is
decided by what holds and by what is a sequence, and `f` changes neither. -/
mutual

theorem render_mapTexts {f : String → String} (hf : ∀ s, f s = "" ↔ s = "")
    (scope : Scope) (parts : List CardPart) (node : Node) :
    node.render (scope.mapTexts f) (CardPart.spelledAll f parts) =
      (node.trace scope parts).map (CardPart.spelledAll f) := by
  cases node with
  | text s => exact congrArg Except.ok (CardPart.spelledAll_append f parts (.literal s)).symm
  | slot path =>
    rw [render, trace, Scope.resolve_mapTexts]
    cases scope.resolve path with
    | none => rfl
    | some value =>
      show Except.map _ ((value.mapTexts f).shown path) = Except.map _ (Except.map _ _)
      rw [CardPart.shown_mapTexts]
      cases CardPart.ofValue path value with
      | error e => rfl
      | ok part => exact congrArg Except.ok (CardPart.spelledAll_append f parts part).symm
  | block kind path body =>
    have hbody := fun inner parts => renderAll_mapTexts hf inner parts body
    cases kind with
    | conditional =>
      have holds : ((scope.resolve path).map (Value.mapTexts f)).any Value.holds =
          (scope.resolve path).any Value.holds := by
        cases scope.resolve path with
        | none => rfl
        | some value => exact Value.holds_mapTexts hf value
      rw [render, trace, Scope.resolve_mapTexts, holds]
      cases (scope.resolve path).any Value.holds with
      | true => exact hbody scope parts
      | false => rfl
    | «repeated» =>
      have items : ((scope.resolve path).map (Value.mapTexts f)).bind Value.items? =
          ((scope.resolve path).bind Value.items?).map (List.map (Value.mapTexts f)) := by
        cases scope.resolve path with
        | none => rfl
        | some value => exact value.items?_mapTexts f
      rw [render, trace, Scope.resolve_mapTexts, items]
      cases (scope.resolve path).bind Value.items? with
      | none => rfl
      | some items =>
        simp only [Option.map_some, List.length_map, List.zipIdx_map]
        exact foldlM_eq_map_foldlM
          (fun parts entry => hbody (.item entry.1 entry.2 items.length scope) parts) _ parts

theorem renderAll_mapTexts {f : String → String} (hf : ∀ s, f s = "" ↔ s = "")
    (scope : Scope) (parts : List CardPart) (nodes : List Node) :
    renderAll (scope.mapTexts f) (CardPart.spelledAll f parts) nodes =
      (traceAll scope parts nodes).map (CardPart.spelledAll f) := by
  cases nodes with
  | nil => rfl
  | cons node nodes =>
    rw [renderAll, traceAll, render_mapTexts hf scope parts node]
    cases node.trace scope parts with
    | error e => rfl
    | ok parts => exact renderAll_mapTexts hf scope parts nodes

end

/-! What the parts are -/

/-- The text is literal text of the node, or of a node in its body, at any depth. -/
inductive Says (s : String) : Node → Prop where
  | text : Says s (.text s)
  | block {kind : BlockKind} {path : Path} {node : Node} {body : List Node} :
      node ∈ body → Says s node → Says s (.block kind path body)

end Node

namespace CardPart

/-- The part is literal text of the nodes, or a text that the scope sees, or no text of either. -/
def StemsFrom (scope : Scope) (nodes : List Node) : CardPart → Prop
  | literal s => ∃ node ∈ nodes, node.Says s
  | number _ => True
  | truth _ => True
  | data s => scope.Has s

theorem StemsFrom.mono {scope inner : Scope} {nodes others : List Node} {part : CardPart}
    (hscope : ∀ s, inner.Has s → scope.Has s)
    (hnodes : ∀ s, (∃ node ∈ others, node.Says s) → ∃ node ∈ nodes, node.Says s)
    (h : part.StemsFrom inner others) : part.StemsFrom scope nodes := by
  cases part with
  | literal s => exact hnodes s h
  | number | truth => trivial
  | data s => exact hscope s h

end CardPart

namespace Node

/-- A fold that succeeds keeps what each step keeps. -/
theorem foldlM_keeps {α γ ε : Type} (Keeps : γ → Prop) {step : γ → α → Except ε γ}
    {items : List α}
    (h : ∀ a ∈ items, ∀ state next, step state a = .ok next → Keeps state → Keeps next)
    {state last : γ} (hfold : items.foldlM step state = .ok last) (hstate : Keeps state) :
    Keeps last := by
  induction items generalizing state with
  | nil =>
    obtain rfl := Except.ok.inj hfold
    exact hstate
  | cons a items ih =>
    rw [List.foldlM_cons] at hfold
    cases hstep : step state a with
    | error e =>
      rw [hstep] at hfold
      cases hfold
    | ok next =>
      rw [hstep] at hfold
      refine ih (fun b hb => h b (List.mem_cons_of_mem _ hb)) hfold ?_
      exact h a List.mem_cons_self state next hstep hstate

mutual

/-- What a node adds to the parts stems from the node and the scope. -/
theorem stemsFrom_of_trace (scope : Scope) (parts : List CardPart) (node : Node)
    {traced : List CardPart} (h : node.trace scope parts = .ok traced) :
    ∀ part ∈ traced, part ∈ parts ∨ part.StemsFrom scope [node] := by
  cases node with
  | text s =>
    obtain rfl := Except.ok.inj h
    intro part mem
    rcases List.mem_append.mp mem with mem | mem
    · exact Or.inl mem
    · rw [List.mem_singleton.mp mem]
      exact Or.inr ⟨_, List.mem_cons_self, .text⟩
  | slot path =>
    rw [trace] at h
    split at h
    · obtain rfl := Except.ok.inj h
      exact fun part mem => Or.inl mem
    · rename_i value resolved
      obtain ⟨shown, isShown, rfl⟩ := map_eq_ok_iff.mp h
      intro part mem
      rcases List.mem_append.mp mem with mem | mem
      · exact Or.inl mem
      · rw [List.mem_singleton.mp mem]
        right
        cases value with
        | text s =>
          obtain rfl := Except.ok.inj isShown
          exact Scope.Has.of_resolve resolved .text
        | number n =>
          obtain rfl := Except.ok.inj isShown
          trivial
        | boolean b =>
          obtain rfl := Except.ok.inj isShown
          trivial
        | mapping | sequence => cases isShown
  | block kind path body =>
    have inBlock (s : String) (h : ∃ node ∈ body, node.Says s) :
        ∃ node ∈ [block kind path body], node.Says s := by
      obtain ⟨node, mem, bodySays⟩ := h
      exact ⟨_, List.mem_cons_self, .block mem bodySays⟩
    cases kind with
    | conditional =>
      rw [trace] at h
      split at h
      · intro part mem
        rcases stemsFrom_of_traceAll scope parts body h part mem with old | new
        · exact Or.inl old
        · exact Or.inr (new.mono (fun _ h => h) inBlock)
      · obtain rfl := Except.ok.inj h
        exact fun part mem => Or.inl mem
    | «repeated» =>
      rw [trace] at h
      split at h
      · obtain rfl := Except.ok.inj h
        exact fun part mem => Or.inl mem
      · rename_i items resolved
        rw [Option.bind_eq_some_iff] at resolved
        obtain ⟨value, resolved, isSequence⟩ := resolved
        refine foldlM_keeps (fun traced => ∀ part ∈ traced, part ∈ parts ∨
          part.StemsFrom scope [block .repeated path body]) ?_ h fun part mem => Or.inl mem
        rintro ⟨item, index⟩ mem before after hstep hbefore part hpart
        rcases stemsFrom_of_traceAll _ before body hstep part hpart with old | new
        · exact hbefore part old
        · refine Or.inr (new.mono ?_ inBlock)
          rintro s (ofItem | ofOuter)
          · cases value with
            | sequence values =>
              obtain rfl := Option.some.inj isSequence
              refine .of_resolve resolved (.item ?_ ofItem)
              exact (List.mem_zipIdx' mem).2 ▸ List.getElem_mem _
            | text | number | boolean | mapping => cases isSequence
          · exact ofOuter

theorem stemsFrom_of_traceAll (scope : Scope) (parts : List CardPart) (nodes : List Node)
    {traced : List CardPart} (h : traceAll scope parts nodes = .ok traced) :
    ∀ part ∈ traced, part ∈ parts ∨ part.StemsFrom scope nodes := by
  cases nodes with
  | nil =>
    obtain rfl := Except.ok.inj h
    exact fun part mem => Or.inl mem
  | cons node nodes =>
    rw [traceAll] at h
    split at h
    · cases h
    · rename_i next hnode
      intro part mem
      rcases stemsFrom_of_traceAll scope next nodes h part mem with mem | new
      · rcases stemsFrom_of_trace scope parts node hnode part mem with old | new
        · exact Or.inl old
        · refine Or.inr (new.mono (fun _ h => h) fun s => ?_)
          rintro ⟨first, mem, firstSays⟩
          exact ⟨first, List.mem_singleton.mp mem ▸ List.mem_cons_self, firstSays⟩
      · refine Or.inr (new.mono (fun _ h => h) fun s => ?_)
        rintro ⟨other, mem, otherSays⟩
        exact ⟨other, List.mem_cons_of_mem _ mem, otherSays⟩

end

end Node

namespace Template

/-- A card is made of parts that do not depend on what the texts of the data say. -/
theorem fill_mapTexts (template : Template) (fields : Fields) :
    (∀ card, template.fill fields = .ok card →
      ∃ parts : List CardPart, (∀ part ∈ parts, part.StemsFrom (.root fields) template.nodes) ∧
        card = CardPart.spelledAll id parts ∧
        ∀ f : String → String, (∀ s, f s = "" ↔ s = "") →
          template.fill (fields.mapTexts f) = .ok (CardPart.spelledAll f parts)) ∧
    ∀ fault, template.fill fields = .error fault →
      (∃ unprintable, fault = .unprintable unprintable) ∧
      ∀ f : String → String, (∀ s, f s = "" ↔ s = "") →
        template.fill (fields.mapTexts f) = .error fault := by
  have filled (f : String → String) (hf : ∀ s, f s = "" ↔ s = "") :
      template.fill (fields.mapTexts f) =
        ((Node.traceAll (.root fields) [] template.nodes).map (CardPart.spelledAll f)).mapError
          .unprintable :=
    congrArg (Except.mapError _) (Node.renderAll_mapTexts hf (.root fields) [] template.nodes)
  have unchanged : fields.mapTexts id = fields := by
    rw [← Value.mapTextsOfFields_eq, Value.mapTextsOfFields_id]
  have here := filled id fun _ => Iff.rfl
  rw [unchanged] at here
  cases traced : Node.traceAll (.root fields) [] template.nodes with
  | error unprintable =>
    rw [traced] at here
    constructor
    · intro card h
      rw [here] at h
      cases h
    · intro fault h
      rw [here] at h
      obtain rfl := Except.error.inj h
      refine ⟨⟨unprintable, rfl⟩, fun f hf => ?_⟩
      rw [filled f hf, traced]
      rfl
  | ok parts =>
    rw [traced] at here
    constructor
    · intro card h
      rw [here] at h
      obtain rfl := Except.ok.inj h
      refine ⟨parts, ?_, rfl, fun f hf => ?_⟩
      · intro part mem
        rcases Node.stemsFrom_of_traceAll _ _ _ traced part mem with old | new
        · cases old
        · exact new
      · rw [filled f hf, traced]
        rfl
    · intro fault h
      rw [here] at h
      cases h

/-- A text that is spelled like a tag, and a value that has no text. -/
def tagLike : Fields :=
  [("x", .text (braced "y")), ("y", .text "z"), ("m", .mapping [])]

/-- Every text but the empty one becomes one that is spelled like the tag of a block. -/
def blockLike (s : String) : String :=
  if s = "" then "" else braced "#each y"

theorem fill_tagLike :
    let shown : Template :=
      ⟨[.block .conditional ⟨"x", []⟩ [.text "<", .slot ⟨"x", []⟩, .text ">"]]⟩
    let failing : Template := ⟨[.slot ⟨"x", []⟩, .slot ⟨"m", []⟩]⟩
    (∃ parts, "<\x7b\x7by\x7d\x7d>" = CardPart.spelledAll id parts ∧
      shown.fill (tagLike.mapTexts blockLike) = .ok (CardPart.spelledAll blockLike parts)) ∧
    failing.fill (tagLike.mapTexts blockLike) =
      .error (.unprintable ⟨⟨"m", []⟩, .mapping⟩) := by
  intro shown failing
  have keepsEmpty (s : String) : blockLike s = "" ↔ s = "" := by
    rw [blockLike]
    split
    · rename_i h
      exact iff_of_true rfl h
    · rename_i h
      exact iff_of_false (by decide) h
  have isShown : shown.fill tagLike = .ok "<\x7b\x7by\x7d\x7d>" := rfl
  have fails : failing.fill tagLike = .error (.unprintable ⟨⟨"m", []⟩, .mapping⟩) := rfl
  constructor
  · obtain ⟨parts, -, spelled, changed⟩ := (fill_mapTexts shown tagLike).1 _ isShown
    exact ⟨parts, spelled, changed blockLike keepsEmpty⟩
  · exact ((fill_mapTexts failing tagLike).2 _ fails).2 blockLike keepsEmpty

end Template
end TripCards
