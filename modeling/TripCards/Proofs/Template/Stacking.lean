/-
Blocks on a stack.

The reader of trees calls itself for the body of a block. Here the blocks that are open are a stack
instead: an opening tag puts one on, a closing tag takes one off, and whatever does not fit is the
fault. `ofTokens_eq_error_iff` says that both readers find the same fault, or none.
-/
import TripCards.Proofs.Template.Balance

namespace TripCards

/-- The blocks that are open, the innermost one first. -/
abbrev Stack : Type := List OpenBlock

namespace Stack

/-- What a token does to the open blocks. -/
def step (opened : Stack) (token : Token) : Except (Misfit Nat) Stack :=
  match token.kind with
  | .text _ => .ok opened
  | .tag (.slot _) => .ok opened
  | .tag (.opening kind path) =>
      if opened.length < 256 then .ok (⟨kind, path, token.offset⟩ :: opened)
      else .error ⟨.tooDeep kind path, token.offset⟩
  | .tag (.closing kind) =>
      match opened with
      | [] => .error ⟨.strayClosing kind, token.offset⟩
      | block :: outer =>
        if block.kind = kind then .ok outer
        else .error ⟨.crossed kind block.kind block.path block.offset, token.offset⟩

/-- No block is open where the tokens end. -/
def finish : Stack → Except (Misfit Nat) Unit
  | [] => .ok ()
  | block :: _ => .error ⟨.unclosed block.kind block.path, block.offset⟩

/-- The tokens one after another, up to the first that does not fit. -/
def check (opened : Stack) : List Token → Except (Misfit Nat) Unit
  | [] => opened.finish
  | token :: tokens =>
      match opened.step token with
      | .error misfit => .error misfit
      | .ok opened => check opened tokens

/-- What a reader of trees found is what the stack finds: the same misfit, or the same tokens left to
be read, with the blocks left open that are around the nodes. -/
def Agrees (opened outer : Stack) (tokens : List Token) :
    Except (Misfit Nat) (List Node × Rest tokens) → Prop
  | .error misfit => opened.check tokens = .error misfit
  | .ok (_, rest) => opened.check tokens = outer.check rest

variable {opened outer : Stack} {kind : BlockKind} {path : Path} {offset : Nat} {tokens : List Token}

theorem check_opening (h : opened.length < 256) :
    opened.check (⟨.tag (.opening kind path), offset⟩ :: tokens) =
      check (⟨kind, path, offset⟩ :: opened) tokens := by
  rw [check, step]
  dsimp only
  rw [if_pos h]

theorem check_tooDeep (h : 256 ≤ opened.length) :
    opened.check (⟨.tag (.opening kind path), offset⟩ :: tokens) =
      .error ⟨.tooDeep kind path, offset⟩ := by
  rw [check, step]
  dsimp only
  rw [if_neg (Nat.not_lt.mpr h)]

theorem check_closing (block : OpenBlock) :
    check (block :: outer) (⟨.tag (.closing block.kind), offset⟩ :: tokens) = outer.check tokens := by
  rw [check, step]
  dsimp only
  rw [if_pos rfl]

theorem check_crossed {block : OpenBlock} (h : block.kind ≠ kind) :
    check (block :: outer) (⟨.tag (.closing kind), offset⟩ :: tokens) =
      .error ⟨.crossed kind block.kind block.path block.offset, offset⟩ := by
  rw [check, step]
  dsimp only
  rw [if_neg h]

/-- The tree reader keeps the block around the nodes, and counts the others that are open: `outer` is
what the calls around this one keep. -/
theorem agrees_readNodes (enclosing : Option OpenBlock) (depth : Nat) (tokens : List Token)
    (outer : Stack) (hdepth : (enclosing.toList ++ outer).length = depth)
    (houter : enclosing = none → outer = []) :
    Agrees (enclosing.toList ++ outer) outer tokens (readNodes enclosing depth tokens) := by
  fun_induction readNodes enclosing depth tokens generalizing outer
  case case1 =>
    obtain rfl := houter rfl
    rfl
  case case2 => rfl
  case case3 hread ih | case4 hread ih | case5 hread ih | case6 hread ih =>
    have hrest := ih outer hdepth houter
    rw [hread] at hrest
    exact hrest
  case case7 enclosing depth kind path offset tokens hdeep =>
    exact check_tooDeep (by rw [hdepth]; exact hdeep)
  case case8 enclosing depth kind path offset tokens hdeep misfit hread ih =>
    rw [Agrees, check_opening (by rw [hdepth]; exact Nat.not_le.mp hdeep)]
    have hbody := ih (enclosing.toList ++ outer) (by simpa using hdepth)
      fun hnone => absurd hnone (Option.some_ne_none _)
    rw [hread] at hbody
    exact hbody
  case case9 enclosing depth kind path offset tokens hdeep body afterBody shorter hbody misfit hread
      ihbody ih
    | case10 enclosing depth kind path offset tokens hdeep body afterBody shorter hbody nodes rest
      hread ihbody ih =>
    rw [Agrees, check_opening (by rw [hdepth]; exact Nat.not_le.mp hdeep)]
    have hinner := ihbody (enclosing.toList ++ outer) (by simpa using hdepth)
      fun hnone => absurd hnone (Option.some_ne_none _)
    have hrest := ih outer hdepth houter
    rw [hbody] at hinner
    rw [hread] at hrest
    exact hinner.trans hrest
  case case11 depth kind offset tokens =>
    obtain rfl := houter rfl
    rfl
  case case12 depth offset tokens block => exact check_closing block
  case case13 depth kind offset tokens block hne => exact check_crossed hne

/-- The stack refuses the tokens that are not those of a tree, with the same misfit. -/
theorem ofTokens_eq_error_iff {misfit : Misfit Nat} :
    Template.ofTokens tokens = .error misfit ↔ check [] tokens = .error misfit := by
  have hagrees := agrees_readNodes none 0 tokens [] rfl fun _ => rfl
  rw [Template.ofTokens, map_eq_error_iff]
  cases hread : readNodes none 0 tokens with
  | error found =>
    rw [hread] at hagrees
    replace hagrees : check [] tokens = .error found := hagrees
    rw [hagrees, Except.error.injEq, Except.error.injEq]
  | ok read =>
    obtain ⟨⟨left, -, -, hrest⟩, -⟩ := tokens_of_readNodes (Nat.zero_le maxDepth) read hread
    rw [hread] at hagrees
    replace hagrees : check [] tokens = check [] read.2.val := hagrees
    rw [List.map_eq_nil_iff.mp hrest] at hagrees
    rw [hagrees]
    constructor <;> rintro ⟨⟩

end Stack

/-! What a misfit is about -/

/-- The tag that a fault is about, where the tag has a meaning. -/
def TemplateFault.tag? {Place : Type} : TemplateFault Place → Option Tag
  | badTag _ => none
  | tooDeep kind path => some (.opening kind path)
  | crossed closing _ _ _ => some (.closing closing)
  | strayClosing kind => some (.closing kind)
  | unclosed kind path => some (.opening kind path)

/-- The opening tag of the block. -/
def OpenBlock.token (block : OpenBlock) : Token :=
  ⟨.tag (.opening block.kind block.path), block.offset⟩

/-- The misfit is about a tag among the tokens, and so is what it says of a block that was opened. -/
structure Misfit.Within (tokens : List Token) (misfit : Misfit Nat) : Prop where
  tag : ∃ tag, misfit.fault.tag? = some tag ∧ ⟨.tag tag, misfit.place⟩ ∈ tokens
  opened : ∀ closing kind path place, misfit.fault = .crossed closing kind path place →
    ⟨.tag (.opening kind path), place⟩ ∈ tokens

namespace Stack

/-- The open blocks were opened by tags among the tokens. -/
def Within (tokens : List Token) (opened : Stack) : Prop :=
  ∀ block ∈ opened, block.token ∈ tokens

variable {opened next : Stack} {token : Token} {tokens all : List Token} {misfit : Misfit Nat}

theorem within_of_step (hopened : opened.Within all) (htoken : token ∈ all)
    (h : opened.step token = .ok next) : next.Within all := by
  obtain ⟨kind, offset⟩ := token
  rw [step] at h
  split at h
  · obtain rfl := Except.ok.inj h
    exact hopened
  · obtain rfl := Except.ok.inj h
    exact hopened
  · split at h
    · obtain rfl := Except.ok.inj h
      rename_i hkind _
      obtain rfl := hkind
      exact List.forall_mem_cons.mpr ⟨htoken, hopened⟩
    · cases h
  · split at h
    · cases h
    · split at h
      · obtain rfl := Except.ok.inj h
        exact (List.forall_mem_cons.mp hopened).2
      · cases h

theorem misfit_within_of_step (hopened : opened.Within all) (htoken : token ∈ all)
    (h : opened.step token = .error misfit) : misfit.Within all := by
  obtain ⟨kind, offset⟩ := token
  rw [step] at h
  split at h
  · cases h
  · cases h
  · rename_i hkind
    obtain rfl := hkind
    split at h
    · cases h
    · obtain rfl := Except.error.inj h
      exact ⟨⟨_, rfl, htoken⟩, nofun⟩
  · rename_i hkind
    obtain rfl := hkind
    split at h
    · obtain rfl := Except.error.inj h
      exact ⟨⟨_, rfl, htoken⟩, nofun⟩
    · split at h
      · cases h
      · obtain rfl := Except.error.inj h
        refine ⟨⟨_, rfl, htoken⟩, ?_⟩
        rintro _ _ _ _ ⟨⟩
        exact hopened _ List.mem_cons_self

theorem misfit_within_of_finish (hopened : opened.Within all)
    (h : opened.finish = .error misfit) : misfit.Within all := by
  cases opened with
  | nil => cases h
  | cons block outer =>
    obtain rfl := Except.error.inj h
    exact ⟨⟨_, rfl, hopened block List.mem_cons_self⟩, nofun⟩

theorem misfit_within_of_check (hopened : opened.Within all) (htokens : ∀ token ∈ tokens, token ∈ all)
    (h : opened.check tokens = .error misfit) : misfit.Within all := by
  induction tokens generalizing opened with
  | nil => exact misfit_within_of_finish hopened h
  | cons token tokens ih =>
    obtain ⟨htoken, htokens⟩ := List.forall_mem_cons.mp htokens
    rw [check] at h
    cases hstep : opened.step token with
    | error found =>
      rw [hstep] at h
      obtain rfl := Except.error.inj h
      exact misfit_within_of_step hopened htoken hstep
    | ok next =>
      rw [hstep] at h
      exact ih (within_of_step hopened htoken hstep) htokens h

end Stack
end TripCards
