/-
Trees and their tokens.

Writing a tree down as tokens loses nothing, and reading tokens is the way back:
`parse_eq_ok_iff` says that a source is a template just where its tokens are those of a tree that
is not too deep, and that the template is that tree.
-/
import Mathlib
import TripCards.Card
import TripCards.Proofs.Outcome
import TripCards.Template.Source

namespace TripCards

namespace Node

mutual

/-- How many blocks lie one inside another, at most. -/
def height : Node → Nat
  | text _ => 0
  | slot _ => 0
  | block _ _ body => heightOfAll body + 1

def heightOfAll : List Node → Nat
  | [] => 0
  | node :: nodes => max node.height (heightOfAll nodes)

end

end Node

def Template.height (template : Template) : Nat :=
  Node.heightOfAll template.nodes

def TokenKind.IsOpening (token : TokenKind) : Prop :=
  ∃ kind path, token = .tag (.opening kind path)

open Node (tokensOfAll heightOfAll)

/-! Reading without the bound on what is left -/

/-- `readNodes` with the tokens that are left as they are. -/
def readOn (enclosing : Option OpenBlock) (depth : Nat) (tokens : List Token) :
    Except (Misfit Nat) (List Node × List Token) :=
  (readNodes enclosing depth tokens).map fun (nodes, rest) => (nodes, rest.val)

/-- A node in front of what is read next. -/
def withNode (node : Node) (read : List Node × List Token) : List Node × List Token :=
  (node :: read.1, read.2)

variable {enclosing : Option OpenBlock} {depth : Nat} {tokens : List Token}

theorem readOn_text (s : String) (offset : Nat) :
    readOn enclosing depth (⟨.text s, offset⟩ :: tokens) =
      (readOn enclosing depth tokens).map (withNode (.text s)) := by
  rw [readOn, readNodes, readOn]
  cases readNodes enclosing depth tokens <;> rfl

theorem readOn_slot (path : Path) (offset : Nat) :
    readOn enclosing depth (⟨.tag (.slot path), offset⟩ :: tokens) =
      (readOn enclosing depth tokens).map (withNode (.slot path)) := by
  rw [readOn, readNodes, readOn]
  cases readNodes enclosing depth tokens <;> rfl

theorem readOn_opening {kind : BlockKind} {path : Path} {offset : Nat} (h : depth < maxDepth) :
    readOn enclosing depth (⟨.tag (.opening kind path), offset⟩ :: tokens) =
      (readOn (some ⟨kind, path, offset⟩) (depth + 1) tokens).bind fun (body, rest) =>
        (readOn enclosing depth rest).map (withNode (.block kind path body)) := by
  rw [readOn, readNodes, if_neg (Nat.not_le.mpr h), readOn]
  cases readNodes (some ⟨kind, path, offset⟩) (depth + 1) tokens with
  | error misfit => rfl
  | ok read =>
    obtain ⟨body, rest, shorter⟩ := read
    show _ = Except.map _ (readOn enclosing depth rest)
    rw [readOn]
    dsimp only
    cases readNodes enclosing depth rest <;> rfl

theorem readOn_closing (block : OpenBlock) (offset : Nat) :
    readOn (some block) depth (⟨.tag (.closing block.kind), offset⟩ :: tokens) =
      .ok ([], tokens) := by
  rw [readOn, readNodes]
  show Except.map _ (if block.kind = block.kind then _ else _) = _
  rw [if_pos rfl]
  rfl

/-! What is read has the tokens that were read -/

/-- What may be left unread behind the nodes: the closing tag of the block around them and all that
follows it, or nothing where no block is around them. -/
def Leaves (enclosing : Option OpenBlock) (left rest : List TokenKind) : Prop :=
  match enclosing with
  | none => left = [] ∧ rest = []
  | some block => left = .tag (.closing block.kind) :: rest

/-- Nodes that were read have the tokens in front of what is left, and no more blocks are open at
once than may be. -/
theorem tokens_of_readNodes (hdepth : depth ≤ maxDepth) (read : List Node × Rest tokens)
    (h : readNodes enclosing depth tokens = .ok read) :
    (∃ left, tokens.map Token.kind = tokensOfAll read.1 ++ left ∧
      Leaves enclosing left (read.2.val.map Token.kind)) ∧
      depth + heightOfAll read.1 ≤ maxDepth := by
  fun_induction readNodes enclosing depth tokens with
  | case1 depth =>
    obtain rfl := Except.ok.inj h
    exact ⟨⟨[], rfl, rfl, rfl⟩, hdepth⟩
  | case2 depth block => cases h
  | case3 enclosing depth s offset tokens misfit hread ih => cases h
  | case4 enclosing depth s offset tokens nodes rest hread ih =>
    obtain rfl := Except.ok.inj h
    obtain ⟨⟨left, htokens, hleft⟩, hheight⟩ := ih hdepth _ hread
    refine ⟨⟨left, ?_, hleft⟩, ?_⟩
    · rw [List.map_cons, htokens]
      rfl
    · rwa [heightOfAll, Node.height, Nat.zero_max]
  | case5 enclosing depth path offset tokens misfit hread ih => cases h
  | case6 enclosing depth path offset tokens nodes rest hread ih =>
    obtain rfl := Except.ok.inj h
    obtain ⟨⟨left, htokens, hleft⟩, hheight⟩ := ih hdepth _ hread
    refine ⟨⟨left, ?_, hleft⟩, ?_⟩
    · rw [List.map_cons, htokens]
      rfl
    · rwa [heightOfAll, Node.height, Nat.zero_max]
  | case7 enclosing depth kind path offset tokens hdeep => cases h
  | case8 enclosing depth kind path offset tokens hdeep misfit hread ih => cases h
  | case9 enclosing depth kind path offset tokens hdeep body afterBody shorter hbody misfit hread
      ihbody ih => cases h
  | case10 enclosing depth kind path offset tokens hdeep body afterBody shorter hbody nodes rest
      hread ihbody ih =>
    obtain rfl := Except.ok.inj h
    obtain ⟨⟨_, hbodyTokens, hclosing⟩, hbodyHeight⟩ := ihbody (by omega) _ hbody
    obtain ⟨⟨left, htokens, hleft⟩, hheight⟩ := ih hdepth _ hread
    rw [Leaves] at hclosing
    rw [hclosing] at hbodyTokens
    dsimp only at hbodyTokens hbodyHeight htokens hheight
    refine ⟨⟨left, ?_, hleft⟩, ?_⟩
    · rw [List.map_cons, hbodyTokens, htokens]
      simp [tokensOfAll, Node.tokens]
    · show depth + max (heightOfAll body + 1) (heightOfAll nodes) ≤ maxDepth
      omega
  | case11 depth kind offset tokens => cases h
  | case12 depth offset tokens block =>
    obtain rfl := Except.ok.inj h
    exact ⟨⟨_, rfl, rfl⟩, hdepth⟩
  | case13 depth kind offset tokens block hne => cases h

/-! Tokens of nodes are read back -/

mutual

/-- A node whose tokens come next is read, and then what is behind it. -/
theorem readOn_tokens (node : Node) (enclosing : Option OpenBlock) (depth : Nat)
    (front rest : List Token) (hfront : front.map Token.kind = node.tokens)
    (hheight : depth + node.height ≤ maxDepth) :
    readOn enclosing depth (front ++ rest) =
      (readOn enclosing depth rest).map (withNode node) := by
  cases node with
  | text s =>
    obtain ⟨⟨kind, offset⟩, rfl, rfl⟩ := List.map_eq_singleton_iff.mp hfront
    exact readOn_text s offset
  | slot path =>
    obtain ⟨⟨kind, offset⟩, rfl, hkind⟩ := List.map_eq_singleton_iff.mp hfront
    obtain rfl : kind = .tag (.slot path) := hkind
    exact readOn_slot path offset
  | block kind path body =>
    obtain ⟨⟨_, offset⟩, inner, rfl, hkind, hinner⟩ := List.map_eq_cons_iff.mp hfront
    obtain rfl := hkind
    obtain ⟨bodyTokens, closing, rfl, hbody, hclosing⟩ := List.map_eq_append_iff.mp hinner
    obtain ⟨⟨_, place⟩, rfl, hkind⟩ := List.map_eq_singleton_iff.mp hclosing
    obtain rfl := hkind
    rw [Node.height] at hheight
    rw [List.cons_append, List.append_assoc, readOn_opening (by omega),
      readOn_tokensOfAll body _ (depth + 1) bodyTokens _ hbody (by omega), List.singleton_append,
      readOn_closing ⟨kind, path, offset⟩ place]
    show Except.map _ (readOn enclosing depth rest) = _
    rw [List.append_nil]

theorem readOn_tokensOfAll (nodes : List Node) (enclosing : Option OpenBlock) (depth : Nat)
    (front rest : List Token) (hfront : front.map Token.kind = tokensOfAll nodes)
    (hheight : depth + heightOfAll nodes ≤ maxDepth) :
    readOn enclosing depth (front ++ rest) =
      (readOn enclosing depth rest).map fun read => (nodes ++ read.1, read.2) := by
  cases nodes with
  | nil =>
    obtain rfl := List.map_eq_nil_iff.mp hfront
    rw [List.nil_append]
    cases readOn enclosing depth rest <;> rfl
  | cons node nodes =>
    obtain ⟨first, others, rfl, hfirst, hothers⟩ := List.map_eq_append_iff.mp hfront
    rw [heightOfAll] at hheight
    rw [List.append_assoc, readOn_tokens node enclosing depth first _ hfirst (by omega),
      readOn_tokensOfAll nodes enclosing depth others rest hothers (by omega)]
    cases readOn enclosing depth rest <;> rfl

end

/-! Different trees have different tokens -/

namespace Node

/-- No node begins with the tokens: there are none, or a closing tag comes first. -/
def BeginsNoNode (tokens : List TokenKind) : Prop :=
  ∀ first, tokens.head? = some first → ∃ kind, first = .tag (.closing kind)

theorem not_beginsNoNode_tokens (node : Node) (rest : List TokenKind) :
    ¬ BeginsNoNode (node.tokens ++ rest) := by
  intro h
  cases node with
  | text | slot | block =>
    obtain ⟨kind, hkind⟩ := h _ rfl
    cases hkind

mutual

theorem eq_of_tokens_append (node other : Node) {left right : List TokenKind}
    (h : node.tokens ++ left = other.tokens ++ right) : node = other ∧ left = right := by
  cases node with
  | text s =>
    cases other with
    | text t => simpa [tokens] using h
    | slot | block => simp [tokens] at h
  | slot path =>
    cases other with
    | slot path' => simpa [tokens] using h
    | text | block => simp [tokens] at h
  | block kind path body =>
    cases other with
    | block kind' path' body' =>
      simp only [tokens, List.cons_append, List.append_assoc, List.cons.injEq,
        TokenKind.tag.injEq, Tag.opening.injEq] at h
      obtain ⟨⟨rfl, rfl⟩, h⟩ := h
      have closing (rest : List TokenKind) :
          BeginsNoNode (.tag (.closing kind) :: rest) := fun first hfirst =>
        ⟨kind, (Option.some.inj hfirst).symm⟩
      obtain ⟨rfl, hrest⟩ := eq_of_tokensOfAll_append body body' (closing _) (closing _) h
      exact ⟨rfl, (List.cons.inj hrest).2⟩
    | text | slot => simp [tokens] at h

theorem eq_of_tokensOfAll_append (nodes others : List Node) {left right : List TokenKind}
    (hleft : BeginsNoNode left) (hright : BeginsNoNode right)
    (h : tokensOfAll nodes ++ left = tokensOfAll others ++ right) :
    nodes = others ∧ left = right := by
  cases nodes with
  | nil =>
    cases others with
    | nil => exact ⟨rfl, h⟩
    | cons other others =>
      rw [tokensOfAll, List.nil_append, tokensOfAll, List.append_assoc] at h
      exact absurd (h ▸ hleft) (not_beginsNoNode_tokens other _)
  | cons node nodes =>
    cases others with
    | nil =>
      rw [tokensOfAll, tokensOfAll, List.append_assoc, List.nil_append] at h
      exact absurd (h ▸ hright) (not_beginsNoNode_tokens node _)
    | cons other others =>
      rw [tokensOfAll, tokensOfAll, List.append_assoc, List.append_assoc] at h
      obtain ⟨rfl, hnodes⟩ := eq_of_tokens_append node other h
      obtain ⟨rfl, hrest⟩ := eq_of_tokensOfAll_append nodes others hleft hright hnodes
      exact ⟨rfl, hrest⟩

end

/-- A forest can be told from its tokens. -/
theorem tokensOfAll_injective {nodes others : List Node}
    (h : tokensOfAll nodes = tokensOfAll others) : nodes = others :=
  (eq_of_tokensOfAll_append nodes others (nofun : BeginsNoNode []) (nofun : BeginsNoNode [])
    (by rw [h])).1

/-- An opening tag among the tokens belongs to a block, and the outermost block around it stands
among the nodes. -/
theorem any_isBlock_iff (nodes : List Node) :
    nodes.any isBlock = true ↔ ∃ token ∈ tokensOfAll nodes, token.IsOpening := by
  induction nodes with
  | nil => simp [tokensOfAll]
  | cons node nodes ih =>
    rw [List.any_cons, Bool.or_eq_true, ih]
    simp only [tokensOfAll, List.mem_append, or_and_right, exists_or]
    refine or_congr ?_ Iff.rfl
    cases node with
    | text s => simp [isBlock, tokens, TokenKind.IsOpening]
    | slot path => simp [isBlock, tokens, TokenKind.IsOpening]
    | block kind path body =>
      exact ⟨fun _ => ⟨_, List.mem_cons_self, kind, path, rfl⟩, fun _ => rfl⟩

end Node

namespace Template

theorem ofTokens_eq_ok_iff {tokens : List Token} {template : Template} :
    ofTokens tokens = .ok template ↔
      template.tokens = tokens.map Token.kind ∧ template.height ≤ maxDepth := by
  rw [ofTokens, map_eq_ok_iff]
  constructor
  · rintro ⟨read, hread, rfl⟩
    obtain ⟨⟨left, htokens, rfl, -⟩, hheight⟩ := tokens_of_readNodes (Nat.zero_le _) read hread
    rw [List.append_nil] at htokens
    rw [Nat.zero_add] at hheight
    exact ⟨htokens.symm, hheight⟩
  · rintro ⟨htokens, hheight⟩
    have hread := readOn_tokensOfAll template.nodes none 0 tokens [] htokens.symm
      (by rwa [Nat.zero_add])
    have hend : readOn none 0 [] = .ok ([], []) := by
      rw [readOn, readNodes]
      rfl
    rw [List.append_nil, hend, Except.map, List.append_nil, readOn, map_eq_ok_iff] at hread
    obtain ⟨read, hread, heq⟩ := hread
    have hnodes : read.1 = template.nodes := congrArg Prod.fst heq
    exact ⟨read, hread, congrArg Template.mk hnodes⟩

theorem parse_eq_ok_iff_ofTokens {source : String} {tokens : List Token}
    (h : Token.ofSource source = .ok tokens) (template : Template) :
    parse source = .ok template ↔ ofTokens tokens = .ok template := by
  rw [parse, mapError_eq_ok_iff, ofSource, mapError_eq_ok_iff, read, h]

theorem exists_tokens_of_parse {source : String} {template : Template}
    (h : parse source = .ok template) :
    ∃ tokens, Token.ofSource source = .ok tokens ∧ ofTokens tokens = .ok template := by
  cases tokens : Token.ofSource source with
  | error bad =>
    rw [parse, mapError_eq_ok_iff, ofSource, mapError_eq_ok_iff, read, tokens] at h
    cases h
  | ok tokens' => exact ⟨tokens', rfl, (parse_eq_ok_iff_ofTokens tokens template).mp h⟩

/-- The template of a source is the one tree that is written with the tokens of the source. There is
none where the tokens are not those of a tree, and where the tree is too deep. -/
theorem parse_eq_ok_iff {source : String} {tokens : List Token}
    (h : Token.ofSource source = .ok tokens) :
    (∀ template, parse source = .ok template ↔
      template.tokens = tokens.map Token.kind ∧ template.height ≤ 256) ∧
    (∀ template other : Template, template.tokens = tokens.map Token.kind →
      other.tokens = tokens.map Token.kind → template = other) ∧
    ∀ template, parse source = .ok template →
      (template.hasBlocks = true ↔ ∃ token ∈ tokens, token.kind.IsOpening) := by
  have hiff (template : Template) : parse source = .ok template ↔
      template.tokens = tokens.map Token.kind ∧ template.height ≤ 256 :=
    (parse_eq_ok_iff_ofTokens h template).trans ofTokens_eq_ok_iff
  refine ⟨hiff, ?_, ?_⟩
  · rintro ⟨nodes⟩ ⟨others⟩ hnodes hothers
    exact congrArg Template.mk (Node.tokensOfAll_injective (hnodes.trans hothers.symm))
  · intro template htemplate
    have htokens := ((hiff template).mp htemplate).1
    rw [hasBlocks, Node.any_isBlock_iff, ← Template.tokens, htokens]
    constructor
    · rintro ⟨_, hmem, hopening⟩
      obtain ⟨token, htoken, rfl⟩ := List.mem_map.mp hmem
      exact ⟨token, htoken, hopening⟩
    · rintro ⟨token, htoken, hopening⟩
      exact ⟨token.kind, List.mem_map_of_mem htoken, hopening⟩

/-- A slot in a conditional block, and that in a repeated one. -/
def nestedBlocks : String :=
  String.join (["#each xs", "#if n", "n", "/if", "/each"].map fun body =>
    "\x7b\x7b" ++ body ++ "\x7d\x7d")

theorem parse_nestedBlocks :
    ∃ tokens, Token.ofSource nestedBlocks = .ok tokens ∧
      parse nestedBlocks = .ok
        ⟨[.block .repeated ⟨"xs", []⟩ [.block .conditional ⟨"n", []⟩ [.slot ⟨"n", []⟩]]]⟩ := by
  have htokens : Token.ofSource nestedBlocks = .ok
      [⟨.tag (.opening .repeated ⟨"xs", []⟩), 0⟩, ⟨.tag (.opening .conditional ⟨"n", []⟩), 12⟩,
        ⟨.tag (.slot ⟨"n", []⟩), 21⟩, ⟨.tag (.closing .conditional), 26⟩,
        ⟨.tag (.closing .repeated), 33⟩] := by
    cbv
  exact ⟨_, htokens, ((parse_eq_ok_iff htokens).1 _).mpr ⟨rfl, by decide⟩⟩

end Template

end TripCards
