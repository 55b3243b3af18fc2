/-
Which closing tag belongs to which opening tag.

The reader of trees takes a closing tag for that of the block whose body it is reading, so it closes
the innermost block first. One can also count, from an opening tag on, the tags that open a block of
its kind and those that close one, and stop where the count is back to zero. That takes no notice of
blocks of the other kind. `mem_pairedTags_iff` says that both ways find the same tag, in every source
that is a template: a body leaves the count of either kind as it was, and never lets it sink to zero.
-/
import TripCards.Proofs.Template.Stacking
import TripCards.Proofs.Template.Tiling

namespace TripCards

open Node (tokensOfAll)

/-- What a token adds to the count of open blocks of a kind. -/
def TokenKind.change (kind : BlockKind) : TokenKind → Int
  | .text _ => 0
  | .tag (.slot _) => 0
  | .tag (.opening other _) => if other = kind then 1 else 0
  | .tag (.closing other) => if other = kind then -1 else 0

/-- The first closing tag of the kind behind which the count of open blocks of the kind is zero. -/
def closingOf (kind : BlockKind) (count : Int) : List Token → Option Token
  | [] => none
  | token :: tokens =>
      let count := count + token.kind.change kind
      if token.kind = .tag (.closing kind) ∧ count = 0 then some token
      else closingOf kind count tokens

/-- The blocks that are read, each with the closing tag at which the reading of its body ends. The
tokens are gone through as `readNodes` goes through them. -/
def pairedTags (enclosing : Option OpenBlock) (depth : Nat) : List Token → List (OpenBlock × Token)
  | [] => []
  | ⟨.text _, _⟩ :: tokens => pairedTags enclosing depth tokens
  | ⟨.tag (.slot _), _⟩ :: tokens => pairedTags enclosing depth tokens
  | ⟨.tag (.opening kind path), offset⟩ :: tokens =>
      match readNodes (some ⟨kind, path, offset⟩) (depth + 1) tokens with
      | .error _ => []
      | .ok (_, ⟨afterBody, _⟩) =>
        pairedTags (some ⟨kind, path, offset⟩) (depth + 1) tokens ++
          pairedTags enclosing depth afterBody
  | ⟨.tag (.closing kind), offset⟩ :: _ =>
      match enclosing with
      | none => []
      | some block =>
        if block.kind = kind then [(block, ⟨.tag (.closing kind), offset⟩)] else []
termination_by tokens => tokens.length
decreasing_by all_goals grind

/-- The tokens of nodes come first, and then a tag that closes a block of the kind. -/
def EndsBody (kind : BlockKind) (tokens : List Token) (closing : Token) : Prop :=
  ∃ body front rest, tokens = front ++ closing :: rest ∧
    front.map Token.kind = tokensOfAll body ∧ closing.kind = .tag (.closing kind)

variable {kind : BlockKind} {enclosing : Option OpenBlock} {depth : Nat} {tokens rest : List Token}

/-! ## Counting -/

theorem closingOf_cons {count : Int} {token : Token} (h : count + token.kind.change kind ≠ 0) :
    closingOf kind count (token :: tokens) =
      closingOf kind (count + token.kind.change kind) tokens := by
  rw [closingOf]
  exact if_neg fun stop => h stop.2

theorem change_opening_nonneg (kind other : BlockKind) (path : Path) :
    0 ≤ TokenKind.change kind (.tag (.opening other path)) := by
  by_cases same : other = kind <;> simp [TokenKind.change, same]

theorem change_closing (kind other : BlockKind) (path : Path) :
    TokenKind.change kind (.tag (.closing other)) =
      -TokenKind.change kind (.tag (.opening other path)) := by
  by_cases same : other = kind <;> simp [TokenKind.change, same]

/- The count is positive where a body begins. It stays so within the blocks of the body, and it is
the same again behind each of them, whatever their kind. -/
mutual

theorem closingOf_tokens_append {count : Int} (hcount : 0 < count) (node : Node)
    (front rest : List Token) (hfront : front.map Token.kind = node.tokens) :
    closingOf kind count (front ++ rest) = closingOf kind count rest := by
  cases node with
  | text | slot =>
    obtain ⟨token, rfl, htoken⟩ := List.map_eq_singleton_iff.mp hfront
    have unchanged : count + token.kind.change kind = count := by
      rw [htoken]
      exact Int.add_zero count
    rw [List.singleton_append, closingOf_cons (by omega), unchanged]
  | block other path body =>
    obtain ⟨opening, inner, rfl, hopening, hinner⟩ := List.map_eq_cons_iff.mp hfront
    obtain ⟨bodyTokens, last, rfl, hbody, hlast⟩ := List.map_eq_append_iff.mp hinner
    obtain ⟨closing, rfl, hclosing⟩ := List.map_eq_singleton_iff.mp hlast
    have hopens := change_opening_nonneg kind other path
    have hcloses := change_closing kind other path
    rw [← hopening] at hopens hcloses
    rw [← hclosing] at hcloses
    have unchanged :
        count + opening.kind.change kind + closing.kind.change kind = count := by omega
    rw [List.cons_append, closingOf_cons (by omega), List.append_assoc,
      closingOf_tokensOfAll_append (by omega) body bodyTokens _ hbody, List.singleton_append,
      closingOf_cons (by omega), unchanged]

theorem closingOf_tokensOfAll_append {count : Int} (hcount : 0 < count) (nodes : List Node)
    (front rest : List Token) (hfront : front.map Token.kind = tokensOfAll nodes) :
    closingOf kind count (front ++ rest) = closingOf kind count rest := by
  cases nodes with
  | nil =>
    obtain rfl := List.map_eq_nil_iff.mp hfront
    rfl
  | cons node nodes =>
    obtain ⟨first, others, rfl, hfirst, hothers⟩ := List.map_eq_append_iff.mp hfront
    rw [List.append_assoc, closingOf_tokens_append hcount node first _ hfirst,
      closingOf_tokensOfAll_append hcount nodes others rest hothers]

end

/-- From an opening tag on, the count comes back to zero at the tag that ends the body. -/
theorem EndsBody.closingOf_eq {closing : Token} (h : EndsBody kind tokens closing) (path : Path)
    (offset : Nat) :
    closingOf kind 0 (⟨.tag (.opening kind path), offset⟩ :: tokens) = some closing := by
  obtain ⟨body, front, rest, rfl, hfront, hclosing⟩ := h
  have opens : 0 + (⟨.tag (.opening kind path), offset⟩ : Token).kind.change kind = 1 := by
    simp [TokenKind.change]
  have closes : 1 + closing.kind.change kind = 0 := by
    simp [hclosing, TokenKind.change]
  rw [closingOf_cons (by omega), opens, closingOf_tokensOfAll_append (by omega) body front _ hfront,
    closingOf]
  exact if_pos ⟨hclosing, closes⟩

/-! ## Reading -/

/-- The closing tag right before what is left behind a body is the one that ends it. -/
theorem endsBody_of_readNodes {block : OpenBlock} (hdepth : depth ≤ maxDepth)
    {read : List Node × Rest tokens} (h : readNodes (some block) depth tokens = .ok read)
    {closing : Token} (hclosing : closing :: read.2.val <:+ tokens) :
    EndsBody block.kind tokens closing := by
  obtain ⟨front, htokens⟩ := hclosing
  obtain ⟨⟨left, hkinds, hleft⟩, -⟩ := tokens_of_readNodes hdepth read h
  have hsplit : front.map Token.kind ++ closing.kind :: read.2.val.map Token.kind =
      tokensOfAll read.1 ++ .tag (.closing block.kind) :: read.2.val.map Token.kind := by
    rw [← List.map_cons, ← List.map_append, htokens, hkinds, show left = _ from hleft]
  obtain ⟨hfront, hrest⟩ := List.append_inj' hsplit rfl
  exact ⟨read.1, front, read.2.val, htokens.symm, hfront, (List.cons.inj hrest).1⟩

theorem OpenBlock.token_injective : Function.Injective OpenBlock.token := by
  rintro ⟨kind, path, offset⟩ ⟨kind', path', offset'⟩ same
  simpa [OpenBlock.token, and_assoc] using same

/-- What the pairs are, of which the tags lie in front of `rest`: the closing tag of the enclosing
block comes last, the closing tag of every other block ends its body, and no block is left out. -/
structure PairsTags (enclosing : Option OpenBlock) (tokens rest : List Token)
    (pairs : List (OpenBlock × Token)) : Prop where
  suffix : rest <:+ tokens
  last : ∀ block, enclosing = some block →
    ∃ closing, closing :: rest <:+ tokens ∧ (block, closing) ∈ pairs
  ends : ∀ block closing, (block, closing) ∈ pairs →
    enclosing = some block ∧ closing :: rest <:+ tokens ∨
      ∃ behind, block.token :: behind <:+ tokens ∧ EndsBody block.kind behind closing
  all : ∀ block : OpenBlock, block.token ∈ tokens →
    block.token ∈ rest ∨ ∃ closing, (block, closing) ∈ pairs

namespace PairsTags

variable {pairs bodyPairs : List (OpenBlock × Token)} {block : OpenBlock}

theorem nil : PairsTags none [] [] [] where
  suffix := List.suffix_refl []
  last := nofun
  ends := nofun
  all := nofun

/-- A token that opens no block, and closes none, makes no difference. -/
theorem cons {token : Token} (hopens : ∀ block : OpenBlock, block.token ≠ token)
    (h : PairsTags enclosing tokens rest pairs) :
    PairsTags enclosing (token :: tokens) rest pairs where
  suffix := h.suffix.trans (List.suffix_cons token tokens)
  last := by
    intro block hblock
    obtain ⟨closing, hplace, hmem⟩ := h.last block hblock
    exact ⟨closing, hplace.trans (List.suffix_cons token tokens), hmem⟩
  ends := by
    intro block closing hmem
    rcases h.ends block closing hmem with ⟨hblock, hplace⟩ | ⟨behind, hplace, hends⟩
    · exact .inl ⟨hblock, hplace.trans (List.suffix_cons token tokens)⟩
    · exact .inr ⟨behind, hplace.trans (List.suffix_cons token tokens), hends⟩
  all := by
    intro block hmem
    rcases List.mem_cons.mp hmem with here | there
    · exact absurd here (hopens block)
    · exact h.all block there

/-- The closing tag of the enclosing block ends the tokens that are read. -/
theorem closing {token : Token} (hopens : ∀ block : OpenBlock, block.token ≠ token) :
    PairsTags (some block) (token :: rest) rest [(block, token)] where
  suffix := List.suffix_cons token rest
  last := by
    intro other hother
    obtain rfl := Option.some.inj hother
    exact ⟨token, List.suffix_refl _, List.mem_singleton_self _⟩
  ends := by
    intro other closing hmem
    obtain ⟨rfl, rfl⟩ := Prod.mk.inj (List.mem_singleton.mp hmem)
    exact .inl ⟨rfl, List.suffix_refl _⟩
  all := by
    intro other hmem
    rcases List.mem_cons.mp hmem with here | there
    · exact absurd here (hopens other)
    · exact .inl there

/-- A block, its body, and what is read behind it. -/
theorem block_append {afterBody : List Token}
    (hbody : PairsTags (some block) tokens afterBody bodyPairs)
    (hends : ∀ closing, closing :: afterBody <:+ tokens → EndsBody block.kind tokens closing)
    (h : PairsTags enclosing afterBody rest pairs) :
    PairsTags enclosing (block.token :: tokens) rest (bodyPairs ++ pairs) := by
  have hafter : afterBody <:+ block.token :: tokens :=
    hbody.suffix.trans (List.suffix_cons _ tokens)
  refine ⟨h.suffix.trans hafter, fun other hother => ?_, fun other closing hmem => ?_,
    fun other hmem => ?_⟩
  · obtain ⟨closing, hplace, hmem⟩ := h.last other hother
    exact ⟨closing, hplace.trans hafter, List.mem_append_right _ hmem⟩
  · rcases List.mem_append.mp hmem with inBody | behindBody
    · right
      rcases hbody.ends other closing inBody with ⟨hother, hplace⟩ | ⟨behind, hplace, hother⟩
      · obtain rfl := Option.some.inj hother
        exact ⟨tokens, List.suffix_refl _, hends closing hplace⟩
      · exact ⟨behind, hplace.trans (List.suffix_cons _ tokens), hother⟩
    · rcases h.ends other closing behindBody with ⟨hother, hplace⟩ | ⟨behind, hplace, hother⟩
      · exact .inl ⟨hother, hplace.trans hafter⟩
      · exact .inr ⟨behind, hplace.trans hafter, hother⟩
  · have inBody : other.token ∈ tokens →
        other.token ∈ rest ∨ ∃ closing, (other, closing) ∈ bodyPairs ++ pairs := by
      intro hmem
      rcases hbody.all other hmem with behindBody | ⟨closing, hpair⟩
      · rcases h.all other behindBody with hrest | ⟨closing, hpair⟩
        · exact .inl hrest
        · exact .inr ⟨closing, List.mem_append_right _ hpair⟩
      · exact .inr ⟨closing, List.mem_append_left _ hpair⟩
    rcases List.mem_cons.mp hmem with here | there
    · obtain rfl := OpenBlock.token_injective here
      obtain ⟨closing, -, hpair⟩ := hbody.last other rfl
      exact .inr ⟨closing, List.mem_append_left _ hpair⟩
    · exact inBody there

end PairsTags

/-- The reader pairs the tags of the tokens that it reads. -/
theorem pairsTags_of_readNodes (hdepth : depth ≤ maxDepth) (read : List Node × Rest tokens)
    (h : readNodes enclosing depth tokens = .ok read) :
    PairsTags enclosing tokens read.2.val (pairedTags enclosing depth tokens) := by
  fun_induction readNodes enclosing depth tokens with
  | case1 depth =>
    obtain rfl := Except.ok.inj h
    rw [pairedTags]
    exact .nil
  | case4 enclosing depth s offset tokens nodes rest hread ih =>
    obtain rfl := Except.ok.inj h
    rw [pairedTags]
    refine (ih hdepth _ hread).cons ?_
    intro block same
    cases same
  | case6 enclosing depth path offset tokens nodes rest hread ih =>
    obtain rfl := Except.ok.inj h
    rw [pairedTags]
    refine (ih hdepth _ hread).cons ?_
    intro block same
    cases same
  | case10 enclosing depth kind path offset tokens hdeep body afterBody shorter hbody nodes rest
      hread ihbody ih =>
    obtain rfl := Except.ok.inj h
    have inner := ihbody (by omega) _ hbody
    rw [pairedTags, hbody]
    refine inner.block_append ?_ (ih hdepth _ hread)
    intro closing hplace
    exact endsBody_of_readNodes (by omega) hbody hplace
  | case12 depth offset tokens block =>
    obtain rfl := Except.ok.inj h
    rw [pairedTags]
    dsimp only
    rw [if_pos rfl]
    apply PairsTags.closing
    intro block same
    cases same
  | case2 | case3 | case5 | case7 | case8 | case9 | case11 | case13 => cases h

/-- Where no token comes twice, no more than one part at the end begins with a token. -/
theorem eq_of_suffix_of_nodup {token : Token} {front behind other : List Token}
    (hnodup : (front ++ token :: behind).Nodup) (h : token :: other <:+ front ++ token :: behind) :
    other = behind := by
  obtain ⟨before, hbefore⟩ := h
  rw [← hbefore] at hnodup
  have absent := (List.nodup_cons.mp (List.nodup_middle.mp hnodup)).1
  rw [List.mem_append, not_or] at absent
  exact ((List.append_cons_inj_of_notMem absent.1 absent.2).mp hbefore).2.2

namespace Template

/-- In the tokens of a template, every opening tag is paired with one closing tag. This is the one
that ends the body behind the opening tag, and the first that brings the count of open blocks of its
kind back to zero. -/
theorem mem_pairedTags_iff {source : String} {template : Template}
    (h : parse source = .ok template) :
    ∃ tokens, Token.ofSource source = .ok tokens ∧
      ∀ front kind path offset behind,
        tokens = front ++ ⟨.tag (.opening kind path), offset⟩ :: behind →
        ∃ closing, EndsBody kind behind closing ∧
          closingOf kind 0 (⟨.tag (.opening kind path), offset⟩ :: behind) = some closing ∧
          ∀ token, (⟨kind, path, offset⟩, token) ∈ pairedTags none 0 tokens ↔ token = closing := by
  obtain ⟨tokens, htokens, htree⟩ := exists_tokens_of_parse h
  rw [ofTokens, map_eq_ok_iff] at htree
  obtain ⟨read, hread, -⟩ := htree
  obtain ⟨⟨left, -, -, hrest⟩, -⟩ := tokens_of_readNodes (Nat.zero_le _) read hread
  have pairs := pairsTags_of_readNodes (Nat.zero_le _) read hread
  rw [List.map_eq_nil_iff.mp hrest] at pairs
  have nodup : tokens.Nodup := by
    refine (Token.isTiling_of_ofPieces _ 0 tokens htokens).tiles.pairwise_offset_lt.imp ?_
    rintro token _ lt rfl
    exact Nat.lt_irrefl _ lt
  refine ⟨tokens, htokens, fun front kind path offset behind hplace => ?_⟩
  have ends (token : Token) (hmem : (⟨kind, path, offset⟩, token) ∈ pairedTags none 0 tokens) :
      EndsBody kind behind token := by
    rcases pairs.ends _ _ hmem with ⟨⟨⟩, -⟩ | ⟨other, hsuffix, hends⟩
    rw [hplace] at hsuffix nodup
    rwa [← eq_of_suffix_of_nodup nodup hsuffix]
  have opened : OpenBlock.token ⟨kind, path, offset⟩ ∈ tokens := by
    rw [hplace]
    exact List.mem_append_right _ List.mem_cons_self
  obtain ⟨closing, hclosing⟩ := (pairs.all _ opened).resolve_left List.not_mem_nil
  have hcount := (ends closing hclosing).closingOf_eq path offset
  refine ⟨closing, ends closing hclosing, hcount, fun token => ⟨fun hmem => ?_, ?_⟩⟩
  · have hagain := (ends token hmem).closingOf_eq path offset
    exact Option.some.inj (hagain.symm.trans hcount)
  · rintro rfl
    exact hclosing

/-- Blocks of both kinds, each in one of the other. -/
def crossedKinds : String :=
  braced "#if a" ++ braced "#each b" ++ braced "#if c" ++ braced "/if" ++ braced "/each" ++
    braced "/if"

theorem mem_pairedTags_iff_crossedKinds :
    ∃ tokens, Token.ofSource crossedKinds = .ok tokens ∧
      (⟨.conditional, ⟨"a", []⟩, 0⟩, ⟨.tag (.closing .conditional), 45⟩) ∈
        pairedTags none 0 tokens := by
  have hsource : Token.ofSource crossedKinds = .ok
      [⟨.tag (.opening .conditional ⟨"a", []⟩), 0⟩, ⟨.tag (.opening .repeated ⟨"b", []⟩), 9⟩,
        ⟨.tag (.opening .conditional ⟨"c", []⟩), 20⟩, ⟨.tag (.closing .conditional), 29⟩,
        ⟨.tag (.closing .repeated), 36⟩, ⟨.tag (.closing .conditional), 45⟩] := by
    cbv
  have hparse : parse crossedKinds = .ok ⟨[.block .conditional ⟨"a", []⟩
      [.block .repeated ⟨"b", []⟩ [.block .conditional ⟨"c", []⟩ []]]]⟩ := by
    cbv
  obtain ⟨tokens, htokens, hpairs⟩ := mem_pairedTags_iff hparse
  obtain rfl := Except.ok.inj (hsource.symm.trans htokens)
  obtain ⟨closing, -, hcount, hmem⟩ := hpairs [] _ _ _ _ rfl
  refine ⟨_, hsource, (hmem _).mpr ?_⟩
  exact Option.some.inj hcount

end Template
end TripCards
