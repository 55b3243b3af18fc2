/-
The scan of a source for its tokens, by bytes.

The scan goes through a source in rounds. Each looks for the next tag from an offset on, forwards for the
braces that open and close it and backwards between these for the last ones that open, cuts out the text
in front of the tag and the inside of the tag, and goes on behind it. `scansTo_ofPieces` says that this
comes to its end safely, and finds the tokens of the source or the first tag without a meaning.
-/
import TripCards.Proofs.Template.Tiling
import TripCards.Proofs.Template.Watching

namespace TripCards

open Text (byteLength byteLength_append isValid_of_append utf8ByteSize_of_toList)

/-- How a round of the scan ends: with the source, at a tag without a meaning, or further on, behind a
tag. -/
inductive Round (pos : Nat) where
  | last (tokens : List Token)
  | bad (bad : Token.BadTag)
  | next (tokens : List Token) (after : Nat) (later : pos < after)

namespace Watched

/-- Literal text of the source. -/
def text (source : String) (start stop : Nat) : Watched Token := do
  let text ← cut source start stop
  find ⟨.text text, start⟩

/-- The text in front of a tag, if there is any. -/
def lead (source : String) (pos opening : Nat) : Watched (List Token) :=
  if pos < opening then List.singleton <$> text source pos opening else pure []

/-- The end of a round at a tag. -/
def tag (source : String) (pos opening closing : Nat) (later : pos < closing + 2) :
    Watched (Round pos) := do
  let texts ← lead source pos opening
  let inside ← cut source (opening + 2) closing
  match Tag.read inside.toList with
  | .error fault => pure (.bad ⟨fault, opening⟩)
  | .ok tag => do
    let token ← find ⟨.tag tag, opening⟩
    pure (.next (texts ++ [token]) (closing + 2) later)

/-- Where the tag opens of which `body` stands between the first braces and those that close it. -/
def openingOf (first : Nat) (body : String) : Nat :=
  match Text.findLast? ['{', '{'] body with
  | none => first
  | some place => first + 2 + place

/-- A round of the scan: the next tag is looked for from `pos` on. It closes where braces are found
behind the first opening ones, and opens at the last opening ones before these. -/
def round (source : String) (pos : Nat) : Watched (Round pos) := do
  note (.round pos)
  let ahead ← cut source pos source.utf8ByteSize
  match Text.find? ['{', '{'] ahead with
  | none => do
    let token ← text source pos source.utf8ByteSize
    pure (.last [token])
  | some i => do
    let behind ← cut source (pos + i + 2) source.utf8ByteSize
    match Text.find? ['}', '}'] behind with
    | none => do
      let token ← text source pos source.utf8ByteSize
      pure (.last [token])
    | some j => do
      let body ← cut source (pos + i + 2) (pos + i + 2 + j)
      tag source pos (openingOf (pos + i) body) (pos + i + 2 + j) (by omega)

/-- The rounds of the scan from `pos` on, up to the end of the source or a tag without a meaning. -/
def scan (source : String) (pos : Nat) : Watched (Except Token.BadTag (List Token)) :=
  if _more : pos < source.utf8ByteSize then do
    match ← round source pos with
    | .last tokens => pure (.ok tokens)
    | .bad bad => pure (.error bad)
    | .next tokens after _later => do
      let others ← scan source after
      pure (others.map (tokens ++ ·))
  else pure (.ok [])
termination_by source.utf8ByteSize - pos

open Piece (cutAtFirst cutAtLast)

variable {source : String} {before s : List Char}

theorem byteLength_opening (s : List Char) : byteLength ('{' :: '{' :: s) = 2 + byteLength s := by
  rw [Text.byteLength_cons, Text.byteLength_cons, ← Nat.add_assoc]
  rfl

theorem opensAt_of_append {rest : List Char} (h : source.toList = before ++ '{' :: '{' :: rest) :
    ReadEvent.OpensAt source (byteLength before) := by
  have whole : source.toList = before ++ ['{', '{'] ++ rest := by
    rw [h]
    simp
  exact Text.slice?_of_append whole

/-! ## Parts of a round -/

theorem reads_text {inside rest : List Char} (whole : source.toList = before ++ inside ++ rest)
    {start stop : Nat} (hstart : start = byteLength before)
    (hstop : stop = byteLength before + byteLength inside) :
    Reads source (text source start stop) ⟨.text (String.ofList inside), start⟩ []
      [⟨.text (String.ofList inside), start⟩] 0 := by
  refine (Reads.cut whole hstart hstop).quiet_bind (.find ⟨?_, nofun⟩)
  rw [List.append_assoc] at whole
  rw [hstart]
  exact isValid_of_append whole

theorem reads_lead {front rest : List Char} (whole : source.toList = before ++ front ++ rest)
    {pos opening : Nat} (hpos : pos = byteLength before)
    (hopening : opening = byteLength (before ++ front)) :
    Reads source (lead source pos opening) (Token.ofText pos front) [] (Token.ofText pos front) 0 := by
  rw [lead, Token.ofText, hopening, byteLength_append, hpos]
  cases front with
  | nil =>
    rw [if_neg (by simp)]
    exact .pure []
  | cons c front =>
    have wide := c.utf8Size_pos
    rw [if_pos (by rw [Text.byteLength_cons]; omega)]
    exact (reads_text whole rfl rfl).map

section Tag

variable {front inside rest : List Char} {pos opening closing : Nat} {later : pos < closing + 2}
  (whole : source.toList = before ++ front ++ '{' :: '{' :: inside ++ '}' :: '}' :: rest)
  (hpos : pos = byteLength before) (hopening : opening = byteLength (before ++ front))
  (hclosing : closing = byteLength (before ++ front ++ '{' :: '{' :: inside))

include whole in
theorem toList_of_tag :
    source.toList = before ++ front ++ '{' :: '{' :: (inside ++ '}' :: '}' :: rest) := by
  rw [whole]
  simp

include whole hopening hclosing in
theorem reads_inside :
    Reads source (cut source (opening + 2) closing) (String.ofList inside) [] [] 0 := by
  have split : source.toList =
      (before ++ front ++ ['{', '{']) ++ inside ++ '}' :: '}' :: rest := by
    rw [whole]
    simp
  refine Reads.cut split ?_ ?_
  · rw [hopening, byteLength_append _ ['{', '{']]
    rfl
  · rw [hclosing]
    simp only [byteLength_append, Text.byteLength_cons, Text.byteLength_nil]
    omega

include whole hpos hopening hclosing

theorem reads_tag_of_ok {meaning : Tag} (read : Tag.read inside = .ok meaning) :
    Reads source (tag source pos opening closing later)
      (.next (Token.ofText pos front ++ [⟨.tag meaning, opening⟩]) (closing + 2) later) []
      (Token.ofText pos front ++ [⟨.tag meaning, opening⟩]) 0 := by
  have opens := toList_of_tag whole
  have text := reads_lead opens hpos hopening
  have found : Reads source (find ⟨.tag meaning, opening⟩) ⟨.tag meaning, opening⟩ []
      [⟨.tag meaning, opening⟩] 0 := by
    apply Reads.find
    rw [hopening]
    exact ⟨isValid_of_append opens, fun _ _ => opensAt_of_append opens⟩
  refine text.bind ((reads_inside whole hopening hclosing).quiet_bind ?_)
  rw [String.toList_ofList, read]
  exact found.map

theorem reads_tag_of_error {fault : TagFault} (read : Tag.read inside = .error fault) :
    Reads source (tag source pos opening closing later) (.bad ⟨fault, opening⟩) []
      (Token.ofText pos front) 0 := by
  have text := reads_lead (toList_of_tag whole) hpos hopening
  rw [← List.append_nil (Token.ofText pos front)]
  refine text.bind ((reads_inside whole hopening hclosing).quiet_bind ?_)
  rw [String.toList_ofList, read]
  exact .pure _

end Tag

/-! ## Rounds -/

theorem reads_start {pos : Nat} (whole : source.toList = before ++ s) (hpos : pos = byteLength before) :
    Reads source (note (.round pos)) () [pos] [] 0 := by
  refine Reads.note ?_ nofun nofun
  rw [hpos]
  exact isValid_of_append whole

theorem reads_ahead {stop : Nat} (whole : source.toList = before ++ s)
    (hstop : stop = source.utf8ByteSize) (start : Nat) (hstart : start = byteLength before) :
    Reads source (cut source start stop) (String.ofList s) [] [] 0 := by
  have split : source.toList = before ++ s ++ [] := by rw [whole, List.append_nil]
  refine Reads.cut split hstart ?_
  rw [hstop, utf8ByteSize_of_toList whole, byteLength_append]

section Round

variable {pos : Nat} (whole : source.toList = before ++ s) (hpos : pos = byteLength before)

include whole hpos in
theorem reads_rest : Reads source (text source pos source.utf8ByteSize)
    ⟨.text (String.ofList s), pos⟩ [] [⟨.text (String.ofList s), pos⟩] 0 := by
  have split : source.toList = before ++ s ++ [] := by rw [whole, List.append_nil]
  refine reads_text split hpos ?_
  rw [utf8ByteSize_of_toList whole, byteLength_append]

include whole hpos in
theorem reads_round_of_unopened (unopened : cutAtFirst '{' s = none) :
    Reads source (round source pos) (.last [⟨.text (String.ofList s), pos⟩]) [pos]
      [⟨.text (String.ofList s), pos⟩] 0 := by
  refine (reads_start whole hpos).bind ((reads_ahead whole rfl pos hpos).quiet_bind ?_)
  rw [Text.find?_pair rfl, unopened]
  exact (reads_rest whole hpos).map

variable {lead inside : List Char} (opened : cutAtFirst '{' s = some (lead, inside))

include whole opened in
theorem toList_of_opened : source.toList = before ++ lead ++ ['{', '{'] ++ inside := by
  rw [whole, Piece.eq_of_cutAtFirst opened]
  simp

include hpos in
theorem add_byteLength_add_two (lead : List Char) :
    pos + byteLength lead + 2 = byteLength (before ++ lead ++ ['{', '{']) := by
  rw [hpos, byteLength_append, byteLength_append]
  rfl

include whole hpos opened in
theorem reads_round_of_unclosed (unclosed : cutAtFirst '}' inside = none) :
    Reads source (round source pos) (.last [⟨.text (String.ofList s), pos⟩]) [pos]
      [⟨.text (String.ofList s), pos⟩] 0 := by
  refine (reads_start whole hpos).bind ((reads_ahead whole rfl pos hpos).quiet_bind ?_)
  rw [Text.find?_pair rfl, opened, Option.map_some]
  have split := toList_of_opened whole opened
  refine (reads_ahead split rfl _ (add_byteLength_add_two hpos lead)).quiet_bind ?_
  rw [Text.find?_pair rfl, unclosed]
  exact (reads_rest whole hpos).map

variable {body rest : List Char} (closed : cutAtFirst '}' inside = some (body, rest))

include whole hpos opened closed in
theorem reads_round_of_closed {found : List Token} {a : Round pos}
    (h : Reads source (tag source pos (openingOf (pos + byteLength lead) (String.ofList body))
      (pos + byteLength lead + 2 + byteLength body) (by omega)) a [] found 0) :
    Reads source (round source pos) a [pos] found 0 := by
  have split := toList_of_opened whole opened
  have place := add_byteLength_add_two hpos lead
  refine (reads_start whole hpos).bind ((reads_ahead whole rfl pos hpos).quiet_bind ?_)
  rw [Text.find?_pair rfl, opened, Option.map_some]
  refine (reads_ahead split rfl _ place).quiet_bind ?_
  rw [Text.find?_pair rfl, closed, Option.map_some]
  have closing : source.toList =
      (before ++ lead ++ ['{', '{']) ++ body ++ '}' :: '}' :: rest := by
    rw [split, Piece.eq_of_cutAtFirst closed, List.append_assoc _ body]
  exact (Reads.cut closing place (by rw [place])).quiet_bind h

include hpos opened closed in
/-- The tag that a round finds is cut out of the source there. -/
theorem exists_tag_of_closed : ∃ front inner,
    s = front ++ '{' :: '{' :: inner ++ '}' :: '}' :: rest ∧
      Piece.ofSource s = Piece.literals front ++ .tag inner :: Piece.ofSource rest ∧
      openingOf (pos + byteLength lead) (String.ofList body) = byteLength (before ++ front) ∧
      pos + byteLength lead + 2 + byteLength body =
        byteLength (before ++ front ++ '{' :: '{' :: inner) := by
  have hs : s = lead ++ '{' :: '{' :: body ++ '}' :: '}' :: rest := by
    rw [Piece.eq_of_cutAtFirst opened, Piece.eq_of_cutAtFirst closed]
    simp
  have pieces := Piece.ofSource_of_cuts opened closed
  rw [openingOf, Text.findLast?_pair rfl]
  cases last : cutAtLast '{' body with
  | none =>
    rw [last] at pieces
    refine ⟨lead, body, hs, by rw [pieces]; simp, ?_, ?_⟩
    · rw [hpos, byteLength_append]
      rfl
    · rw [hpos, byteLength_append, byteLength_append, byteLength_opening]
      omega
  | some cut =>
    obtain ⟨stray, inner⟩ := cut
    rw [last] at pieces
    have hbody := Piece.eq_of_cutAtLast last
    refine ⟨lead ++ '{' :: '{' :: stray, inner, ?_, ?_, ?_, ?_⟩
    · rw [hs, hbody]
      simp
    · have text : lead ++ '{' :: '{' :: stray ≠ [] := by simp
      rw [pieces, Piece.literals_of_ne_nil text]
      rfl
    · rw [hpos, byteLength_append, byteLength_append, byteLength_opening]
      show byteLength before + byteLength lead + 2 + byteLength stray = _
      omega
    · rw [hpos, hbody]
      simp only [byteLength_append, byteLength_opening]
      omega

end Round

/-! ## The whole scan -/

/-- The scan from `pos` on comes to its end safely with this outcome, and its rounds begin one behind
the other. -/
def ScansTo (source : String) (pos : Nat) (outcome : Except Token.BadTag (List Token)) : Prop :=
  ∃ rounds found, Reads source (scan source pos) outcome rounds found 0 ∧
    rounds.Pairwise (· < ·) ∧ (∀ later ∈ rounds, pos ≤ later) ∧
      ∀ tokens, outcome = .ok tokens → found = tokens

variable {pos : Nat}

theorem scansTo_nil (h : source.utf8ByteSize ≤ pos) : ScansTo source pos (.ok []) := by
  refine ⟨[], [], ?_, .nil, List.forall_mem_nil _, ?_⟩
  · rw [scan, dif_neg (Nat.not_lt.mpr h)]
    exact .pure _
  · intro tokens same
    exact Except.ok.inj same

variable (more : pos < source.utf8ByteSize)
include more

theorem scansTo_of_last {tokens : List Token}
    (h : Reads source (round source pos) (.last tokens) [pos] tokens 0) :
    ScansTo source pos (.ok tokens) := by
  refine ⟨[pos], tokens, ?_, List.pairwise_singleton _ _, ?_, ?_⟩
  · rw [scan, dif_pos more]
    exact h.bind_quiet (.pure _)
  · exact List.forall_mem_singleton.mpr (Nat.le_refl pos)
  · intro tokens same
    exact Except.ok.inj same

theorem scansTo_of_bad {bad : Token.BadTag} {found : List Token}
    (h : Reads source (round source pos) (.bad bad) [pos] found 0) :
    ScansTo source pos (.error bad) := by
  refine ⟨[pos], found, ?_, List.pairwise_singleton _ _, ?_, ?_⟩
  · rw [scan, dif_pos more]
    exact h.bind_quiet (.pure _)
  · exact List.forall_mem_singleton.mpr (Nat.le_refl pos)
  · intro tokens same
    cases same

theorem scansTo_of_next {tokens : List Token} {after : Nat} {later : pos < after}
    {outcome : Except Token.BadTag (List Token)}
    (h : Reads source (round source pos) (.next tokens after later) [pos] tokens 0)
    (hafter : ScansTo source after outcome) :
    ScansTo source pos (outcome.map (tokens ++ ·)) := by
  obtain ⟨rounds, found, reads, forward, behind, all⟩ := hafter
  refine ⟨pos :: rounds, tokens ++ found, ?_, ?_, ?_, ?_⟩
  · rw [scan, dif_pos more]
    exact h.bind (reads.bind_quiet (.pure _))
  · exact .cons (fun next mem => Nat.lt_of_lt_of_le later (behind next mem)) forward
  · refine List.forall_mem_cons.mpr ⟨Nat.le_refl pos, fun next mem => ?_⟩
    exact Nat.le_of_lt (Nat.lt_of_lt_of_le later (behind next mem))
  · intro whole same
    obtain ⟨others, hothers, rfl⟩ := map_eq_ok_iff.mp same
    rw [all others hothers]

/-- A round that ends at a tag, and what is read behind the tag. -/
theorem scansTo_of_tag {front inner rest : List Char} {opening closing : Nat}
    {later : pos < closing + 2}
    (whole : source.toList = before ++ front ++ '{' :: '{' :: inner ++ '}' :: '}' :: rest)
    (hpos : pos = byteLength before) (hopening : opening = byteLength (before ++ front))
    (hclosing : closing = byteLength (before ++ front ++ '{' :: '{' :: inner))
    (ends : ∀ a found, Reads source (tag source pos opening closing later) a [] found 0 →
      Reads source (round source pos) a [pos] found 0)
    (next : ScansTo source (closing + 2) (Token.ofPieces (closing + 2) (Piece.ofSource rest))) :
    ScansTo source pos
      (Token.ofPieces pos (Piece.literals front ++ .tag inner :: Piece.ofSource rest)) := by
  have opensAt : pos + byteLength front = opening := by
    rw [hpos, hopening, byteLength_append]
  have endsAt : opening + byteLength (Piece.tag inner).toChars = closing + 2 := by
    rw [hopening, hclosing, Piece.toChars]
    simp only [byteLength_append, Nat.add_assoc]
    rfl
  rw [Token.ofPieces_literals_append, Token.ofPieces, opensAt, endsAt]
  cases read : Tag.read inner with
  | error fault =>
    exact scansTo_of_bad more (ends _ _ (reads_tag_of_error whole hpos hopening hclosing read))
  | ok meaning =>
    have both := scansTo_of_next more
      (ends _ _ (reads_tag_of_ok whole hpos hopening hclosing read)) next
    generalize Token.ofPieces _ (Piece.ofSource rest) = outcome at both ⊢
    cases outcome with
    | error bad => exact both
    | ok tokens =>
      rw [Except.map, List.append_assoc] at both
      exact both

omit more

/-- From where a character begins, the scan finds the tokens that are read from there. -/
theorem scansTo_ofPieces (before s : List Char) (whole : source.toList = before ++ s) :
    ScansTo source (byteLength before)
      (Token.ofPieces (byteLength before) (Piece.ofSource s)) := by
  have size : source.utf8ByteSize = byteLength before + byteLength s := by
    rw [utf8ByteSize_of_toList whole, byteLength_append]
  by_cases empty : s = []
  · rw [empty, Token.ofPieces_nil]
    apply scansTo_nil
    rw [size, empty]
    exact Nat.le_refl _
  have more : byteLength before < source.utf8ByteSize := by
    have some_bytes := (Token.Covers.text empty).byteLength_pos
    omega
  -- A round without a tag takes the rest of the source as text.
  have rest (free : Piece.ofSource s = Piece.literals s)
      (h : Reads source (round source (byteLength before))
        (.last [⟨.text (String.ofList s), byteLength before⟩]) [byteLength before]
        [⟨.text (String.ofList s), byteLength before⟩] 0) :
      ScansTo source (byteLength before)
        (Token.ofPieces (byteLength before) (Piece.ofSource s)) := by
    rw [free, Piece.literals_of_ne_nil empty]
    exact scansTo_of_last more h
  cases opened : cutAtFirst '{' s with
  | none =>
    have free := Piece.tagFree_of_not_doubled (Piece.cutAtFirst_eq_none_iff.mp opened)
    exact rest (Piece.ofSource_of_tagFree free) (reads_round_of_unopened whole rfl opened)
  | some cut =>
    obtain ⟨lead, inside⟩ := cut
    cases closed : cutAtFirst '}' inside with
    | none =>
      have free := Piece.tagFree_of_cutAtFirst opened (Piece.cutAtFirst_eq_none_iff.mp closed)
      exact rest (Piece.ofSource_of_tagFree free) (reads_round_of_unclosed whole rfl opened closed)
    | some cut =>
      obtain ⟨body, others⟩ := cut
      obtain ⟨front, inner, hs, pieces, hopening, hclosing⟩ :=
        exists_tag_of_closed (Eq.refl (byteLength before)) opened closed
      have shorter : others.length < s.length := by
        rw [hs]
        simp
        omega
      have atTag : source.toList =
          before ++ front ++ '{' :: '{' :: inner ++ '}' :: '}' :: others := by
        rw [whole, hs]
        simp
      have behindTag : source.toList =
          before ++ front ++ '{' :: '{' :: inner ++ ['}', '}'] ++ others := by
        rw [atTag]
        simp
      have next := scansTo_ofPieces _ others behindTag
      rw [byteLength_append, ← hclosing] at next
      rw [pieces]
      exact scansTo_of_tag more atTag rfl hopening hclosing
        (fun _ _ => reads_round_of_closed whole rfl opened closed) next
termination_by s.length

end Watched
end TripCards
