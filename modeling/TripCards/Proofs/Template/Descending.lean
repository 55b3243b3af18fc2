/-
Reading a source, by bytes and with every call that it takes.

A position is found by cutting out the text up to the offset, and the text behind its last line feed. The
body of a block is read by a reading that is entered from the one around it. `reads_nodes` says that both
are safe for tokens that stand where they say, and that the readings under way are no more than the blocks
that may be open, and the outermost one. So a source is read safely to its end, whatever it holds:
`ofSource_reads_safely`.
-/
import TripCards.Proofs.Template.Faults
import TripCards.Proofs.Template.Pairing
import TripCards.Proofs.Template.Placing
import TripCards.Proofs.Template.Scanning

namespace TripCards

open Text (byteLength byteLength_append isValid_of_append utf8ByteSize_of_toList)

namespace Position

theorem behind_eq (text : List Char) :
    behind text = ⟨text.count '\n' + 1, (lastLine text).length + 1⟩ := by
  rw [behind, lastLine, List.length_reverse]

theorem lastLine_append_feed {last : List Char} (h : '\n' ∉ last) (front : List Char) :
    lastLine (front ++ '\n' :: last) = last := by
  induction front with
  | nil => exact lastLine_feed_cons h
  | cons c front ih =>
    rw [List.cons_append, lastLine_cons_of_mem (by simp), ih]

end Position

namespace Watched

/-! ## Positions -/

/-- Locates an offset: the lines up to it are counted, and the characters of the last one. -/
def locate (source : String) (offset : Nat) : Watched Position := do
  note (.located offset)
  let before ← cut source 0 (min offset source.utf8ByteSize)
  match Text.findLast? ['\n'] before with
  | none => pure ⟨before.toList.count '\n' + 1, before.length + 1⟩
  | some place => do
    let last ← cut before (place + 1) before.utf8ByteSize
    pure ⟨before.toList.count '\n' + 1, last.length + 1⟩

def locateFault (source : String) : TemplateFault Nat → Watched (TemplateFault Position)
  | .badTag fault => pure (.badTag fault)
  | .tooDeep kind path => pure (.tooDeep kind path)
  | .crossed closing kind path opened => do
    let opened ← locate source opened
    pure (.crossed closing kind path opened)
  | .strayClosing kind => pure (.strayClosing kind)
  | .unclosed kind path => pure (.unclosed kind path)

/-- Ends with a misfit, where the places that it names are located. -/
def refuse {α : Type} (source : String) (misfit : Misfit Nat) :
    Watched (Except (Misfit Position) α) := do
  let fault ← locateFault source misfit.fault
  let place ← locate source misfit.place
  pure (.error ⟨fault, place⟩)

/-! ## Nodes -/

/-- Reads nodes as `readNodes` does. The reading of a body is one that is entered. -/
def nodes (source : String) (enclosing : Option OpenBlock) (depth : Nat) :
    (tokens : List Token) → Watched (Except (Misfit Position) (List Node × Rest tokens))
  | [] =>
      match enclosing with
      | none => pure (.ok ([], ⟨[], Nat.le_refl _⟩))
      | some block => refuse source ⟨.unclosed block.kind block.path, block.offset⟩
  | ⟨.text text, _⟩ :: tokens => do
      match ← nodes source enclosing depth tokens with
      | .error misfit => pure (.error misfit)
      | .ok (nodes, rest) => pure (.ok (.text text :: nodes, rest.afterNext))
  | ⟨.tag (.slot path), _⟩ :: tokens => do
      match ← nodes source enclosing depth tokens with
      | .error misfit => pure (.error misfit)
      | .ok (nodes, rest) => pure (.ok (.slot path :: nodes, rest.afterNext))
  | ⟨.tag (.opening kind path), offset⟩ :: tokens =>
      if maxDepth ≤ depth then refuse source ⟨.tooDeep kind path, offset⟩
      else do
        match ← nested (nodes source (some ⟨kind, path, offset⟩) (depth + 1) tokens) with
        | .error misfit => pure (.error misfit)
        | .ok (body, ⟨afterBody, shorter⟩) => do
          match ← nodes source enclosing depth afterBody with
          | .error misfit => pure (.error misfit)
          | .ok (nodes, rest) =>
            pure (.ok (.block kind path body :: nodes,
              ⟨rest.val, Nat.le_succ_of_le (Nat.le_trans rest.property shorter)⟩))
  | ⟨.tag (.closing kind), offset⟩ :: tokens =>
      match enclosing with
      | none => refuse source ⟨.strayClosing kind, offset⟩
      | some block =>
        if block.kind = kind then pure (.ok ([], ⟨tokens, Nat.le_succ _⟩))
        else refuse source ⟨.crossed kind block.kind block.path block.offset, offset⟩
termination_by tokens => tokens.length
decreasing_by all_goals grind

/-- Reads a source: the scan finds its tokens, and then the blocks are matched. -/
def template (source : String) : Watched (Except (Misfit Position) Template) := do
  match ← scan source 0 with
  | .error bad => refuse source (Misfit.ofBadTag bad)
  | .ok tokens => do
    match ← nested (nodes source none 0 tokens) with
    | .error misfit => pure (.error misfit)
    | .ok (nodes, _) => pure (.ok ⟨nodes⟩)

variable {source : String}

theorem reads_locate {offset n : Nat} (safe : (ReadEvent.located offset).IsSafe source) :
    Reads source (locate source offset) (Position.locate source.toList offset) [] [] n := by
  obtain ⟨before, rest, whole, rfl⟩ := Position.exists_append_of_isValid safe.1
  have inside : min (byteLength before) source.utf8ByteSize = byteLength before := by
    rw [utf8ByteSize_of_toList whole, byteLength_append]
    omega
  rw [locate, inside, whole, Position.locate_append, Position.behind_eq]
  refine (Reads.note safe nofun nofun).quiet_bind ?_
  have fromStart : source.toList = [] ++ before ++ rest := whole
  refine (Reads.cut fromStart rfl (Nat.zero_add _).symm).quiet_bind ?_
  rcases Text.findLast?_single (c := '\n') rfl before with
    ⟨absent, none⟩ | ⟨front, last, rfl, absent, some⟩
  · rw [none, Position.lastLine_of_not_mem absent, String.toList_ofList, String.length_ofList]
    exact .pure _
  · rw [some, Position.lastLine_append_feed absent, String.toList_ofList]
    have lines : (String.ofList (front ++ '\n' :: last)).toList =
        (front ++ ['\n']) ++ last ++ [] := by
      simp
    refine (Reads.cut lines ?_ ?_).bind_quiet ?_
    · rw [byteLength_append]
      rfl
    · rw [utf8ByteSize_of_toList String.toList_ofList]
      simp only [byteLength_append, Text.byteLength_cons, Text.byteLength_nil]
      omega
    · rw [String.length_ofList]
      exact .pure _

theorem reads_refuse {α : Type} {misfit : Misfit Nat} {n : Nat}
    (place : (ReadEvent.located misfit.place).IsSafe source)
    (opened : ∀ closing kind path opened, misfit.fault = .crossed closing kind path opened →
      (ReadEvent.located opened).IsSafe source) :
    Reads source (refuse (α := α) source misfit)
      (.error (misfit.map (Position.locate source.toList))) [] [] n := by
  obtain ⟨fault, offset⟩ := misfit
  have named : Reads source (locateFault source fault)
      (fault.map (Position.locate source.toList)) [] [] n := by
    cases fault with
    | crossed closing kind path block =>
      exact (reads_locate (opened closing kind path block rfl)).bind_quiet (.pure _)
    | badTag | tooDeep | strayClosing | unclosed => exact .pure _
  exact named.quiet_bind ((reads_locate place).bind_quiet (.pure _))

theorem located_of_found {tag : Tag} {offset : Nat}
    (safe : (ReadEvent.found ⟨.tag tag, offset⟩).IsSafe source) :
    (ReadEvent.located offset).IsSafe source :=
  ⟨safe.1, safe.2 tag rfl⟩

/-- Nodes are read safely where every tag stands at its offset. The readings of bodies that are under
way inside are as many as blocks may be opened yet. -/
theorem reads_nodes {enclosing : Option OpenBlock} {depth : Nat} {tokens : List Token}
    (hdepth : depth ≤ maxDepth) (safe : ∀ token ∈ tokens, (ReadEvent.found token).IsSafe source)
    (opened : ∀ block, enclosing = some block → (ReadEvent.located block.offset).IsSafe source) :
    Reads source (nodes source enclosing depth tokens)
      ((readNodes enclosing depth tokens).mapError (Misfit.map (Position.locate source.toList)))
      [] [] (maxDepth - depth) := by
  -- Inside a block one reading more is under way, and one block less may be opened.
  fun_induction readNodes enclosing depth tokens
  case case1 =>
    rw [nodes]
    exact .pure _
  case case2 depth block =>
    rw [nodes]
    exact reads_refuse (opened block rfl) (by rintro _ _ _ _ ⟨⟩)
  case case3 hread ih | case4 hread ih | case5 hread ih | case6 hread ih =>
    have others := ih hdepth (List.forall_mem_cons.mp safe).2 opened
    rw [hread] at others
    rw [nodes]
    exact others.bind_quiet (.pure _)
  case case7 enclosing depth kind path offset tokens hdeep =>
    rw [nodes, if_pos hdeep]
    have here := located_of_found (List.forall_mem_cons.mp safe).1
    exact reads_refuse here (by rintro _ _ _ _ ⟨⟩)
  case case8 enclosing depth kind path offset tokens hdeep misfit hread ih =>
    obtain ⟨here, behind⟩ := List.forall_mem_cons.mp safe
    have body := ih (by omega) behind (by rintro _ ⟨⟩; exact located_of_found here)
    rw [hread] at body
    rw [nodes, if_neg hdeep]
    exact (body.nested.mono (by omega)).bind_quiet (.pure _)
  case case9 enclosing depth kind path offset tokens hdeep body afterBody shorter hbody misfit hread
      ihbody ih
    | case10 enclosing depth kind path offset tokens hdeep body afterBody shorter hbody nodes rest
      hread ihbody ih =>
    obtain ⟨here, behind⟩ := List.forall_mem_cons.mp safe
    have inner := ihbody (by omega) behind (by rintro _ ⟨⟩; exact located_of_found here)
    have suffix := (pairsTags_of_readNodes (by omega) _ hbody).suffix
    have others := ih hdepth (fun token mem => behind token (suffix.mem mem)) opened
    rw [hbody] at inner
    rw [hread] at others
    rw [Watched.nodes, if_neg hdeep]
    exact (inner.nested.mono (by omega)).quiet_bind (others.bind_quiet (.pure _))
  case case11 depth kind offset tokens =>
    rw [nodes]
    have here := located_of_found (List.forall_mem_cons.mp safe).1
    exact reads_refuse here (by rintro _ _ _ _ ⟨⟩)
  case case12 depth offset tokens block =>
    rw [nodes, if_pos rfl]
    exact .pure _
  case case13 depth kind offset tokens block hne =>
    rw [nodes, if_neg hne]
    have here := located_of_found (List.forall_mem_cons.mp safe).1
    exact reads_refuse here (by rintro _ _ _ _ ⟨⟩; exact opened block rfl)

end Watched

namespace Template

open Watched (Reads)

variable {source : String}

theorem TagAt.located {place : Nat} {meaning : List Char → Prop}
    (h : TagAt source.toList place meaning) : (ReadEvent.located place).IsSafe source := by
  obtain ⟨before, inside, rest, whole, -, rfl, -⟩ := h
  rw [List.append_assoc, List.cons_append, List.cons_append] at whole
  exact ⟨isValid_of_append whole, Watched.opensAt_of_append whole⟩

theorem reads_template (source : String) : ∃ rounds found,
    Reads source (Watched.template source) (ofSource source) rounds found (maxDepth + 1) ∧
      rounds.Pairwise (· < ·) ∧
      ∀ tokens, Token.ofSource source = .ok tokens → found = tokens := by
  have scanned : Watched.ScansTo source 0 (Token.ofSource source) :=
    Watched.scansTo_ofPieces [] source.toList rfl
  obtain ⟨rounds, found, scan, forward, -, all⟩ := scanned
  refine ⟨rounds, found, ?_, forward, all⟩
  replace scan := scan.mono (Nat.zero_le (maxDepth + 1))
  have safe : ∀ token ∈ found, (ReadEvent.found token).IsSafe source := by
    intro token mem
    rw [← scan.tokens, List.mem_filterMap] at mem
    obtain ⟨event, happens, hevent⟩ := mem
    cases event with
    | found other =>
      obtain rfl := Option.some.inj hevent
      exact scan.safe _ happens
    | round | cut | located | entered | left => cases hevent
  rw [ofSource, read]
  cases outcome : Token.ofSource source with
  | error bad =>
    rw [outcome] at scan
    have tag := (FirstMisfit.badTag (Token.firstBadTag_of_ofPieces _ 0 bad outcome)).tagAt.1
    exact scan.bind_quiet (Watched.reads_refuse tag.located (by rintro _ _ _ _ ⟨⟩))
  | ok tokens =>
    obtain rfl := all tokens outcome
    rw [outcome] at scan
    have nodes : Reads source (Watched.nodes source none 0 found) _ [] [] (maxDepth - 0) :=
      Watched.reads_nodes (Nat.zero_le maxDepth) safe (by rintro _ ⟨⟩)
    refine scan.bind_quiet (nodes.nested.quiet_bind ?_)
    show Reads source _ ((ofTokens found).mapError _) _ _ _
    rw [ofTokens]
    cases readNodes none 0 found <;> exact .pure _

/-- Reading a source by bytes never breaks off: it gives the template or its misfit. Only texts are cut
out on the way, every round of the scan begins behind the one before it, no token begins within a
character, and where a tag is found or a position is asked for stand two opening braces. No more than
257 readings of nodes are under way at once. -/
theorem ofSource_reads_safely (source : String) :
    let reading := Watched.template source
    reading.value? = some (ofSource source) ∧
      (∀ event ∈ reading.events, event.IsSafe source) ∧
      (reading.events.filterMap ReadEvent.round?).Pairwise (· < ·) ∧
      (∀ tokens, Token.ofSource source = .ok tokens →
        reading.events.filterMap ReadEvent.token? = tokens) ∧
      ∀ front, front <+: reading.events → front.count .entered ≤ front.count .left + 257 := by
  obtain ⟨rounds, found, reads, forward, all⟩ := reads_template source
  refine ⟨reads.value, reads.safe, ?_, ?_, reads.nests.within⟩
  · rw [reads.rounds]
    exact forward
  · rw [reads.tokens]
    exact all

/-- Braces astray behind a wide character, and a block that another one's closing tag follows. -/
def strayAndCrossed : String :=
  "é\n\x7b\x7b " ++ braced "#if a" ++ braced "/each"

/-- The scan goes on from byte 15, where the position of the second tag is asked for. -/
theorem ofSource_reads_safely_strayAndCrossed :
    (Watched.template strayAndCrossed).value? =
        some (.error ⟨.crossed .repeated .conditional ⟨"a", []⟩ ⟨2, 4⟩, ⟨2, 13⟩⟩) ∧
      (Watched.template strayAndCrossed).events.filterMap ReadEvent.round? = [0, 15] ∧
      ReadEvent.located 15 ∈ (Watched.template strayAndCrossed).events ∧
      (ReadEvent.located 15).IsSafe strayAndCrossed := by
  have refused : ofSource strayAndCrossed =
      .error ⟨.crossed .repeated .conditional ⟨"a", []⟩ ⟨2, 4⟩, ⟨2, 13⟩⟩ := by
    cbv
  have rounds : (Watched.template strayAndCrossed).events.filterMap ReadEvent.round? = [0, 15] := by
    cbv
  have located : ReadEvent.located 15 ∈ (Watched.template strayAndCrossed).events := by
    rw [← List.contains_iff_mem]
    cbv
  obtain ⟨value, safe, -⟩ := ofSource_reads_safely strayAndCrossed
  rw [refused] at value
  exact ⟨value, rounds, located, safe _ located⟩

end Template
end TripCards
