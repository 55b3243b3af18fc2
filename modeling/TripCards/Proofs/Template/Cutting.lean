/-
Where a text is cut.

`cutAtFirst` and `cutAtLast` look for a character written twice in a row. Here they are described by
what lies on the two sides of the cut: the first place has no such pair before it, not even one that
overlaps it, and the last place has none after it. The pieces of a source follow from that in two
lemmas: `exists_leads` says that every source begins with a text up to its first tag, and
`ofSource_append` that its pieces are that text and the pieces of what follows.
-/
import TripCards.Template.Piece

namespace TripCards
namespace Piece

variable {c d : Char} {s t before after : List Char}

/-- The character stands twice in a row somewhere in the text. -/
abbrev Doubled (c : Char) (s : List Char) : Prop :=
  [c, c] <:+: s

theorem doubled_cons : Doubled c (d :: s) ↔ d = c ∧ s.head? = some c ∨ Doubled c s := by
  rw [Doubled, List.infix_cons_iff, List.cons_prefix_cons]
  cases s with
  | nil => simp [List.prefix_nil]
  | cons e s => simp [List.cons_prefix_cons, eq_comm]

/-- A pair lies in one of two texts, or it is where they meet. -/
theorem doubled_append :
    Doubled c (s ++ t) ↔ Doubled c s ∨ Doubled c t ∨ s.getLast? = some c ∧ t.head? = some c := by
  induction s with
  | nil => simp
  | cons a s ih =>
    rw [List.cons_append, doubled_cons, doubled_cons, ih]
    cases s with
    | nil =>
      have hnil : ¬ Doubled c ([] : List Char) := by simp
      simp only [List.nil_append, List.head?_nil, List.getLast?_nil, List.getLast?_singleton,
        Option.some.injEq, reduceCtorEq, and_false, false_and, or_false, hnil, false_or]
      exact or_comm
    | cons b s =>
      simp only [List.cons_append, List.head?_cons, List.getLast?_cons_cons, or_assoc]

theorem not_doubled_of_not_mem (h : c ∉ s) : ¬ Doubled c s :=
  fun hs => h (hs.subset List.mem_cons_self)

/-! The first pair -/

theorem cutAtFirst_eq_none_iff : cutAtFirst c s = none ↔ ¬ Doubled c s := by
  fun_induction cutAtFirst c s with
  | case1 a b s hc => simp [doubled_cons, hc]
  | case2 a b s hc ih =>
    rw [Option.map_eq_none_iff, ih, doubled_cons (d := a), List.head?_cons, Option.some.injEq]
    exact ⟨fun h hs => hs.elim hc h, fun h hs => h (.inr hs)⟩
  | case3 s hs =>
    rcases s with _ | ⟨a, _ | ⟨b, s⟩⟩
    · simp
    · simp [doubled_cons]
    · exact absurd rfl (hs a b s)

/-- No pair begins before the first one, nor overlaps it from the left. -/
theorem not_doubled_of_cutAtFirst (h : cutAtFirst c s = some (before, after)) :
    ¬ Doubled c (before ++ [c]) := by
  fun_induction cutAtFirst c s generalizing before with
  | case1 a b s hc =>
    obtain ⟨rfl, rfl⟩ : [] = before ∧ s = after := by simpa using h
    simp [doubled_cons]
  | case2 a b s hc ih =>
    obtain ⟨⟨x, y⟩, hxy, heq⟩ := Option.map_eq_some_iff.mp h
    obtain ⟨rfl, rfl⟩ : a :: x = before ∧ y = after := by simpa using heq
    have hs := eq_of_cutAtFirst hxy
    rw [List.cons_append, doubled_cons]
    rintro (⟨ha, hx⟩ | hx)
    · -- The text behind `a` begins as `x` does, or with the pair itself where `x` is empty.
      refine hc ⟨ha, ?_⟩
      cases x with
      | nil => exact (List.cons.inj hs).1
      | cons e x =>
        rw [List.cons_append, List.head?_cons, Option.some.injEq] at hx
        rw [(List.cons.inj hs).1, hx]
    · exact ih hxy hx
  | case3 s hs => simp at h

theorem cutAtFirst_append (h : ¬ Doubled c (before ++ [c])) (after : List Char) :
    cutAtFirst c (before ++ c :: c :: after) = some (before, after) := by
  induction before with
  | nil => simp [cutAtFirst]
  | cons a before ih =>
    rw [List.cons_append, doubled_cons, not_or] at h
    cases before with
    | nil =>
      have ha : ¬(a = c ∧ c = c) := fun ha => h.1 ⟨ha.1, rfl⟩
      rw [List.cons_append, List.nil_append, cutAtFirst, if_neg ha, ← List.nil_append (c :: c :: _),
        ih h.2]
      rfl
    | cons b before =>
      have ha : ¬(a = c ∧ b = c) := fun ha => h.1 ⟨ha.1, congrArg some ha.2⟩
      rw [List.cons_append, List.cons_append, cutAtFirst, if_neg ha, ← List.cons_append, ih h.2]
      rfl

/-- What follows any pair follows the first one. -/
theorem suffix_of_cutAtFirst {lead rest : List Char}
    (h : cutAtFirst c (lead ++ c :: c :: rest) = some (before, after)) : rest <:+ after := by
  induction lead generalizing before with
  | nil =>
    rw [List.nil_append, cutAtFirst, if_pos ⟨rfl, rfl⟩] at h
    obtain ⟨rfl, rfl⟩ : [] = before ∧ rest = after := by simpa using h
    exact List.suffix_rfl
  | cons a lead ih =>
    obtain ⟨b, s, hs⟩ : ∃ b s, lead ++ c :: c :: rest = b :: s := by
      cases lead with
      | nil => exact ⟨c, c :: rest, rfl⟩
      | cons b lead => exact ⟨b, lead ++ c :: c :: rest, rfl⟩
    rw [List.cons_append, hs, cutAtFirst, ← hs] at h
    split at h
    · obtain ⟨rfl, rfl⟩ : [] = before ∧ s = after := by simpa using h
      cases lead with
      | nil => exact ⟨[c], (List.cons.inj hs).2⟩
      | cons b lead => exact ⟨lead ++ [c, c], by rw [← (List.cons.inj hs).2]; simp⟩
    · obtain ⟨⟨x, y⟩, hxy, heq⟩ := Option.map_eq_some_iff.mp h
      obtain ⟨rfl, rfl⟩ : a :: x = before ∧ y = after := by simpa using heq
      exact ih hxy

/-! The last pair -/

theorem cutAtLast_eq_none_iff : cutAtLast c s = none ↔ ¬ Doubled c s := by
  fun_induction cutAtLast c s with
  | case1 a b s x y hxy _ =>
    have hs : Doubled c (b :: s) := by
      rw [eq_of_cutAtLast hxy]
      exact ⟨x, y, by simp⟩
    simp only [reduceCtorEq, false_iff]
    exact fun hnot => hnot (doubled_cons.mpr (.inr hs))
  | case2 a b s hnone hc => simp [doubled_cons, hc]
  | case3 a b s hnone hc ih =>
    rw [doubled_cons, List.head?_cons, Option.some.injEq]
    simp only [true_iff]
    exact fun hs => hs.elim hc (ih.mp hnone)
  | case4 s hs =>
    rcases s with _ | ⟨a, _ | ⟨b, s⟩⟩
    · simp
    · simp [doubled_cons]
    · exact absurd rfl (hs a b s)

/-- No pair follows the last one, nor overlaps it from the right. -/
theorem not_doubled_of_cutAtLast (h : cutAtLast c s = some (before, after)) :
    ¬ Doubled c (c :: after) := by
  fun_induction cutAtLast c s generalizing before with
  | case1 a b s x y hxy ih =>
    obtain ⟨rfl, rfl⟩ : a :: x = before ∧ y = after := by simpa using h
    exact ih hxy
  | case2 a b s hnone hc =>
    obtain ⟨rfl, rfl⟩ : [] = before ∧ s = after := by simpa using h
    obtain ⟨-, rfl⟩ := hc
    exact cutAtLast_eq_none_iff.mp hnone
  | case3 a b s hnone hc => cases h
  | case4 s hs => cases h

theorem cutAtLast_append (h : ¬ Doubled c (c :: after)) (before : List Char) :
    cutAtLast c (before ++ c :: c :: after) = some (before, after) := by
  induction before with
  | nil => rw [List.nil_append, cutAtLast, cutAtLast_eq_none_iff.mpr h, if_pos ⟨rfl, rfl⟩]
  | cons a before ih =>
    obtain ⟨b, s, hs⟩ : ∃ b s, before ++ c :: c :: after = b :: s := by
      cases before with
      | nil => exact ⟨c, c :: after, rfl⟩
      | cons b before => exact ⟨b, before ++ c :: c :: after, rfl⟩
    rw [List.cons_append, hs, cutAtLast, ← hs, ih]

/-! Sources in pieces -/

/-- No two opening braces have two closing braces behind them. -/
def TagFree (s : List Char) : Prop :=
  ∀ before inside after, s ≠ before ++ '{' :: '{' :: inside ++ '}' :: '}' :: after

/-- It is enough to look behind the first two opening braces. -/
theorem tagFree_of_cutAtFirst (h : cutAtFirst '{' s = some (before, after))
    (hafter : ¬ Doubled '}' after) : TagFree s := by
  rintro lead inside rest rfl
  rw [List.append_assoc, List.cons_append, List.cons_append] at h
  refine hafter (List.IsInfix.trans ?_ (suffix_of_cutAtFirst h).isInfix)
  exact ⟨inside, rest, by simp⟩

theorem tagFree_of_not_doubled (h : ¬ Doubled '{' s) : TagFree s := by
  rintro before inside after rfl
  exact h ⟨before, inside ++ '}' :: '}' :: after, by simp⟩

theorem tagFree_nil : TagFree [] :=
  tagFree_of_not_doubled (by simp)

theorem TagFree.not_doubled (h : TagFree s) (hs : s = before ++ '{' :: '{' :: after) :
    ¬ Doubled '}' after := by
  rintro ⟨inside, rest, rfl⟩
  exact h before inside rest (by simp [hs])

theorem literals_of_ne_nil (h : s ≠ []) : literals s = [literal s] := by
  rw [literals, if_neg (by simpa using h)]

theorem ofSource_of_tagFree (h : TagFree s) : ofSource s = literals s := by
  rw [ofSource]
  split
  · rfl
  · rename_i before inside opened
    split
    · rfl
    · rename_i body rest closed
      have hclosed := cutAtFirst_eq_none_iff.mpr (h.not_doubled (eq_of_cutAtFirst opened))
      rw [closed] at hclosed
      exact absurd hclosed (Option.some_ne_none _)

/-- The first pieces of a source, given where its first tag opens and closes. -/
theorem ofSource_of_cuts {inside body rest : List Char}
    (opened : cutAtFirst '{' s = some (before, inside))
    (closed : cutAtFirst '}' inside = some (body, rest)) :
    ofSource s =
      (match cutAtLast '{' body with
        | none => literals before ++ [tag body]
        | some (stray, body) => [literal (before ++ '{' :: '{' :: stray), tag body]) ++
      ofSource rest := by
  rw [ofSource]
  split
  · rename_i hnone
    rw [opened] at hnone
    exact absurd hnone (Option.some_ne_none _)
  · rename_i before' inside' hsome
    rw [opened] at hsome
    cases hsome
    split
    · rename_i hnone
      rw [closed] at hnone
      exact absurd hnone (Option.some_ne_none _)
    · rename_i body' rest' hsome
      rw [closed] at hsome
      cases hsome
      rfl

/-- A text that is not doubled, and does not end in the character, does not make a pair with one
that follows. -/
theorem not_doubled_concat (h : ¬ Doubled c s) (hlast : s.getLast? ≠ some c) :
    ¬ Doubled c (s ++ [c]) := by
  rw [doubled_append]
  rintro (hs | hc | ⟨hs, -⟩)
  · exact h hs
  · simp [doubled_cons] at hc
  · exact hlast hs

/-- A tag opens behind the text, and `body` is what stands between its braces: no earlier braces make
a tag of the text, and no braces of the body open or close a tag in place of those around it. A brace
at the end of the text would open the tag, unless two others come before it; then the last two braces
do, and the body does not begin with one. -/
structure Opens (text body : List Char) : Prop where
  tagFree : TagFree text
  last : text.getLast? = some '{' → Doubled '{' text
  opening : ¬ Doubled '{' body
  closing : ¬ Doubled '}' (body ++ ['}'])
  first : Doubled '{' text → body.head? ≠ some '{'

theorem opens_of_not_mem {text body : List Char} (htext : TagFree text)
    (hlast : text.getLast? = some '{' → Doubled '{' text) (hopening : '{' ∉ body)
    (hclosing : '}' ∉ body) : Opens text body where
  tagFree := htext
  last := hlast
  opening := not_doubled_of_not_mem hopening
  closing := not_doubled_concat (not_doubled_of_not_mem hclosing) fun h =>
    hclosing (List.mem_of_getLast? h)
  first _ h := hopening (List.mem_of_head? h)

theorem Opens.nil {text body : List Char} (h : Opens text body) : Opens [] body where
  tagFree := tagFree_nil
  last := nofun
  opening := h.opening
  closing := h.closing
  first hnil := absurd hnil (by simp)

/-- A tag that opens behind a text is cut out there. -/
theorem ofSource_append_tag {body : List Char} (h : Opens s body) (rest : List Char) :
    ofSource (s ++ '{' :: '{' :: body ++ '}' :: '}' :: rest) =
      literals s ++ tag body :: ofSource rest := by
  rw [List.append_assoc]
  cases hs : cutAtFirst '{' s with
  | none =>
    have hnone := cutAtFirst_eq_none_iff.mp hs
    have opened := cutAtFirst_append (not_doubled_concat hnone fun hc => hnone (h.last hc))
      (body ++ '}' :: '}' :: rest)
    rw [List.cons_append, List.cons_append,
      ofSource_of_cuts opened (cutAtFirst_append h.closing rest),
      cutAtLast_eq_none_iff.mpr h.opening]
    simp
  | some cut =>
    obtain ⟨before, stray⟩ := cut
    have hcut := eq_of_cutAtFirst hs
    have opened := cutAtFirst_append (not_doubled_of_cutAtFirst hs)
      (stray ++ '{' :: '{' :: body ++ '}' :: '}' :: rest)
    have hstray : ¬ Doubled '}' (stray ++ '{' :: '{' :: body ++ ['}']) := by
      rw [List.append_assoc, doubled_append]
      rintro (hc | hc | hc)
      · exact h.tagFree.not_doubled hcut hc
      · simp only [List.cons_append, doubled_cons] at hc
        exact h.closing (by simpa using hc)
      · simp at hc
    have last : cutAtLast '{' (stray ++ '{' :: '{' :: body) = some (stray, body) := by
      refine cutAtLast_append ?_ stray
      rw [doubled_cons]
      rintro (hc | hc)
      · exact h.first ⟨before, stray, by rw [hcut]; simp⟩ hc.2
      · exact h.opening hc
    have hsource : s ++ ('{' :: '{' :: body ++ '}' :: '}' :: rest) =
        before ++ '{' :: '{' :: (stray ++ '{' :: '{' :: body ++ '}' :: '}' :: rest) := by
      rw [hcut]
      simp
    rw [hsource, ofSource_of_cuts opened (cutAtFirst_append hstray rest), last]
    show [literal (before ++ '{' :: '{' :: stray), tag body] ++ ofSource rest = _
    rw [← hcut, literals_of_ne_nil (by rw [hcut]; simp)]
    rfl

/-- A text at the beginning of a source, up to the first tag or to the end. -/
inductive Leads (text : List Char) : List Char → Prop where
  | nil : TagFree text → Leads text []
  | tag {body rest : List Char} : Opens text body →
      Leads text ('{' :: '{' :: body ++ '}' :: '}' :: rest)

theorem Leads.nil_left {text rest : List Char} (h : Leads text rest) : Leads [] rest := by
  cases h with
  | nil => exact .nil tagFree_nil
  | tag hopens => exact .tag hopens.nil

theorem ofSource_append {text rest : List Char} (h : Leads text rest) :
    ofSource (text ++ rest) = literals text ++ ofSource rest := by
  cases h with
  | nil htext =>
    have hnil : ofSource [] = [] := ofSource_of_tagFree tagFree_nil
    rw [List.append_nil, hnil, List.append_nil, ofSource_of_tagFree htext]
  | @tag body rest hopens =>
    have htag := ofSource_append_tag hopens.nil rest
    rw [List.nil_append] at htag
    rw [htag, ← List.append_assoc, ofSource_append_tag hopens]
    rfl

/-- The first braces open the tag where no others come before the closing ones. -/
theorem opens_of_cutAtFirst {body : List Char} (hbefore : ¬ Doubled '{' (before ++ ['{']))
    (hopening : ¬ Doubled '{' body) (hclosing : ¬ Doubled '}' (body ++ ['}'])) :
    Opens before body := by
  have hnot : ¬ Doubled '{' before := fun h => hbefore (doubled_append.mpr (.inl h))
  have hend : before.getLast? ≠ some '{' := fun h =>
    hbefore (doubled_append.mpr (.inr (.inr ⟨h, rfl⟩)))
  exact ⟨tagFree_of_not_doubled hnot, fun h => absurd h hend, hopening, hclosing,
    fun h => absurd h hnot⟩

/-- The last braces open the tag where there are others. -/
theorem opens_of_cutAtLast {stray tail : List Char} (hbefore : ¬ Doubled '{' (before ++ ['{']))
    (hopening : ¬ Doubled '{' ('{' :: tail))
    (hclosing : ¬ Doubled '}' (stray ++ '{' :: '{' :: tail ++ ['}'])) :
    Opens (before ++ '{' :: '{' :: stray) tail := by
  have hstray : ¬ Doubled '}' stray := fun h =>
    hclosing (h.trans ⟨[], '{' :: '{' :: tail ++ ['}'], by simp⟩)
  have htail : ¬ Doubled '}' (tail ++ ['}']) := fun h =>
    hclosing (h.trans ⟨stray ++ ['{', '{'], [], by simp⟩)
  rw [doubled_cons, not_or] at hopening
  exact ⟨tagFree_of_cutAtFirst (cutAtFirst_append hbefore stray) hstray,
    fun _ => ⟨before, stray, by simp⟩, hopening.2, htail, fun _ hhead => hopening.1 ⟨rfl, hhead⟩⟩

/-- Every source begins with a text up to the first tag or to the end. -/
theorem exists_leads (s : List Char) : ∃ text rest, s = text ++ rest ∧ Leads text rest := by
  cases opened : cutAtFirst '{' s with
  | none =>
    have htext := tagFree_of_not_doubled (cutAtFirst_eq_none_iff.mp opened)
    exact ⟨s, [], (List.append_nil s).symm, .nil htext⟩
  | some cut =>
    obtain ⟨before, inside⟩ := cut
    have hbefore := not_doubled_of_cutAtFirst opened
    cases closed : cutAtFirst '}' inside with
    | none =>
      have htext := tagFree_of_cutAtFirst opened (cutAtFirst_eq_none_iff.mp closed)
      exact ⟨s, [], (List.append_nil s).symm, .nil htext⟩
    | some cut =>
      obtain ⟨body, rest⟩ := cut
      have hclosing := not_doubled_of_cutAtFirst closed
      have hs : s = before ++ '{' :: '{' :: (body ++ '}' :: '}' :: rest) := by
        rw [eq_of_cutAtFirst opened, eq_of_cutAtFirst closed]
      cases last : cutAtLast '{' body with
      | none =>
        have hopening := cutAtLast_eq_none_iff.mp last
        exact ⟨before, _, hs, .tag (opens_of_cutAtFirst hbefore hopening hclosing)⟩
      | some cut =>
        obtain ⟨stray, tail⟩ := cut
        rw [eq_of_cutAtLast last] at hs hclosing
        have hopening := not_doubled_of_cutAtLast last
        exact ⟨before ++ '{' :: '{' :: stray, '{' :: '{' :: tail ++ '}' :: '}' :: rest,
          by simp [hs], .tag (opens_of_cutAtLast hbefore hopening hclosing)⟩

end Piece
end TripCards
