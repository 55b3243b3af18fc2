/-
Texts without blanks at their ends, and what can stand inside the names of a path.
-/
import Mathlib.Data.List.TakeWhile
import TripCards.Template.Tag

namespace TripCards
namespace Text

def AllBlank (s : List Char) : Prop :=
  ∀ c ∈ s, isBlank c = true

theorem allBlank_nil : AllBlank [] :=
  List.forall_mem_nil _

/-- Neither the first character nor the last one is blank. -/
structure Trimmed (s : List Char) : Prop where
  first : ∀ c, s.head? = some c → isBlank c = false
  last : ∀ c, s.getLast? = some c → isBlank c = false

theorem trimStart_append {g : List Char} (hg : AllBlank g) (s : List Char) :
    trimStart (g ++ s) = trimStart s :=
  List.dropWhile_append_of_pos hg

theorem exists_blank_append_trimStart (s : List Char) :
    ∃ g, AllBlank g ∧ s = g ++ trimStart s :=
  ⟨s.takeWhile isBlank, fun _ hc => List.mem_takeWhile_imp hc,
    List.takeWhile_append_dropWhile.symm⟩

theorem first_trimStart (s : List Char) {c : Char} (h : (trimStart s).head? = some c) :
    isBlank c = false := by
  have hnot := List.head?_dropWhile_not isBlank s
  rw [← trimStart, h] at hnot
  exact hnot

theorem trimStart_of_first {s : List Char} (h : ∀ c, s.head? = some c → isBlank c = false) :
    trimStart s = s := by
  cases s with
  | nil => rfl
  | cons c s => exact trimStart_of_not_blank (h c rfl) s

theorem trimEnd_of_last {s : List Char} (h : ∀ c, s.getLast? = some c → isBlank c = false) :
    trimEnd s = s := by
  have hrev : trimStart s.reverse = s.reverse :=
    trimStart_of_first fun c hc => h c (by rwa [List.head?_reverse] at hc)
  rw [trimEnd, ← trimStart, hrev, List.reverse_reverse]

theorem last_trimEnd (s : List Char) {c : Char} (h : (trimEnd s).getLast? = some c) :
    isBlank c = false := by
  rw [trimEnd, List.getLast?_reverse] at h
  exact first_trimStart s.reverse h

theorem trimEnd_isPrefix (s : List Char) : trimEnd s <+: s := by
  rw [trimEnd, ← List.reverse_suffix, List.reverse_reverse]
  exact List.dropWhile_suffix isBlank

theorem trimmed_trim (s : List Char) : Trimmed (trim s) where
  first c h := by
    obtain ⟨t, ht⟩ := trimEnd_isPrefix (trimStart s)
    refine first_trimStart s ?_
    rw [← ht, List.head?_append, ← trim, h, Option.some_or]
  last _ h := last_trimEnd _ h

theorem trim_of_trimmed {s : List Char} (h : Trimmed s) : trim s = s := by
  rw [trim, trimStart_of_first h.first, trimEnd_of_last h.last]

theorem trim_append {g s : List Char} (hg : AllBlank g) (hs : Trimmed s) : trim (g ++ s) = s := by
  rw [trim, trimStart_append hg, ← trim, trim_of_trimmed hs]

theorem trim_of_last {s : List Char} (h : ∀ c, s.getLast? = some c → isBlank c = false) :
    trim s = trimStart s := by
  obtain ⟨g, -, hs⟩ := exists_blank_append_trimStart s
  refine trimEnd_of_last fun c hc => h c ?_
  rw [hs, List.getLast?_append, hc, Option.some_or]

/-- The first word of a text, between the blanks in front of it and the rest of the text behind it,
which goes on with a blank. A text of blanks has an empty word, with nothing behind it. -/
structure FirstWord (before word after : List Char) : Prop where
  leading : AllBlank before
  unbroken : ∀ c ∈ word, isBlank c = false
  stop : ∀ c, after.head? = some c → isBlank c = true
  ending : word = [] → after = []

theorem exists_firstWord (s : List Char) :
    ∃ before word after, FirstWord before word after ∧ s = before ++ word ++ after := by
  obtain ⟨before, hbefore, hs⟩ := exists_blank_append_trimStart s
  have hword := (trimStart s).takeWhile_append_dropWhile (p := fun c => !isBlank c)
  refine ⟨before, _, _, ⟨hbefore, fun c hc => ?_, fun c hc => ?_, fun hnil => ?_⟩,
    by rw [List.append_assoc, hword]; exact hs⟩
  · simpa using List.mem_takeWhile_imp hc
  · have hstop := (trimStart s).head?_dropWhile_not fun c => !isBlank c
    rw [hc] at hstop
    simpa using hstop
  · -- Whatever is left when the blanks are gone begins with a character of a word.
    rw [hnil, List.nil_append] at hword
    rw [hword]
    cases hrest : trimStart s with
    | nil => rfl
    | cons c rest =>
      have hfirst : isBlank c = false := first_trimStart s (by rw [hrest]; rfl)
      rw [hrest, List.takeWhile_cons, hfirst] at hnil
      cases hnil

theorem FirstWord.trimStart {before word after : List Char} (h : FirstWord before word after) :
    Text.trimStart (before ++ word ++ after) = word ++ after := by
  rw [List.append_assoc, trimStart_append h.leading, trimStart_of_first]
  intro c hc
  cases word with
  | nil =>
    rw [h.ending rfl] at hc
    cases hc
  | cons d word =>
    obtain rfl := Option.some.inj hc
    exact h.unbroken d List.mem_cons_self

theorem FirstWord.takeWhile {before word after : List Char} (h : FirstWord before word after) :
    (word ++ after).takeWhile (!isBlank ·) = word := by
  have hword : ∀ c ∈ word, (!isBlank c) = true := fun c hc => by rw [h.unbroken c hc]; rfl
  rw [List.takeWhile_append_of_pos hword]
  cases after with
  | nil => exact List.append_nil word
  | cons c after => rw [List.takeWhile_cons, h.stop c rfl]; exact List.append_nil word

theorem FirstWord.dropWhile {before word after : List Char} (h : FirstWord before word after) :
    (word ++ after).dropWhile (!isBlank ·) = after := by
  have hword : ∀ c ∈ word, (!isBlank c) = true := fun c hc => by rw [h.unbroken c hc]; rfl
  rw [List.dropWhile_append_of_pos hword]
  cases after with
  | nil => rfl
  | cons c after => rw [List.dropWhile_cons, h.stop c rfl]; rfl

theorem head_blank_append {between : List Char} (hbetween : AllBlank between) (hne : between ≠ [])
    (s : List Char) : ∀ c, (between ++ s).head? = some c → isBlank c = true := by
  obtain ⟨d, others, rfl⟩ := List.exists_cons_of_ne_nil hne
  rintro c hc
  obtain rfl := Option.some.inj hc
  exact hbetween d List.mem_cons_self

/-- What stands behind the first word stands behind blanks, and reaches to the end of a text that does
not end with a blank. -/
theorem FirstWord.exists_between {before word after : List Char} (h : FirstWord before word after)
    (hlast : ∀ c, (before ++ word ++ after).getLast? = some c → isBlank c = false)
    (hne : trim after ≠ []) :
    ∃ between, AllBlank between ∧ between ≠ [] ∧ after = between ++ trim after := by
  obtain ⟨between, hbetween, hafter⟩ := exists_blank_append_trimStart after
  have htrim : trim after = Text.trimStart after := by
    refine trim_of_last fun c hc => hlast c ?_
    rw [List.getLast?_append, hc, Option.some_or]
  rw [htrim] at hne ⊢
  refine ⟨between, hbetween, ?_, hafter⟩
  rintro rfl
  obtain ⟨c, rest, hc⟩ := List.exists_cons_of_ne_nil hne
  have hnot : isBlank c = false := first_trimStart after (by rw [hc]; rfl)
  have hblank : isBlank c = true := h.stop c (by rw [hafter, List.nil_append, hc]; rfl)
  rw [hnot] at hblank
  cases hblank

/-- Trimming takes nothing but blanks away. -/
theorem mem_trim {s : List Char} {c : Char} (hc : isBlank c = false) (h : c ∈ s) : c ∈ trim s := by
  have mem_trimStart {s : List Char} (h : c ∈ s) : c ∈ trimStart s := by
    obtain ⟨g, hg, hs⟩ := exists_blank_append_trimStart s
    rw [hs, List.mem_append] at h
    rcases h with h | h
    · rw [hg c h] at hc
      exact absurd hc (by decide)
    · exact h
  rw [trim, trimEnd, List.mem_reverse]
  exact mem_trimStart (List.mem_reverse.mpr (mem_trimStart h))

theorem allBlank_of_trim {s : List Char} (h : trim s = []) : AllBlank s := by
  intro c hc
  cases hblank : isBlank c with
  | true => rfl
  | false =>
    have hmem := mem_trim hblank hc
    rw [h] at hmem
    cases hmem

theorem eq_nil_of_trim {lead after : List Char}
    (hlast : ∀ c, (lead ++ after).getLast? = some c → isBlank c = false)
    (hnil : trim after = []) : after = [] := by
  cases hc : after.getLast? with
  | none => exact List.getLast?_eq_none_iff.mp hc
  | some c =>
    have hblank := allBlank_of_trim hnil c (List.mem_of_getLast? hc)
    rw [hlast c (by rw [List.getLast?_append, hc, Option.some_or])] at hblank
    cases hblank

/-- The code points of White_Space, one by one. -/
def blanks : List Nat :=
  [0x09, 0x0A, 0x0B, 0x0C, 0x0D, 0x20, 0x85, 0xA0, 0x1680, 0x2000, 0x2001, 0x2002, 0x2003, 0x2004,
    0x2005, 0x2006, 0x2007, 0x2008, 0x2009, 0x200A, 0x2028, 0x2029, 0x202F, 0x205F, 0x3000]

theorem mem_blanks_of_isBlank {c : Char} (h : isBlank c = true) : c.toNat ∈ blanks := by
  simp only [isBlank, Bool.or_eq_true, Bool.and_eq_true, decide_eq_true_eq, beq_iff_eq] at h
  simp only [blanks, List.mem_cons, List.not_mem_nil, or_false]
  omega

theorem isNameChar_of_mem_blanks : ∀ n ∈ blanks, Tag.isNameChar (Char.ofNat n) = false := by
  decide +kernel

/-- A name in a path has no blanks in it. -/
theorem isBlank_of_isNameChar {c : Char} (h : Tag.isNameChar c = true) : isBlank c = false := by
  rw [Bool.eq_false_iff]
  intro hblank
  have hname := isNameChar_of_mem_blanks c.toNat (mem_blanks_of_isBlank hblank)
  rw [Char.ofNat_toNat, h] at hname
  exact absurd hname (by decide)

end Text
end TripCards
