/-
The texts between braces that are no tag.

`Tag.Misspells` goes with `Tag.Spells`: it says what a text looks like that has a fault, and which
fault it is. `read_eq_error_iff` says that reading refuses just these texts, with that fault. Since
reading gives one answer, every text spells a tag or has one fault, and none has both.
-/
import TripCards.Proofs.Template.Grammar

namespace TripCards
namespace Tag

open Text (AllBlank FirstWord Trimmed isBlank)

/-- No path that a template can name is written like this. -/
def NoPath (s : List Char) : Prop :=
  ∀ path : Path, path.Plain → path.toChars ≠ s

/-- No block is opened or closed with this keyword. -/
def NoKeyword (s : List Char) : Prop :=
  ∀ kind : BlockKind, s ≠ kind.keyword.toList

/-- The texts with a fault, with no blanks at their ends. -/
inductive Misspells : TagFault → List Char → Prop where
  | empty : Misspells .empty []
  | unknownBlock {before word after : List Char} : FirstWord before word after → NoKeyword word →
      Misspells (.unknownBlock (String.ofList word)) ('#' :: before ++ word ++ after)
  | missingPath {kind : BlockKind} {before : List Char} : AllBlank before →
      Misspells (.missingPath kind) ('#' :: before ++ kind.keyword.toList)
  | blockPath {kind : BlockKind} {before between text : List Char} : AllBlank before →
      AllBlank between → between ≠ [] → Trimmed text → text ≠ [] → NoPath text →
      Misspells (.invalidPath (String.ofList text))
        ('#' :: before ++ kind.keyword.toList ++ between ++ text)
  | unknownClosing {before word : List Char} : AllBlank before → Trimmed word → NoKeyword word →
      Misspells (.unknownClosing (String.ofList word)) ('/' :: before ++ word)
  | elseBranch : Misspells .elseBranch "else".toList
  | slotPath {text : List Char} : text ≠ [] → text.head? ≠ some '#' → text.head? ≠ some '/' →
      NoPath text → Misspells (.invalidPath (String.ofList text)) text

variable {s : List Char} {fault : TagFault}

theorem noPath_iff : NoPath s ↔ isPath s = false := by
  constructor
  · intro noPath
    rw [Bool.eq_false_iff]
    exact fun hs => noPath _ (isPath_iff.mp hs) (Path.toChars_ofChars s)
  · rintro hs path plain rfl
    have accepted : isPath path.toChars = true := by
      rw [isPath_iff, plain.ofChars_toChars]
      exact plain
    rw [accepted] at hs
    cases hs

theorem readPath_eq_error_iff :
    readPath s = .error fault ↔ NoPath s ∧ .invalidPath (String.ofList s) = fault := by
  rw [readPath, noPath_iff]
  cases isPath s <;> simp

theorem noKeyword_iff : NoKeyword s ↔ BlockKind.ofKeyword? s = none := by
  constructor
  · intro hs
    cases hkind : BlockKind.ofKeyword? s with
    | none => rfl
    | some kind => exact absurd (BlockKind.eq_of_ofKeyword? hkind) (hs kind)
  · rintro hs kind rfl
    rw [BlockKind.ofKeyword?_keyword] at hs
    cases hs

/-- The text behind the mark of an opening tag, given that no blank ends it. -/
theorem misspells_of_readOpening (hlast : ∀ c, s.getLast? = some c → isBlank c = false)
    (h : readOpening s = .error fault) : Misspells fault ('#' :: s) := by
  obtain ⟨before, word, after, hword, rfl⟩ := Text.exists_firstWord s
  rw [readOpening_firstWord hword] at h
  cases hkind : BlockKind.ofKeyword? word with
  | none =>
    obtain rfl : .unknownBlock (String.ofList word) = fault := by simpa [hkind] using h
    exact .unknownBlock hword (noKeyword_iff.mpr hkind)
  | some kind =>
    simp only [hkind] at h
    obtain rfl := BlockKind.eq_of_ofKeyword? hkind
    split at h
    · rename_i hempty
      obtain rfl := Except.error.inj h
      obtain rfl := Text.eq_nil_of_trim hlast (List.isEmpty_iff.mp hempty)
      rw [List.append_nil]
      exact .missingPath hword.leading
    · rename_i hne
      have hpath : Text.trim after ≠ [] := fun hnil => hne (List.isEmpty_iff.mpr hnil)
      obtain ⟨noPath, rfl⟩ := readPath_eq_error_iff.mp (map_eq_error_iff.mp h)
      obtain ⟨between, hbetween, hbetween_ne, hafter⟩ := hword.exists_between hlast hpath
      have written : Misspells (.invalidPath (String.ofList (Text.trim after)))
          ('#' :: before ++ kind.keyword.toList ++ between ++ Text.trim after) :=
        .blockPath hword.leading hbetween hbetween_ne (Text.trimmed_trim after) hpath noPath
      rwa [List.append_assoc, ← hafter] at written

theorem misspells_of_readClosing (hlast : ∀ c, s.getLast? = some c → isBlank c = false)
    (h : readClosing s = .error fault) : Misspells fault ('/' :: s) := by
  obtain ⟨before, hbefore, hs⟩ := Text.exists_blank_append_trimStart s
  have htrimmed := Text.trimmed_trim s
  rw [readClosing] at h
  rw [Text.trim_of_last hlast] at h htrimmed
  cases hkind : BlockKind.ofKeyword? (Text.trimStart s) with
  | none =>
    obtain rfl : .unknownClosing (String.ofList (Text.trimStart s)) = fault := by
      simpa [hkind] using h
    have written := Misspells.unknownClosing hbefore htrimmed (noKeyword_iff.mpr hkind)
    rwa [List.cons_append, ← hs] at written
  | some kind => simp [hkind] at h

theorem readTrimmed_of_misspells (h : Misspells fault s) : readTrimmed s = .error fault := by
  cases h with
  | empty => rfl
  | @unknownBlock before word after hword noKeyword =>
    show readOpening (before ++ word ++ after) = _
    rw [readOpening_firstWord hword, noKeyword_iff.mp noKeyword]
  | @missingPath kind before hbefore =>
    have hword : FirstWord before kind.keyword.toList [] := kind.firstWord_keyword hbefore nofun
    show readOpening (before ++ kind.keyword.toList) = _
    rw [← List.append_nil (before ++ _), readOpening_firstWord hword,
      BlockKind.ofKeyword?_keyword]
    rfl
  | @blockPath kind before between text hbefore hbetween hne htrimmed htext noPath =>
    have hword := kind.firstWord_keyword hbefore (Text.head_blank_append hbetween hne text)
    have hempty : text.isEmpty = false := List.isEmpty_eq_false_iff.mpr htext
    have hread := readPath_eq_error_iff.mpr ⟨noPath, rfl⟩
    show readOpening (before ++ kind.keyword.toList ++ between ++ text) = _
    rw [List.append_assoc, readOpening_firstWord hword, BlockKind.ofKeyword?_keyword,
      Text.trim_append hbetween htrimmed, hempty, hread]
    rfl
  | @unknownClosing before word hbefore htrimmed noKeyword =>
    show readClosing (before ++ word) = _
    rw [readClosing, Text.trim_append hbefore htrimmed, noKeyword_iff.mp noKeyword]
  | elseBranch => rfl
  | slotPath hne hopening hclosing noPath =>
    have hread := readPath_eq_error_iff.mpr ⟨noPath, rfl⟩
    rw [readTrimmed.eq_def]
    split
    · exact absurd rfl hne
    · exact absurd rfl hopening
    · exact absurd rfl hclosing
    · -- The text of an else branch would be a path, if it were not set apart.
      split
      · rename_i helse
        rw [noPath_iff, helse] at noPath
        exact absurd noPath (by decide)
      · rw [hread]
        rfl

theorem readTrimmed_eq_error_iff (hs : Trimmed s) :
    readTrimmed s = .error fault ↔ Misspells fault s := by
  refine ⟨fun h => ?_, readTrimmed_of_misspells⟩
  have hlast {c : Char} {t : List Char} (ht : s = c :: t) :
      ∀ d, t.getLast? = some d → isBlank d = false := by
    intro d hd
    refine hs.last d ?_
    rw [ht, List.getLast?_cons, hd]
    rfl
  rw [readTrimmed.eq_def] at h
  split at h
  · obtain rfl := Except.error.inj h
    exact .empty
  · exact misspells_of_readOpening (hlast rfl) h
  · exact misspells_of_readClosing (hlast rfl) h
  · rename_i hnil hopening hclosing
    split at h
    · rename_i helse
      obtain rfl := Except.error.inj h
      rw [helse]
      exact .elseBranch
    · obtain ⟨noPath, rfl⟩ := readPath_eq_error_iff.mp (map_eq_error_iff.mp h)
      refine .slotPath hnil (fun hhead => ?_) (fun hhead => ?_) noPath
      · obtain ⟨t, ht⟩ := List.head?_eq_some_iff.mp hhead
        exact hopening t ht
      · obtain ⟨t, ht⟩ := List.head?_eq_some_iff.mp hhead
        exact hclosing t ht

/-- Reading a tag refuses the texts that have a fault, with blanks around them. -/
theorem read_eq_error_iff {inside : List Char} :
    read inside = .error fault ↔ Misspells fault (Text.trim inside) :=
  readTrimmed_eq_error_iff (Text.trimmed_trim inside)

end Tag
end TripCards
