/-
The grammar of tags.

`Tag.Spells` says which texts mean a tag, once the blanks at their ends are gone. It is given by
what a tag looks like and not by how it is read; `read_eq_ok_iff` says that reading accepts just
these texts, and finds the tag that they mean.
-/
import TripCards.Proofs.Outcome
import TripCards.Proofs.Text.Trim

namespace TripCards

open Text (AllBlank Trimmed isBlank)

namespace Path

/-- The characters of names. -/
def NameChar (c : Char) : Prop :=
  Text.isAlphanumeric c = true ∨ c = '_' ∨ c = '-' ∨ c = '@' ∨ c = '$'

/-- The paths that a template can name: every name has a character, and no others than those of
names. -/
def Plain (path : Path) : Prop :=
  ∀ name ∈ path.head :: path.tail, name.toList ≠ [] ∧ ∀ c ∈ name.toList, NameChar c

end Path

namespace Tag

/-- The texts of a tag, with no blanks at their ends. -/
inductive Spells : Tag → List Char → Prop where
  | slot {path : Path} : path.Plain → path.toChars ≠ "else".toList →
      Spells (.slot path) path.toChars
  | opening {kind : BlockKind} {path : Path} {before between : List Char} :
      AllBlank before → AllBlank between → between ≠ [] → path.Plain →
      Spells (.opening kind path)
        ('#' :: before ++ kind.keyword.toList ++ between ++ path.toChars)
  | closing {kind : BlockKind} {before : List Char} : AllBlank before →
      Spells (.closing kind) ('/' :: before ++ kind.keyword.toList)

theorem isNameChar_iff {c : Char} : isNameChar c = true ↔ Path.NameChar c := by
  simp only [isNameChar, Path.NameChar, Bool.or_eq_true, beq_iff_eq, or_assoc]

theorem isName_iff {s : List Char} :
    isName s = true ↔ s ≠ [] ∧ ∀ c ∈ s, Path.NameChar c := by
  simp only [isName, Bool.and_eq_true, Bool.not_eq_true', List.isEmpty_eq_false_iff, List.all_eq_true,
    isNameChar_iff]

end Tag

namespace Path

theorem splitDots_of_no_dot {s : List Char} (h : '.' ∉ s) : splitDots s = (s, []) := by
  induction s with
  | nil => rfl
  | cons c s ih =>
    rw [List.mem_cons, not_or] at h
    simp only [splitDots, ih h.2, if_neg (Ne.symm h.1)]

theorem splitDots_append_dot {first : List Char} (h : '.' ∉ first) (s : List Char) :
    splitDots (first ++ '.' :: s) = (first, (splitDots s).1 :: (splitDots s).2) := by
  induction first with
  | nil => simp only [List.nil_append, splitDots, if_true]
  | cons c first ih =>
    rw [List.mem_cons, not_or] at h
    simp only [List.cons_append, splitDots, ih h.2, if_neg (Ne.symm h.1)]

/-- Parts without dots are found again in the text that joins them. -/
theorem splitDots_joinDots {first : List Char} {others : List (List Char)} (h : '.' ∉ first)
    (hothers : ∀ part ∈ others, '.' ∉ part) :
    splitDots (joinDots first others) = (first, others) := by
  induction others generalizing first with
  | nil => exact splitDots_of_no_dot h
  | cons next others ih =>
    rw [joinDots, splitDots_append_dot h, ih (hothers next List.mem_cons_self)
      fun part hpart => hothers part (List.mem_cons_of_mem _ hpart)]

theorem not_nameChar_dot : ¬ NameChar '.' := by
  rw [← Tag.isNameChar_iff]
  decide

variable {path : Path}

theorem Plain.splitDots_toChars (h : path.Plain) :
    splitDots path.toChars = (path.head.toList, path.tail.map String.toList) := by
  refine splitDots_joinDots (fun hdot => not_nameChar_dot ?_) fun part hpart hdot =>
    not_nameChar_dot ?_
  · exact (h path.head List.mem_cons_self).2 _ hdot
  · obtain ⟨name, hname, rfl⟩ := List.mem_map.mp hpart
    exact (h name (List.mem_cons_of_mem _ hname)).2 _ hdot

theorem Plain.ofChars_toChars (h : path.Plain) : ofChars path.toChars = path := by
  have unchanged : String.ofList ∘ String.toList = id := funext fun _ => String.ofList_toList
  simp only [ofChars, h.splitDots_toChars, String.ofList_toList, List.map_map, unchanged,
    List.map_id]

/-- The text of a path has no other characters than those of its names and dots. -/
theorem Plain.nameChar_or_dot (h : path.Plain) {c : Char} (hc : c ∈ path.toChars) :
    NameChar c ∨ c = '.' := by
  have parts : ∀ part ∈ path.head.toList :: path.tail.map String.toList, ∀ c ∈ part, NameChar c := by
    intro part hpart
    rw [← List.map_cons (f := String.toList)] at hpart
    obtain ⟨name, hname, rfl⟩ := List.mem_map.mp hpart
    exact (h name hname).2
  rw [toChars] at hc
  generalize path.head.toList = first, path.tail.map String.toList = others at hc parts
  induction others generalizing first with
  | nil => exact .inl (parts first List.mem_cons_self c hc)
  | cons next others ih =>
    rw [joinDots, List.mem_append, List.mem_cons] at hc
    rcases hc with hc | rfl | hc
    · exact .inl (parts first List.mem_cons_self c hc)
    · exact .inr rfl
    · exact ih next hc fun part hpart => parts part (List.mem_cons_of_mem _ hpart)

end Path

namespace Tag

variable {s : List Char} {tag : Tag}

theorem isPath_iff : isPath s = true ↔ (Path.ofChars s).Plain := by
  simp only [isPath, Path.Plain, Path.ofChars, Bool.and_eq_true, List.all_eq_true, isName_iff,
    List.forall_mem_cons, List.forall_mem_map, String.toList_ofList]

theorem readPath_eq_ok_iff {path : Path} :
    readPath s = .ok path ↔ path.Plain ∧ path.toChars = s := by
  constructor
  · intro h
    rw [readPath] at h
    split at h
    · rename_i hs
      obtain rfl := Except.ok.inj h
      exact ⟨isPath_iff.mp hs, Path.toChars_ofChars s⟩
    · cases h
  · rintro ⟨hplain, rfl⟩
    have hpath : isPath path.toChars = true := by
      rw [isPath_iff, hplain.ofChars_toChars]
      exact hplain
    rw [readPath, if_pos hpath, hplain.ofChars_toChars]

end Tag

namespace Path

variable {path : Path} {c : Char}

theorem Plain.not_blank (h : path.Plain) (hc : c ∈ path.toChars) : isBlank c = false := by
  rcases h.nameChar_or_dot hc with hname | rfl
  · exact Text.isBlank_of_isNameChar (Tag.isNameChar_iff.mpr hname)
  · decide

theorem Plain.trimmed (h : path.Plain) : Trimmed path.toChars :=
  ⟨fun _ hc => h.not_blank (List.mem_of_head? hc), fun _ hc => h.not_blank (List.mem_of_getLast? hc)⟩

theorem Plain.toChars_ne_nil (h : path.Plain) : path.toChars ≠ [] := by
  have hhead := (h path.head List.mem_cons_self).1
  rw [toChars]
  cases path.tail with
  | nil => exact hhead
  | cons next others => simp [joinDots]

/-- A character that marks tags is not in a path. -/
theorem Plain.ne_mark (h : path.Plain) (hc : c ∈ path.toChars) :
    c ≠ '#' ∧ c ≠ '/' ∧ c ≠ '{' ∧ c ≠ '}' := by
  have marks : ∀ m ∈ ['#', '/', '{', '}'], Tag.isNameChar m = false ∧ m ≠ '.' := by
    intro m hm
    simp only [List.mem_cons, List.not_mem_nil, or_false] at hm
    rcases hm with rfl | rfl | rfl | rfl <;> decide
  have hne : ∀ m ∈ ['#', '/', '{', '}'], c ≠ m := by
    rintro m hm rfl
    rcases h.nameChar_or_dot hc with hname | hdot
    · have hnot := (marks c hm).1
      rw [Tag.isNameChar_iff.mpr hname] at hnot
      exact absurd hnot (by decide)
    · exact (marks c hm).2 hdot
  exact ⟨hne _ (by decide), hne _ (by decide), hne _ (by decide), hne _ (by decide)⟩

end Path

namespace BlockKind

theorem eq_of_ofKeyword? {s : List Char} {kind : BlockKind} (h : ofKeyword? s = some kind) :
    s = kind.keyword.toList := by
  rw [ofKeyword?] at h
  split at h
  · obtain rfl := Option.some.inj h
    assumption
  · split at h
    · obtain rfl := Option.some.inj h
      assumption
    · cases h

theorem keyword_not_blank (kind : BlockKind) : ∀ c ∈ kind.keyword.toList, isBlank c = false := by
  have hall : kind.keyword.toList.all (!isBlank ·) = true := by cases kind <;> decide
  intro c hc
  simpa using List.all_eq_true.mp hall c hc

theorem keyword_ne_nil (kind : BlockKind) : kind.keyword.toList ≠ [] := by
  cases kind <;> decide

theorem firstWord_keyword (kind : BlockKind) {before after : List Char} (hbefore : AllBlank before)
    (hafter : ∀ c, after.head? = some c → isBlank c = true) :
    Text.FirstWord before kind.keyword.toList after :=
  ⟨hbefore, kind.keyword_not_blank, hafter, fun hnil => absurd hnil kind.keyword_ne_nil⟩

end BlockKind

namespace Tag

variable {s : List Char} {tag : Tag}

/-- The first word of an opening tag says what it opens; what is behind the word is a path. -/
theorem readOpening_firstWord {before word after : List Char}
    (h : Text.FirstWord before word after) :
    readOpening (before ++ word ++ after) =
      match BlockKind.ofKeyword? word with
      | none => .error (.unknownBlock (String.ofList word))
      | some kind =>
        if (Text.trim after).isEmpty then .error (.missingPath kind)
        else (readPath (Text.trim after)).map (.opening kind) := by
  have hsplit : splitAtBlank (Text.trimStart (before ++ word ++ after)) = (word, Text.trim after) := by
    rw [h.trimStart, splitAtBlank, h.takeWhile, h.dropWhile]
  cases hkind : BlockKind.ofKeyword? word with
  | none => simp only [readOpening, hsplit, hkind]
  | some kind => simp only [readOpening, hsplit, hkind]

theorem readOpening_append {before between : List Char} (kind : BlockKind) {path : Path}
    (hbefore : AllBlank before) (hbetween : AllBlank between) (hne : between ≠ [])
    (hpath : path.Plain) :
    readOpening (before ++ kind.keyword.toList ++ (between ++ path.toChars)) =
      .ok (.opening kind path) := by
  have hword := kind.firstWord_keyword hbefore (Text.head_blank_append hbetween hne path.toChars)
  have hread := readPath_eq_ok_iff.mpr ⟨hpath, rfl⟩
  have htext : path.toChars.isEmpty = false := List.isEmpty_eq_false_iff.mpr hpath.toChars_ne_nil
  simp only [readOpening_firstWord hword, BlockKind.ofKeyword?_keyword,
    Text.trim_append hbetween hpath.trimmed, htext, hread]
  rfl

/-- The text behind the mark of an opening tag, given that no blank ends it. -/
theorem spells_of_readOpening (hlast : ∀ c, s.getLast? = some c → isBlank c = false)
    (h : readOpening s = .ok tag) : Spells tag ('#' :: s) := by
  obtain ⟨before, word, after, hword, rfl⟩ := Text.exists_firstWord s
  rw [readOpening_firstWord hword] at h
  cases hkind : BlockKind.ofKeyword? word with
  | none => simp [hkind] at h
  | some kind =>
    simp only [hkind] at h
    split at h
    · cases h
    · rename_i hne
      obtain ⟨path, hread, rfl⟩ := map_eq_ok_iff.mp h
      obtain ⟨hplain, hpath⟩ := readPath_eq_ok_iff.mp hread
      obtain ⟨between, hbetween, hbetween_ne, hafter⟩ :=
        hword.exists_between hlast fun hnil => hne (List.isEmpty_iff.mpr hnil)
      rw [hafter, ← hpath, BlockKind.eq_of_ofKeyword? hkind]
      simpa using Spells.opening hword.leading hbetween hbetween_ne hplain

theorem spells_of_readClosing (hlast : ∀ c, s.getLast? = some c → isBlank c = false)
    (h : readClosing s = .ok tag) : Spells tag ('/' :: s) := by
  obtain ⟨before, hbefore, hs⟩ := Text.exists_blank_append_trimStart s
  rw [readClosing, Text.trim_of_last hlast] at h
  cases hkind : BlockKind.ofKeyword? (Text.trimStart s) with
  | none => simp [hkind] at h
  | some kind =>
    obtain rfl : Tag.closing kind = tag := by simpa [hkind] using h
    rw [hs, BlockKind.eq_of_ofKeyword? hkind]
    exact .closing hbefore

theorem readClosing_append {before : List Char} (hbefore : AllBlank before) (kind : BlockKind) :
    readClosing (before ++ kind.keyword.toList) = .ok (.closing kind) := by
  have htrimmed : Trimmed kind.keyword.toList :=
    ⟨fun c hc => kind.keyword_not_blank c (List.mem_of_head? hc),
      fun c hc => kind.keyword_not_blank c (List.mem_of_getLast? hc)⟩
  simp only [readClosing, Text.trim_append hbefore htrimmed, BlockKind.ofKeyword?_keyword]

theorem readTrimmed_toChars {path : Path} (hplain : path.Plain)
    (helse : path.toChars ≠ "else".toList) : readTrimmed path.toChars = .ok (.slot path) := by
  have hmark := fun {c} => hplain.ne_mark (c := c)
  have hread := readPath_eq_ok_iff.mpr ⟨hplain, rfl⟩
  rw [readTrimmed.eq_def]
  split
  · rename_i hnil
    exact absurd hnil hplain.toChars_ne_nil
  · rename_i s hs
    exact absurd rfl (hmark (by rw [hs]; exact List.mem_cons_self)).1
  · rename_i s hs
    exact absurd rfl (hmark (by rw [hs]; exact List.mem_cons_self)).2.1
  · rw [if_neg helse, hread]
    rfl

theorem readTrimmed_eq_ok_iff (hs : Trimmed s) : readTrimmed s = .ok tag ↔ Spells tag s := by
  constructor
  · intro h
    have hlast {c : Char} {t : List Char} (ht : s = c :: t) :
        ∀ d, t.getLast? = some d → isBlank d = false := by
      intro d hd
      refine hs.last d ?_
      rw [ht, List.getLast?_cons, hd]
      rfl
    rw [readTrimmed.eq_def] at h
    split at h
    · cases h
    · exact spells_of_readOpening (hlast rfl) h
    · exact spells_of_readClosing (hlast rfl) h
    · split at h
      · cases h
      · rename_i helse
        obtain ⟨path, hread, rfl⟩ := map_eq_ok_iff.mp h
        obtain ⟨hplain, hpath⟩ := readPath_eq_ok_iff.mp hread
        rw [← hpath] at helse ⊢
        exact .slot hplain helse
  · intro h
    cases h with
    | slot hplain helse => exact readTrimmed_toChars hplain helse
    | @opening kind path before between hbefore hbetween hne hplain =>
      rw [List.append_assoc]
      exact readOpening_append kind hbefore hbetween hne hplain
    | closing hbefore => exact readClosing_append hbefore _

/-- Reading a tag accepts the texts that spell one, with blanks around them. -/
theorem read_eq_ok_iff {inside : List Char} :
    read inside = .ok tag ↔ Spells tag (Text.trim inside) :=
  readTrimmed_eq_ok_iff (Text.trimmed_trim inside)

theorem Spells.not_brace (h : Spells tag s) : '{' ∉ s ∧ '}' ∉ s := by
  have blank {g : List Char} (hg : AllBlank g) : '{' ∉ g ∧ '}' ∉ g :=
    ⟨fun h => absurd (hg _ h) (by decide), fun h => absurd (hg _ h) (by decide)⟩
  have word (kind : BlockKind) : '{' ∉ kind.keyword.toList ∧ '}' ∉ kind.keyword.toList := by
    cases kind <;> decide
  have plain {path : Path} (hp : path.Plain) : '{' ∉ path.toChars ∧ '}' ∉ path.toChars :=
    ⟨fun h => (hp.ne_mark h).2.2.1 rfl, fun h => (hp.ne_mark h).2.2.2 rfl⟩
  cases h with
  | slot hplain helse => exact plain hplain
  | @opening kind path before between hbefore hbetween hne hplain =>
    simp [blank hbefore, blank hbetween, word kind, plain hplain]
  | @closing kind before hbefore => simp [blank hbefore, word kind]

/-- What a tag means has no braces, and so there are none between its braces. -/
theorem not_brace_of_read {inside : List Char} (h : read inside = .ok tag) :
    '{' ∉ inside ∧ '}' ∉ inside := by
  have hs := (read_eq_ok_iff.mp h).not_brace
  exact ⟨fun hc => hs.1 (Text.mem_trim (by decide) hc), fun hc => hs.2 (Text.mem_trim (by decide) hc)⟩

end Tag
end TripCards
