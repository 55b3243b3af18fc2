/-
What a document says of the settings.

A document has values for the names of its entries, `valuesAt`. A field of the settings is read from
the only value for its name, and is not given if there is none. `ofString_eq_ok_iff` says that
settings are read from a text just if every field is given in this way or is not given, and that
they are as usual where they are not given.
-/
import TripCards.Proofs.Entries.Distinct
import TripCards.Proofs.Outcome
import TripCards.Settings.Basic

namespace TripCards

namespace Yaml.Node

/-- The text of a node that is a scalar, or stands for one. -/
def text? (document node : Node) : Option String :=
  match document.resolve node with
  | scalar _ _ _ text => some text
  | _ => none

/-- Scalars are texts, whatever they look like. -/
def IsText (document node : Node) (text : String) : Prop :=
  text? document node = some text

/-- The words for a truth value. -/
def truthWords : Bool → List String
  | true => ["true", "True", "TRUE"]
  | false => ["false", "False", "FALSE"]

/-- A node for a truth value has one of its words, in a plain scalar or in a literal block with the
tag for truth values. -/
inductive IsTruth (document node : Node) (b : Bool) : Prop where
  | plain {anchor : Option Nat} {tag : Option String} {word : String} :
      document.resolve node = scalar anchor tag .plain word → word ∈ truthWords b →
      IsTruth document node b
  | tagged {anchor : Option Nat} {word : String} :
      document.resolve node = scalar anchor (some "tag:yaml.org,2002:bool") .literal word →
      word ∈ truthWords b → IsTruth document node b

/-- The entries of a mapping. A node that is left out has none. -/
inductive HasEntries (document node : Node) : List (Node × Node) → Prop where
  | mapping {anchor : Option Nat} {entries : List (Node × Node)} :
      document.resolve node = mapping anchor entries → HasEntries document node entries
  | leftOut {anchor : Option Nat} {tag : Option String} :
      document.resolve node = scalar anchor tag .plain "" → HasEntries document node []

/-- The values of the entries with this name. -/
def valuesAt (document : Node) (name : String) (entries : List (Node × Node)) : List Node :=
  (entries.filter fun entry => text? document entry.1 = some name).map Prod.snd

variable {document key value : Node} {name : String} {entries rest : List (Node × Node)}

theorem valuesAt_cons_of_eq (named : text? document key = some name) :
    valuesAt document name ((key, value) :: rest) = value :: valuesAt document name rest := by
  rw [valuesAt, List.filter_cons_of_pos (by simpa using named)]
  rfl

theorem valuesAt_cons_of_ne (other : text? document key ≠ some name) :
    valuesAt document name ((key, value) :: rest) = valuesAt document name rest := by
  rw [valuesAt, List.filter_cons_of_neg (by simpa using other)]
  rfl

end Yaml.Node

namespace Settings

open Yaml.Node (text? IsText IsTruth HasEntries valuesAt valuesAt_cons_of_eq valuesAt_cons_of_ne)

/-! ## What is written -/

/-- What a file says of the log: the fields that it gives. -/
structure WrittenLog where
  level : Option String
  format : Option String

def WrittenLog.settings (given : WrittenLog) : LogSettings where
  level := given.level.getD "info"
  format := given.format.getD "pretty"

/-- What a file says of the settings: the fields that it gives. -/
structure Written where
  templates : Option String
  fillsDefaults : Option Bool
  log : Option WrittenLog

namespace Written

def nothing : Written := ⟨none, none, none⟩

def logLevel (given : Written) : Option String :=
  given.log.bind WrittenLog.level

def logFormat (given : Written) : Option String :=
  given.log.bind WrittenLog.format

/-- The settings with what is given, and as usual otherwise. -/
def settings (given : Written) : Settings where
  templates := ⟨given.templates.getD "templates"⟩
  fillsDefaults := given.fillsDefaults.getD true
  log := ⟨given.logLevel.getD "info", given.logFormat.getD "pretty"⟩

end Written

/-- A node with entries that have texts for names. -/
structure IsRecord (document node : Yaml.Node) (entries : List (Yaml.Node × Yaml.Node)) :
    Prop where
  hasEntries : HasEntries document node entries
  named : ∀ entry ∈ entries, (text? document entry.1).isSome

/-- What entries give under a name. It is read from the only value that they have there. Nothing is
given under a name that is repeated, not even that the field is absent. -/
inductive FieldGives {α : Type} (reads : Yaml.Node → α → Prop) (document : Yaml.Node)
    (entries : List (Yaml.Node × Yaml.Node)) (name : String) : Option α → Prop where
  | absent : valuesAt document name entries = [] → FieldGives reads document entries name none
  | present {value : Yaml.Node} {a : α} : valuesAt document name entries = [value] →
      reads value a → FieldGives reads document entries name (some a)

/-- The fields of the log in a node. -/
inductive LogGives (document node : Yaml.Node) : WrittenLog → Prop where
  | fields {entries : List (Yaml.Node × Yaml.Node)} {given : WrittenLog} :
      IsRecord document node entries →
      FieldGives (IsText document) document entries "level" given.level →
      FieldGives (IsText document) document entries "format" given.format →
      LogGives document node given

/-- The fields of the settings in a document. -/
inductive DocumentGives (document : Yaml.Node) : Written → Prop where
  | fields {entries : List (Yaml.Node × Yaml.Node)} {given : Written} :
      IsRecord document document entries →
      FieldGives (IsText document) document entries "template_dir" given.templates →
      FieldGives (IsTruth document) document entries "apply_defaults" given.fillsDefaults →
      FieldGives (LogGives document) document entries "logging" given.log →
      DocumentGives document given

/-- A text without a document gives nothing. -/
inductive TextGives (text : String) : Written → Prop where
  | empty : Yaml.Node.ofString text = .ok none → TextGives text .nothing
  | document {document : Yaml.Node} {given : Written} :
      Yaml.Node.ofString text = .ok (some document) → DocumentGives document given →
      TextGives text given

/-! ## Reading entries -/

variable {document node : Yaml.Node} {names : List String}
  {entries : List (Yaml.Node × Yaml.Node)} {fields : Entries Yaml.Node}

theorem textOf_eq_ok_iff {text : String} :
    textOf document node = .ok text ↔ IsText document node text := by
  rw [textOf, IsText, text?]
  cases document.resolve node <;> simp

theorem truth?_eq_some_iff {word : String} {b : Bool} :
    truth? word = some b ↔ word ∈ Yaml.Node.truthWords b := by
  unfold truth?
  split <;> cases b <;> simp_all [Yaml.Node.truthWords]

theorem truthOf_eq_ok_iff {b : Bool} :
    truthOf document node = .ok b ↔ IsTruth document node b := by
  rw [truthOf]
  constructor
  · intro h
    split at h
    · rename_i anchor tag style word isScalar
      split at h
      · rename_i isStyled
        have isWord : word ∈ Yaml.Node.truthWords b := by
          rw [← truth?_eq_some_iff]
          cases truth : truth? word with
          | none =>
            rw [truth] at h
            cases h
          | some c =>
            rw [truth] at h
            exact congrArg some (Except.ok.inj h)
        rw [Bool.or_eq_true, Bool.and_eq_true, beq_iff_eq, beq_iff_eq, beq_iff_eq] at isStyled
        rcases isStyled with rfl | ⟨rfl, rfl⟩
        · exact .plain isScalar isWord
        · exact .tagged isScalar isWord
      · cases h
    · cases h
  · rintro (⟨isScalar, isWord⟩ | ⟨isScalar, isWord⟩)
    all_goals
      rw [isScalar]
      simp only [truth?_eq_some_iff.mpr isWord]
      rfl

/-- An entry is passed over or known, and no entry behind one that is known has its name. -/
theorem known_cons_eq_ok_iff {key value : Yaml.Node} {rest : List (Yaml.Node × Yaml.Node)} :
    known document names ((key, value) :: rest) = .ok fields ↔
      ∃ name others, text? document key = some name ∧ known document names rest = .ok others ∧
        (name ∉ names ∧ others = fields ∨
          name ∈ names ∧ Entries.get? others name = none ∧ (name, value) :: others = fields) := by
  rw [known, text?]
  cases document.resolve key with
  | sequence | mapping | reference => simp
  | scalar anchor tag style name =>
    cases known document names rest with
    | error fault => simp
    | ok others =>
      by_cases counts : name ∈ names
      · cases found : Entries.get? others name <;> simp [counts, Entries.has, found]
      · simp [counts]

/-- Where fields are known, the keys are texts, and the value of a name that counts is the only one
under it. -/
theorem valuesAt_of_known (h : known document names entries = .ok fields) :
    (∀ entry ∈ entries, (text? document entry.1).isSome) ∧
      ∀ name ∈ names, valuesAt document name entries = (Entries.get? fields name).toList := by
  induction entries generalizing fields with
  | nil =>
    obtain rfl : [] = fields := Except.ok.inj h
    exact ⟨List.forall_mem_nil _, fun name _ => rfl⟩
  | cons entry rest ih =>
    obtain ⟨key, value⟩ := entry
    obtain ⟨found, others, named, hrest, counts⟩ := known_cons_eq_ok_iff.mp h
    obtain ⟨allNamed, values⟩ := ih hrest
    refine ⟨List.forall_mem_cons.mpr ⟨by rw [named]; rfl, allNamed⟩, ?_⟩
    intro name mem
    by_cases same : found = name
    · subst same
      obtain ⟨absent, -⟩ | ⟨-, missing, rfl⟩ := counts
      · exact absurd mem absent
      · rw [valuesAt_cons_of_eq named, values found mem, missing, Entries.get?_cons, if_pos rfl]
        rfl
    · rw [valuesAt_cons_of_ne (by rw [named]; simpa using same), values name mem]
      obtain ⟨-, rfl⟩ | ⟨-, -, rfl⟩ := counts
      · rfl
      · rw [Entries.get?_cons, if_neg same]

/-- Entries with texts for keys can be read if no name that counts is repeated. -/
theorem exists_known (named : ∀ entry ∈ entries, (text? document entry.1).isSome)
    (once : ∀ name ∈ names, (valuesAt document name entries).length ≤ 1) :
    ∃ fields, known document names entries = .ok fields := by
  induction entries with
  | nil => exact ⟨[], rfl⟩
  | cons entry rest ih =>
    obtain ⟨key, value⟩ := entry
    obtain ⟨isNamed, allNamed⟩ := List.forall_mem_cons.mp named
    obtain ⟨found, hfound⟩ := Option.isSome_iff_exists.mp isNamed
    have onceInRest : ∀ name ∈ names, (valuesAt document name rest).length ≤ 1 := by
      intro name mem
      refine Nat.le_trans ?_ (once name mem)
      exact ((List.sublist_cons_self (key, value) rest).filter _).map Prod.snd |>.length_le
    obtain ⟨others, hothers⟩ := ih allNamed onceInRest
    by_cases counts : found ∈ names
    · have only := once found counts
      rw [valuesAt_cons_of_eq hfound, List.length_cons, (valuesAt_of_known hothers).2 found counts]
        at only
      have missing : Entries.get? others found = none := by
        cases others? : Entries.get? others found with
        | none => rfl
        | some value =>
          rw [others?] at only
          exact absurd only (Nat.not_succ_le_self 1)
      exact ⟨_, known_cons_eq_ok_iff.mpr
        ⟨found, others, hfound, hothers, .inr ⟨counts, missing, rfl⟩⟩⟩
    · exact ⟨others, known_cons_eq_ok_iff.mpr
        ⟨found, others, hfound, hothers, .inl ⟨counts, rfl⟩⟩⟩

theorem fieldsOf_eq_ok_iff : fieldsOf document names node = .ok fields ↔
    ∃ entries, HasEntries document node entries ∧ known document names entries = .ok fields := by
  rw [fieldsOf]
  constructor
  · intro h
    split at h
    · rename_i anchor entries isMapping
      exact ⟨entries, .mapping isMapping, h⟩
    · rename_i anchor tag isLeftOut
      exact ⟨[], .leftOut isLeftOut, h⟩
    · cases h
  · rintro ⟨entries, isMapping | isLeftOut, h⟩
    · rw [isMapping]
      exact h
    · rw [isLeftOut]
      exact h

theorem isRecord_of_fieldsOf (h : fieldsOf document names node = .ok fields) :
    ∃ entries, IsRecord document node entries ∧
      ∀ name ∈ names, valuesAt document name entries = (Entries.get? fields name).toList := by
  obtain ⟨entries, hasEntries, hknown⟩ := fieldsOf_eq_ok_iff.mp h
  obtain ⟨named, values⟩ := valuesAt_of_known hknown
  exact ⟨entries, ⟨hasEntries, named⟩, values⟩

theorem exists_fieldsOf (isRecord : IsRecord document node entries)
    (once : ∀ name ∈ names, (valuesAt document name entries).length ≤ 1) :
    ∃ fields, fieldsOf document names node = .ok fields ∧
      ∀ name ∈ names, valuesAt document name entries = (Entries.get? fields name).toList := by
  obtain ⟨fields, hknown⟩ := exists_known isRecord.named once
  exact ⟨fields, fieldsOf_eq_ok_iff.mpr ⟨entries, isRecord.hasEntries, hknown⟩,
    (valuesAt_of_known hknown).2⟩

/-! ## Reading fields -/

section Field

variable {α β : Type} {reads : Yaml.Node → β → Prop} {name : String}

theorem FieldGives.once {given : Option β} (h : FieldGives reads document entries name given) :
    (valuesAt document name entries).length ≤ 1 := by
  cases h with
  | absent nowhere => simp [nowhere]
  | present only => simp [only]

/-- A field is what is given for it, or as usual. What is written there is a `β`, and `f` makes an
`α` of it. -/
theorem fieldOr_eq_ok_iff {read : Yaml.Node → Except SettingsFault α} {f : β → α} {usual a : α}
    (hread : ∀ node a, read node = .ok a ↔ ∃ b, reads node b ∧ f b = a)
    (values : valuesAt document name entries = (Entries.get? fields name).toList) :
    fieldOr fields name usual read = .ok a ↔
      ∃ given, FieldGives reads document entries name given ∧ (given.map f).getD usual = a := by
  rw [fieldOr]
  cases found : Entries.get? fields name with
  | none =>
    rw [found] at values
    constructor
    · intro h
      exact ⟨none, .absent values, Except.ok.inj h⟩
    · rintro ⟨given, nowhere | only, rfl⟩
      · rfl
      · rw [values] at only
        cases only
  | some node =>
    rw [found] at values
    show read node = .ok a ↔ _
    rw [hread]
    constructor
    · rintro ⟨b, isRead, rfl⟩
      exact ⟨some b, .present values isRead, rfl⟩
    · rintro ⟨given, nowhere | ⟨only, isRead⟩, rfl⟩
      · rw [values] at nowhere
        cases nowhere
      · rw [values] at only
        cases only
        exact ⟨_, isRead, rfl⟩

theorem fieldOr_textOf_eq_ok_iff {usual text : String}
    (values : valuesAt document name entries = (Entries.get? fields name).toList) :
    fieldOr fields name usual (textOf document) = .ok text ↔ ∃ given,
      FieldGives (IsText document) document entries name given ∧ given.getD usual = text := by
  have reads (node : Yaml.Node) (text : String) : textOf document node = .ok text ↔
      ∃ written, IsText document node written ∧ id written = text := by
    simp [textOf_eq_ok_iff]
  rw [fieldOr_eq_ok_iff reads values]
  simp only [Option.map_id, id]

end Field

/-- The fields of the log are what is given for them, or as usual. -/
theorem logOf_eq_ok_iff {log : LogSettings} :
    logOf document node = .ok log ↔
      ∃ given, LogGives document node given ∧ given.settings = log := by
  have steps : logOf document node =
      (fieldsOf document ["level", "format"] node).bind fun fields =>
        (fieldOr fields "level" "info" (textOf document)).bind fun level =>
          (fieldOr fields "format" "pretty" (textOf document)).map fun format =>
            ⟨level, format⟩ := rfl
  simp only [steps, bind_eq_ok_iff, map_eq_ok_iff]
  constructor
  · rintro ⟨fields, hfields, _, hlevel, _, hformat, rfl⟩
    obtain ⟨entries, isRecord, values⟩ := isRecord_of_fieldsOf hfields
    obtain ⟨level, givesLevel, rfl⟩ := (fieldOr_textOf_eq_ok_iff (values _ (by simp))).mp hlevel
    obtain ⟨format, givesFormat, rfl⟩ := (fieldOr_textOf_eq_ok_iff (values _ (by simp))).mp hformat
    exact ⟨⟨level, format⟩, .fields isRecord givesLevel givesFormat, rfl⟩
  · rintro ⟨given, @⟨entries, _, isRecord, givesLevel, givesFormat⟩, rfl⟩
    have once : ∀ name ∈ ["level", "format"], (valuesAt document name entries).length ≤ 1 := by
      simp [givesLevel.once, givesFormat.once]
    obtain ⟨fields, hfields, values⟩ := exists_fieldsOf isRecord once
    exact ⟨fields, hfields,
      _, (fieldOr_textOf_eq_ok_iff (values _ (by simp))).mpr ⟨_, givesLevel, rfl⟩,
      _, (fieldOr_textOf_eq_ok_iff (values _ (by simp))).mpr ⟨_, givesFormat, rfl⟩, rfl⟩

/-- The fields of the settings are what a document gives for them, or as usual. -/
theorem ofDocument_eq_ok_iff {settings : Settings} :
    ofDocument document = .ok settings ↔
      ∃ given, DocumentGives document given ∧ given.settings = settings := by
  have steps : ofDocument document =
      (fieldsOf document ["template_dir", "apply_defaults", "logging"] document).bind fun fields =>
        (fieldOr fields "template_dir" ⟨"templates"⟩ fun node =>
          (textOf document node).map FilePath.mk).bind fun templates =>
            (fieldOr fields "apply_defaults" true (truthOf document)).bind fun fillsDefaults =>
              (fieldOr fields "logging" .usual (logOf document)).map fun log =>
                ⟨templates, fillsDefaults, log⟩ := rfl
  have readsPath (node : Yaml.Node) (path : FilePath) :
      (textOf document node).map FilePath.mk = .ok path ↔
        ∃ text, IsText document node text ∧ FilePath.mk text = path := by
    rw [map_eq_ok_iff]
    simp only [textOf_eq_ok_iff]
  have readsTruth (node : Yaml.Node) (b : Bool) :
      truthOf document node = .ok b ↔ ∃ c, IsTruth document node c ∧ id c = b := by
    simp [truthOf_eq_ok_iff]
  have readsLog (node : Yaml.Node) (log : LogSettings) : logOf document node = .ok log ↔
      ∃ given, LogGives document node given ∧ given.settings = log :=
    logOf_eq_ok_iff
  simp only [steps, bind_eq_ok_iff, map_eq_ok_iff]
  constructor
  · rintro ⟨fields, hfields, _, htemplates, _, hdefaults, _, hlog, rfl⟩
    obtain ⟨entries, isRecord, values⟩ := isRecord_of_fieldsOf hfields
    obtain ⟨templates, givesTemplates, rfl⟩ :=
      (fieldOr_eq_ok_iff readsPath (values _ (by simp))).mp htemplates
    obtain ⟨fillsDefaults, givesDefaults, rfl⟩ :=
      (fieldOr_eq_ok_iff readsTruth (values _ (by simp))).mp hdefaults
    obtain ⟨log, givesLog, rfl⟩ := (fieldOr_eq_ok_iff readsLog (values _ (by simp))).mp hlog
    refine ⟨⟨templates, fillsDefaults, log⟩,
      .fields isRecord givesTemplates givesDefaults givesLog, ?_⟩
    cases templates <;> cases fillsDefaults <;> cases log <;> rfl
  · rintro ⟨given, @⟨entries, _, isRecord, givesTemplates, givesDefaults, givesLog⟩, rfl⟩
    have once : ∀ name ∈ ["template_dir", "apply_defaults", "logging"],
        (valuesAt document name entries).length ≤ 1 := by
      simp [givesTemplates.once, givesDefaults.once, givesLog.once]
    obtain ⟨fields, hfields, values⟩ := exists_fieldsOf isRecord once
    refine ⟨fields, hfields,
      _, (fieldOr_eq_ok_iff readsPath (values _ (by simp))).mpr ⟨_, givesTemplates, rfl⟩,
      _, (fieldOr_eq_ok_iff readsTruth (values _ (by simp))).mpr ⟨_, givesDefaults, rfl⟩,
      _, (fieldOr_eq_ok_iff readsLog (values _ (by simp))).mpr ⟨_, givesLog, rfl⟩, ?_⟩
    obtain ⟨templates, fillsDefaults, log⟩ := given
    cases templates <;> cases fillsDefaults <;> cases log <;> rfl

/-- A text is read as settings just if it gives some fields, and the others are as usual. -/
theorem ofString_eq_ok_iff {text : String} {settings : Settings} :
    ofString text = .ok settings ↔ ∃ given, TextGives text given ∧ given.settings = settings := by
  rw [ofString]
  constructor
  · intro h
    cases parsed : Yaml.Node.ofString text with
    | error fault =>
      rw [parsed] at h
      cases h
    | ok document =>
      rw [parsed] at h
      cases document with
      | none => exact ⟨.nothing, .empty parsed, Except.ok.inj h⟩
      | some document =>
        obtain ⟨given, gives, same⟩ := ofDocument_eq_ok_iff.mp h
        exact ⟨given, .document parsed gives, same⟩
  · rintro ⟨given, gives, rfl⟩
    cases gives with
    | empty parsed =>
      rw [parsed]
      rfl
    | document parsed gives =>
      rw [parsed]
      exact ofDocument_eq_ok_iff.mpr ⟨given, gives, rfl⟩

theorem ofString_eq_error_iff {text : String} :
    (∃ fault, ofString text = .error fault) ↔ ¬∃ given, TextGives text given := by
  constructor
  · rintro ⟨fault, fails⟩ ⟨given, gives⟩
    rw [ofString_eq_ok_iff.mpr ⟨given, gives, rfl⟩] at fails
    cases fails
  · intro givesNothing
    cases outcome : ofString text with
    | error fault => exact ⟨fault, rfl⟩
    | ok settings =>
      obtain ⟨given, gives, _⟩ := ofString_eq_ok_iff.mp outcome
      exact absurd ⟨given, gives⟩ givesNothing

end Settings
end TripCards
