/-
The places that the rules of a card speak of, in the order in which they are visited.

`Rule.sitesOfParts` walks through the data along the rules and checks nothing: a site is named before
those that lie in it, fields come in the order of the rules and items in their own. What is reported
is what is wrong at one site after the other, `Rule.violationsOfParts_eq`, and no two sites have the
same place, `Rule.nodup_sitesOfParts`.
-/
import Mathlib
import TripCards.Proofs.Schema.Acceptance
import TripCards.Proofs.Schema.Wording

namespace TripCards

/-- A place, what is to be there, whether it may be left out, and what is found there. -/
structure Site where
  place : Place
  rule : Rule
  required : Bool
  found : Option Value

namespace Rule

/-- What is wrong with a value itself, whatever lies in it. -/
def problems (value : Value) : Rule → List Problem
  | text =>
    match value with
    | .text _ => []
    | _ => [.notText]
  | webAddress =>
    match value with
    | .text s => if Address.isValid s then [] else [.notWebAddress]
    | _ => [.notWebAddress]
  | number least most =>
    match value with
    | .number n =>
      (least.filter fun bound : Nat => decide (n.value < (bound : ℚ))).toList.map .below ++
        (most.filter fun bound : Nat => decide ((bound : ℚ) < n.value)).toList.map .above
    | _ => [.notNumber]
  | list _ =>
    match value with
    | .sequence _ => []
    | _ => [.notSequence]
  | object _ =>
    match value with
    | .mapping _ => []
    | _ => [.notMapping]

mutual

/-- The sites that lie in a value at `place`. -/
def inside (place : Place) (value : Value) : Rule → List Site
  | text => []
  | webAddress => []
  | number _ _ => []
  | list parts =>
    match value with
    | .sequence items =>
      items.zipIdx.flatMap fun (item, index) =>
        let here := place ++ [.item index]
        ⟨here, object parts, true, some item⟩ ::
          match item with
          | .mapping fields => sitesOfParts here fields parts
          | _ => []
    | _ => []
  | object parts =>
    match value with
    | .mapping fields => sitesOfParts place fields parts
    | _ => []

def sitesOfParts (place : Place) (fields : List (String × Value)) :
    List (FieldRule Rule) → List Site
  | [] => []
  | part :: parts => sitesOfPart place fields part ++ sitesOfParts place fields parts

def sitesOfPart (place : Place) (fields : List (String × Value)) : FieldRule Rule → List Site
  | ⟨name, required, rule⟩ =>
    let here := place ++ [.field name]
    let found := Entries.get? fields name
    ⟨here, rule, required, found⟩ ::
      match found with
      | some value => inside here value rule
      | none => []

end

end Rule

namespace Site

/-- What is wrong at a site. -/
def problems (site : Site) : List Problem :=
  match site.found with
  | some value => site.rule.problems value
  | none => if site.required then [.missing] else []

def violations (site : Site) : List Violation :=
  site.problems.map (⟨site.place, ·⟩)

end Site

namespace Rule

theorem inside_list (place : Place) (items : List Value) (parts : List (FieldRule Rule)) :
    inside place (.sequence items) (.list parts) =
      items.zipIdx.flatMap fun entry =>
        ⟨place ++ [.item entry.2], .object parts, true, some entry.1⟩ ::
          inside (place ++ [.item entry.2]) entry.1 (.object parts) := by
  rw [inside]
  refine congrArg (List.flatMap · items.zipIdx) (funext fun entry => ?_)
  obtain ⟨item, index⟩ := entry
  cases item <;> rfl

theorem sitesOfParts_eq (place : Place) (fields : Fields) (parts : List (FieldRule Rule)) :
    sitesOfParts place fields parts = parts.flatMap (sitesOfPart place fields) := by
  induction parts with
  | nil => rfl
  | cons part parts ih => rw [sitesOfParts, ih, List.flatMap_cons]

/-! What is reported is what is wrong at the sites -/

theorem boundProblems_eq (least most : Option Nat) (n : Number) :
    boundProblems least most n = problems (.number n) (.number least most) := by
  have below : n.isBelow = fun bound : Nat => decide (n.value < (bound : ℚ)) := by
    funext bound
    rw [Bool.eq_iff_iff, n.isBelow_iff, decide_eq_true_eq]
  have above : n.isAbove = fun bound : Nat => decide ((bound : ℚ) < n.value) := by
    funext bound
    rw [Bool.eq_iff_iff, n.isAbove_iff, decide_eq_true_eq]
  rw [boundProblems, below, above, problems]

/-- A mapping is checked itself, and then part by part. -/
theorem violations_object_eq {parts : List (FieldRule Rule)}
    (hparts : ∀ place fields, violationsOfParts place fields parts =
      (sitesOfParts place fields parts).flatMap Site.violations)
    (place : Place) (value : Value) :
    violations place value (.object parts) =
      (problems value (.object parts)).map (⟨place, ·⟩) ++
        (inside place value (.object parts)).flatMap Site.violations := by
  cases value with
  | mapping fields => exact hparts place fields
  | text | number | boolean | sequence => rfl

mutual

theorem violations_eq (place : Place) (value : Value) (rule : Rule) :
    violations place value rule =
      (rule.problems value).map (⟨place, ·⟩) ++
        (inside place value rule).flatMap Site.violations := by
  cases rule with
  | text => cases value <;> rfl
  | webAddress =>
    cases value with
    | text s =>
      rw [violations, problems]
      split <;> rfl
    | number | boolean | mapping | sequence => rfl
  | number least most =>
    cases value with
    | number n =>
      rw [violations, boundProblems_eq]
      exact (List.append_nil _).symm
    | text | boolean | mapping | sequence => rfl
  | list parts =>
    cases value with
    | sequence items =>
      rw [violations_list, inside_list, List.flatMap_assoc]
      refine congrArg (List.flatMap · items.zipIdx) (funext fun entry => ?_)
      exact violations_object_eq (violationsOfParts_eq · · parts) _ _
    | text | number | boolean | mapping => rfl
  | object parts => exact violations_object_eq (violationsOfParts_eq · · parts) place value

theorem violationsOfParts_eq (place : Place) (fields : List (String × Value))
    (parts : List (FieldRule Rule)) :
    violationsOfParts place fields parts =
      (sitesOfParts place fields parts).flatMap Site.violations := by
  cases parts with
  | nil => rfl
  | cons part parts =>
    rw [violationsOfParts, sitesOfParts, List.flatMap_append,
      violationsOfPart_eq place fields part, violationsOfParts_eq place fields parts]

theorem violationsOfPart_eq (place : Place) (fields : List (String × Value))
    (part : FieldRule Rule) :
    violationsOfPart place fields part =
      (sitesOfPart place fields part).flatMap Site.violations := by
  obtain ⟨name, required, rule⟩ := part
  rw [violationsOfPart, sitesOfPart, List.flatMap_cons]
  cases found : Entries.get? fields name with
  | some value => exact violations_eq _ value rule
  | none => cases required <;> rfl

end

/-! No two sites have the same place -/

mutual

/-- The names of fields are plain, and no two fields of a mapping have the same name. -/
def isWellNamed : Rule → Bool
  | text => true
  | webAddress => true
  | number _ _ => true
  | list parts => areWellNamed parts
  | object parts => areWellNamed parts

def areWellNamed : List (FieldRule Rule) → Bool
  | [] => true
  | part :: parts =>
      partIsWellNamed part && parts.all (fun other => part.name != other.name) && areWellNamed parts

def partIsWellNamed : FieldRule Rule → Bool
  | ⟨name, _, rule⟩ => isPlainName name && rule.isWellNamed

end

theorem areWellNamed_iff {parts : List (FieldRule Rule)} :
    areWellNamed parts = true ↔
      (∀ part ∈ parts, isPlainName part.name = true ∧ part.rule.isWellNamed = true) ∧
      parts.Pairwise fun part other => part.name ≠ other.name := by
  induction parts with
  | nil => simp [areWellNamed]
  | cons part parts ih =>
    obtain ⟨name, required, rule⟩ := part
    rw [areWellNamed, partIsWellNamed, Bool.and_eq_true, Bool.and_eq_true, Bool.and_eq_true, ih,
      List.forall_mem_cons, List.pairwise_cons, List.all_eq_true]
    simp only [bne_iff_ne]
    tauto

/-- The place lies in another: it goes on with plain steps. -/
def LiesIn (outer place : Place) : Prop :=
  ∃ step steps, place = outer ++ step :: steps ∧ ∀ s ∈ step :: steps, s.IsPlain

/-- The place is one step further than another, or lies in what is there. -/
def LiesAt (outer : Place) (step : Step) (place : Place) : Prop :=
  ∃ steps, place = outer ++ step :: steps ∧ ∀ s ∈ step :: steps, s.IsPlain

theorem LiesAt.liesIn {outer place : Place} {step : Step} (h : LiesAt outer step place) :
    LiesIn outer place := by
  obtain ⟨steps, hplace, hplain⟩ := h
  exact ⟨step, steps, hplace, hplain⟩

theorem LiesAt.self (outer : Place) {step : Step} (hplain : step.IsPlain) :
    LiesAt outer step (outer ++ [step]) :=
  ⟨[], rfl, by simpa using hplain⟩

theorem LiesIn.liesAt {outer place : Place} {step : Step} (hplain : step.IsPlain)
    (h : LiesIn (outer ++ [step]) place) : LiesAt outer step place := by
  obtain ⟨next, steps, hplace, hsteps⟩ := h
  refine ⟨next :: steps, by rw [hplace, List.append_assoc, List.singleton_append], ?_⟩
  exact List.forall_mem_cons.mpr ⟨hplain, hsteps⟩

theorem LiesAt.step_eq {outer place : Place} {step : Step} (h : LiesAt outer step place) :
    place[outer.length]? = some step := by
  obtain ⟨steps, rfl, -⟩ := h
  rw [List.getElem?_append_right (Nat.le_refl _), Nat.sub_self]
  rfl

theorem LiesAt.step_unique {outer place : Place} {step other : Step} (h : LiesAt outer step place)
    (h' : LiesAt outer other place) : step = other :=
  Option.some.inj (h.step_eq.symm.trans h'.step_eq)

theorem LiesIn.ne {outer place : Place} (h : LiesIn outer place) : place ≠ outer := by
  obtain ⟨step, steps, rfl, -⟩ := h
  simp

theorem liesIn_inside_object {parts : List (FieldRule Rule)}
    (hparts : ∀ place fields, ∀ site ∈ sitesOfParts place fields parts, LiesIn place site.place)
    (place : Place) (value : Value) :
    ∀ site ∈ inside place value (.object parts), LiesIn place site.place := by
  cases value with
  | mapping fields => exact hparts place fields
  | text | number | boolean | sequence => exact fun site mem => nomatch mem

mutual

theorem liesIn_of_mem_inside (place : Place) (value : Value) (rule : Rule)
    (hnamed : rule.isWellNamed = true) : ∀ site ∈ inside place value rule, LiesIn place site.place := by
  cases rule with
  | text | webAddress | number => exact fun site mem => nomatch mem
  | list parts =>
    cases value with
    | sequence items =>
      intro site mem
      rw [inside_list, List.mem_flatMap] at mem
      obtain ⟨⟨item, index⟩, -, mem⟩ := mem
      have hplain : (Step.item index).IsPlain := trivial
      rcases List.mem_cons.mp mem with rfl | mem
      · exact (LiesAt.self place hplain).liesIn
      · have inner := liesIn_inside_object (liesIn_of_mem_sitesOfParts · · parts hnamed) _ _ site mem
        exact (inner.liesAt hplain).liesIn
    | text | number | boolean | mapping => exact fun site mem => nomatch mem
  | object parts =>
    exact liesIn_inside_object (liesIn_of_mem_sitesOfParts · · parts hnamed) place value

theorem liesIn_of_mem_sitesOfParts (place : Place) (fields : List (String × Value))
    (parts : List (FieldRule Rule)) (hnamed : areWellNamed parts = true) :
    ∀ site ∈ sitesOfParts place fields parts, LiesIn place site.place := by
  cases parts with
  | nil => exact fun site mem => nomatch mem
  | cons part parts =>
    have hpart := hnamed
    rw [areWellNamed, Bool.and_eq_true, Bool.and_eq_true] at hpart
    intro site mem
    rcases List.mem_append.mp mem with mem | mem
    · exact (liesAt_of_mem_sitesOfPart place fields part hpart.1.1 site mem).liesIn
    · exact liesIn_of_mem_sitesOfParts place fields parts hpart.2 site mem

theorem liesAt_of_mem_sitesOfPart (place : Place) (fields : List (String × Value))
    (part : FieldRule Rule) (hnamed : partIsWellNamed part = true) :
    ∀ site ∈ sitesOfPart place fields part, LiesAt place (.field part.name) site.place := by
  obtain ⟨name, required, rule⟩ := part
  rw [partIsWellNamed, Bool.and_eq_true] at hnamed
  have hplain : (Step.field name).IsPlain := hnamed.1
  intro site mem
  rw [sitesOfPart] at mem
  rcases List.mem_cons.mp mem with rfl | mem
  · exact LiesAt.self place hplain
  · split at mem
    · rename_i value found
      exact (liesIn_of_mem_inside _ value rule hnamed.2 site mem).liesAt hplain
    · cases mem

end

theorem liesAt_of_mem_sitesOfParts {place : Place} {fields : Fields}
    {parts : List (FieldRule Rule)} (hnamed : areWellNamed parts = true) {site : Site}
    (mem : site ∈ sitesOfParts place fields parts) :
    ∃ part ∈ parts, LiesAt place (.field part.name) site.place := by
  rw [sitesOfParts_eq, List.mem_flatMap] at mem
  obtain ⟨part, hpart, mem⟩ := mem
  obtain ⟨hname, hrule⟩ := (areWellNamed_iff.mp hnamed).1 part hpart
  refine ⟨part, hpart, liesAt_of_mem_sitesOfPart place fields part ?_ site mem⟩
  rw [partIsWellNamed, hname, hrule, Bool.and_self]

/-- Places that part at one step are apart if those of each part are. -/
theorem nodup_flatMap_of_step {α : Type} {l : List α} {sites : α → List Site} (outer : Place)
    (step : α → Step) (hl : l.Pairwise fun a b => step a ≠ step b)
    (hat : ∀ a ∈ l, ∀ site ∈ sites a, LiesAt outer (step a) site.place)
    (hnodup : ∀ a ∈ l, ((sites a).map Site.place).Nodup) :
    ((l.flatMap sites).map Site.place).Nodup := by
  have at_of_mem {a : α} (ha : a ∈ l) {place : Place} (mem : place ∈ (sites a).map Site.place) :
      LiesAt outer (step a) place := by
    obtain ⟨site, hsite, rfl⟩ := List.mem_map.mp mem
    exact hat a ha site hsite
  rw [List.map_flatMap, List.nodup_flatMap]
  refine ⟨hnodup, hl.imp_of_mem fun {a b} ha hb hne => ?_⟩
  intro place mem mem'
  exact hne ((at_of_mem ha mem).step_unique (at_of_mem hb mem'))

theorem nodup_cons_inside {place : Place} {rule : Rule} {required : Bool} {found : Option Value}
    {sites : List Site} (hin : ∀ site ∈ sites, LiesIn place site.place)
    (hnodup : (sites.map Site.place).Nodup) :
    (((⟨place, rule, required, found⟩ : Site) :: sites).map Site.place).Nodup := by
  rw [List.map_cons, List.nodup_cons]
  refine ⟨fun mem => ?_, hnodup⟩
  obtain ⟨site, hsite, same⟩ := List.mem_map.mp mem
  exact (hin site hsite).ne same

theorem nodup_inside_object {parts : List (FieldRule Rule)}
    (hparts : ∀ place fields, ((sitesOfParts place fields parts).map Site.place).Nodup)
    (place : Place) (value : Value) :
    ((inside place value (.object parts)).map Site.place).Nodup := by
  cases value with
  | mapping fields => exact hparts place fields
  | text | number | boolean | sequence => exact List.nodup_nil

mutual

theorem nodup_inside (place : Place) (value : Value) (rule : Rule)
    (hnamed : rule.isWellNamed = true) : ((inside place value rule).map Site.place).Nodup := by
  cases rule with
  | text | webAddress | number => exact List.nodup_nil
  | list parts =>
    cases value with
    | sequence items =>
      have hin (index : Nat) (item : Value) := liesIn_of_mem_inside (place ++ [.item index]) item
        (.object parts) hnamed
      rw [inside_list]
      refine nodup_flatMap_of_step place (fun entry => .item entry.2) ?_ ?_ ?_
      · have indices : (items.zipIdx.map Prod.snd).Nodup := by
          rw [List.zipIdx_map_snd]
          exact List.nodup_range'
        exact (List.pairwise_map.mp indices).imp fun hne h => hne (Step.item.inj h)
      · rintro ⟨item, index⟩ - site mem
        rcases List.mem_cons.mp mem with rfl | mem
        · exact LiesAt.self place trivial
        · exact (hin index item site mem).liesAt trivial
      · rintro ⟨item, index⟩ -
        exact nodup_cons_inside (hin index item)
          (nodup_inside_object (nodup_sitesOfParts · · parts hnamed) _ _)
    | text | number | boolean | mapping => exact List.nodup_nil
  | object parts => exact nodup_inside_object (nodup_sitesOfParts · · parts hnamed) place value

theorem nodup_sitesOfParts (place : Place) (fields : List (String × Value))
    (parts : List (FieldRule Rule)) (hnamed : areWellNamed parts = true) :
    ((sitesOfParts place fields parts).map Site.place).Nodup := by
  cases parts with
  | nil => exact List.nodup_nil
  | cons part parts =>
    have hnames := (List.pairwise_cons.mp (areWellNamed_iff.mp hnamed).2).1
    rw [areWellNamed, Bool.and_eq_true, Bool.and_eq_true] at hnamed
    obtain ⟨⟨hpart, -⟩, hrest⟩ := hnamed
    rw [sitesOfParts, List.map_append, List.nodup_append']
    refine ⟨nodup_sitesOfPart place fields part hpart, nodup_sitesOfParts place fields parts hrest,
      ?_⟩
    intro at' mem mem'
    obtain ⟨site, hsite, rfl⟩ := List.mem_map.mp mem
    obtain ⟨site', hsite', same⟩ := List.mem_map.mp mem'
    obtain ⟨other, hother, hat⟩ := liesAt_of_mem_sitesOfParts hrest hsite'
    have hat' := liesAt_of_mem_sitesOfPart place fields part hpart site hsite
    rw [same] at hat
    exact hnames other hother (Step.field.inj (hat'.step_unique hat))

theorem nodup_sitesOfPart (place : Place) (fields : List (String × Value))
    (part : FieldRule Rule) (hnamed : partIsWellNamed part = true) :
    ((sitesOfPart place fields part).map Site.place).Nodup := by
  obtain ⟨name, required, rule⟩ := part
  rw [partIsWellNamed, Bool.and_eq_true] at hnamed
  rw [sitesOfPart]
  cases Entries.get? fields name with
  | some value =>
    exact nodup_cons_inside (liesIn_of_mem_inside _ value rule hnamed.2)
      (nodup_inside _ value rule hnamed.2)
  | none => exact List.nodup_singleton _

end

end Rule
end TripCards
