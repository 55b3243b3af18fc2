/-
Templates that can be filled for sure.

The rules for the data say what the names of a scope stand for, where they stand for anything.
`Node.isSafe` looks at a template and at the rules alone, and `Node.fills_of_isSafe` says that it is
right for all data that keeps to the rules. What it is not sure of is left over by `Node.doubtful`:
a template is filled just where its doubtful nodes are.

Inside of a repeated block only the fields that every item has to have are known. A name that an
item may leave out is looked for in the data around it, and there it may stand for anything.
-/
import TripCards.Proofs.Schema.Acceptance
import TripCards.Proofs.Template.Filling

namespace TripCards

namespace Rule

/-- The rule for what a chain of names leads to. -/
def at? : List String → Rule → Option Rule
  | [], rule => some rule
  | name :: names, object parts =>
      (parts.find? fun part => part.name == name).bind fun part => at? names part.rule
  | _ :: _, _ => none

/-- The rules for values that have a text. -/
def wantsText : Rule → Bool
  | text => true
  | webAddress => true
  | number _ _ => true
  | list _ => false
  | object _ => false

theorem Accepts.hasText {rule : Rule} {value : Value} (h : rule.Accepts value)
    (wants : rule.wantsText = true) : value.hasText = true := by
  cases h with
  | text | webAddress | number => rfl
  | list | object => cases wants

theorem exists_of_find? {parts : List (FieldRule Rule)} {name : String} {names : List String}
    {rule : Rule} (h : at? (name :: names) (.object parts) = some rule) :
    ∃ part ∈ parts, part.name = name ∧ at? names part.rule = some rule := by
  obtain ⟨part, found, leads⟩ := Option.bind_eq_some_iff.mp h
  have same := List.find?_some found
  exact ⟨part, List.mem_of_find?_eq_some found, eq_of_beq same, leads⟩

theorem Accepts.walk {rule inner : Rule} {value found : Value} {names : List String}
    (h : rule.Accepts value) (leads : at? names rule = some inner)
    (walked : value.walk names = some found) : inner.Accepts found := by
  induction names generalizing rule value with
  | nil =>
    cases leads
    cases walked
    exact h
  | cons name names ih =>
    cases h with
    | text | webAddress | number | list => cases leads
    | @object parts fields given needed =>
      obtain ⟨part, mem, rfl, onwards⟩ := exists_of_find? leads
      rw [Value.walk] at walked
      cases next : Entries.get? fields part.name with
      | none =>
        rw [next] at walked
        cases walked
      | some value =>
        rw [next] at walked
        exact ih (given part mem value next) onwards walked

/-- The rules for the names that are known of every item with these parts. -/
def ofItem (parts : List (FieldRule Rule)) : List (FieldRule Rule) :=
  .needed "@index" (.number none none) ::
    parts.filter fun part => part.required && !Entries.has (Scope.placeOf 0 0) part.name

end Rule

namespace Scope

/-- What the scope has under a name is as the rule for that name wants it. -/
def Obeys (scope : Scope) (rules : List (FieldRule Rule)) : Prop :=
  ∀ part ∈ rules, ∀ value, scope.lookup part.name = some value → part.rule.Accepts value

theorem Obeys.resolve {scope : Scope} {rules : List (FieldRule Rule)} {path : Path} {rule : Rule}
    {value : Value} (obeys : scope.Obeys rules)
    (leads : Rule.at? (path.head :: path.tail) (.object rules) = some rule)
    (found : scope.resolve path = some value) : rule.Accepts value := by
  obtain ⟨part, mem, name, leads⟩ := Rule.exists_of_find? leads
  obtain ⟨outer, looked, walked⟩ := Option.bind_eq_some_iff.mp found
  rw [← name] at looked
  exact (obeys part mem outer looked).walk leads walked

theorem obeys_root {schema : Schema} {data : Fields} (h : schema.Accepts data) :
    (root data).Obeys schema.fields := by
  cases h.fields with
  | object given needed => exact given

/-- Which names tell the place of an item does not depend on the place. -/
theorem get?_placeOf_eq_none {name : String} (index count : Nat)
    (h : Entries.has (placeOf 0 0) name = false) : Entries.get? (placeOf index count) name = none := by
  simp only [Entries.has, placeOf, Entries.get?_cons, Entries.get?_nil] at h ⊢
  split at h
  · cases h
  · split at h
    · cases h
    · split at h
      · cases h
      · simp [*]

theorem obeys_item {parts : List (FieldRule Rule)} {value : Value}
    (h : Rule.Accepts (.object parts) value) (index count : Nat) (outer : Scope) :
    (item value index count outer).Obeys (Rule.ofItem parts) := by
  intro part mem found looked
  rcases List.mem_cons.mp mem with rfl | mem
  · cases looked
    exact .number nofun nofun
  · obtain ⟨isPart, known⟩ := List.mem_filter.mp mem
    rw [Bool.and_eq_true, Bool.not_eq_true'] at known
    cases h with
    | object given needed =>
      obtain ⟨own, isOwn⟩ := Option.isSome_iff_exists.mp (needed part isPart known.1)
      rw [lookup, get?_placeOf_eq_none index count known.2] at looked
      simp only [Value.fields?, Option.bind_some, isOwn, Option.some.injEq] at looked
      rw [← looked]
      exact given part isPart own isOwn

end Scope

namespace Node

mutual

/-- Whether the rules make sure that no slot of the node stands for a mapping or a sequence. -/
def isSafe (rules : List (FieldRule Rule)) : Node → Bool
  | text _ => true
  | slot path => (Rule.at? (path.head :: path.tail) (.object rules)).any Rule.wantsText
  | block .conditional _ body => areSafe rules body
  | block .repeated path body =>
    match Rule.at? (path.head :: path.tail) (.object rules) with
    | some (.list parts) => areSafe (Rule.ofItem parts) body
    | _ => false

def areSafe (rules : List (FieldRule Rule)) : List Node → Bool
  | [] => true
  | node :: nodes => node.isSafe rules && areSafe rules nodes

end

/-- The nodes of which the rules do not make sure. -/
def doubtful (rules : List (FieldRule Rule)) (nodes : List Node) : List Node :=
  nodes.filter fun node => !node.isSafe rules

mutual

theorem fills_of_isSafe {scope : Scope} {rules : List (FieldRule Rule)} (obeys : scope.Obeys rules)
    (node : Node) (safe : node.isSafe rules = true) : node.Fills scope := by
  cases node with
  | text s => trivial
  | slot path =>
    intro value found
    rw [isSafe] at safe
    obtain ⟨rule, leads, wants⟩ := (Option.any_eq_true _ _).mp safe
    exact (obeys.resolve leads found).hasText wants
  | block kind path body =>
    cases kind with
    | conditional => exact fun _ => fillsAll_of_areSafe obeys body safe
    | «repeated» =>
      intro items found entry mem
      rw [isSafe] at safe
      split at safe
      · rename_i parts leads
        cases obeys.resolve leads found with
        | list accepted =>
          have item := accepted entry.1 (List.fst_mem_of_mem_zipIdx mem)
          exact fillsAll_of_areSafe (Scope.obeys_item item entry.2 items.length scope) body safe
      · cases safe

theorem fillsAll_of_areSafe {scope : Scope} {rules : List (FieldRule Rule)}
    (obeys : scope.Obeys rules) (nodes : List Node) (safe : areSafe rules nodes = true) :
    FillsAll scope nodes := by
  cases nodes with
  | nil => trivial
  | cons node nodes =>
    rw [areSafe, Bool.and_eq_true] at safe
    exact ⟨fills_of_isSafe obeys node safe.1, fillsAll_of_areSafe obeys nodes safe.2⟩

end

/-- Only what is doubtful can be in the way. -/
theorem fillsAll_iff_doubtful {scope : Scope} {rules : List (FieldRule Rule)}
    (obeys : scope.Obeys rules) (nodes : List Node) :
    FillsAll scope nodes ↔ FillsAll scope (doubtful rules nodes) := by
  rw [fillsAll_iff, fillsAll_iff]
  constructor
  · intro h node mem
    exact h node (List.mem_filter.mp mem).1
  · intro h node mem
    cases safe : node.isSafe rules with
    | true => exact fills_of_isSafe obeys node safe
    | false => exact h node (List.mem_filter.mpr ⟨mem, by rw [safe]; rfl⟩)

end Node
end TripCards
