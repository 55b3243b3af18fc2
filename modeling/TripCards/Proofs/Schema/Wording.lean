/-
Violations can be told from their messages.

A message is the text of a place and the text of a problem, one behind the other. The first blank
is where the problem begins, and in the text of a place the characters `.` and `[` are where steps
begin, as long as the names of fields have none of these: `Violation.message_injective`.
-/
import Mathlib
import TripCards.Schema.Violation

namespace TripCards

/-- Texts that end where a property of characters ends can be told from what follows them. -/
theorem append_inj_of_stop (p : Char → Bool) {s t rest other : List Char}
    (hs : ∀ c ∈ s, p c = true) (ht : ∀ c ∈ t, p c = true)
    (hrest : ∀ c, rest.head? = some c → p c = false)
    (hother : ∀ c, other.head? = some c → p c = false)
    (h : s ++ rest = t ++ other) : s = t ∧ rest = other := by
  have stop {tail : List Char} (htail : ∀ c, tail.head? = some c → p c = false) :
      tail.takeWhile p = [] := by
    cases tail with
    | nil => rfl
    | cons c tail => rw [List.takeWhile_cons, htail c rfl, if_neg (by decide)]
  have front := congrArg (List.takeWhile p) h
  rw [List.takeWhile_append_of_pos hs, List.takeWhile_append_of_pos ht, stop hrest, stop hother,
    List.append_nil, List.append_nil] at front
  subst front
  exact ⟨rfl, List.append_cancel_left h⟩

/-- No character of the name has a meaning in the text of a place or ends it. -/
def isPlainName (name : String) : Bool :=
  name.toList.all fun c => c != ' ' && c != '.' && c != '['

theorem isPlainName_iff {name : String} :
    isPlainName name = true ↔ ∀ c ∈ name.toList, c ≠ ' ' ∧ c ≠ '.' ∧ c ≠ '[' := by
  simp [isPlainName, List.all_eq_true, and_assoc]

namespace Step

def IsPlain : Step → Prop
  | field name => isPlainName name = true
  | item _ => True

def chars : Step → List Char
  | field name => '.' :: name.toList
  | item index => '[' :: (Nat.toDigits 10 index ++ [']'])

theorem isDigit_of_mem {index : Nat} {c : Char} (h : c ∈ Nat.toDigits 10 index) :
    c.isDigit = true :=
  Nat.isDigit_of_mem_toDigits (by decide) (by decide) h

theorem not_blank_of_mem_chars {step : Step} (hplain : step.IsPlain) : ' ' ∉ step.chars := by
  cases step with
  | field name =>
    intro h
    rcases List.mem_cons.mp h with h | h
    · exact absurd h (by decide)
    · exact (isPlainName_iff.mp hplain _ h).1 rfl
  | item index =>
    intro h
    rw [chars, List.mem_cons, List.mem_append, List.mem_singleton] at h
    rcases h with h | h | h
    · exact absurd h (by decide)
    · exact absurd (isDigit_of_mem h) (by decide)
    · exact absurd h (by decide)

end Step

namespace Place

/-- The text of the steps behind the first one. -/
def charsOf (steps : List Step) : List Char :=
  steps.flatMap Step.chars

theorem charsOf_cons (step : Step) (steps : List Step) :
    charsOf (step :: steps) = step.chars ++ charsOf steps := List.flatMap_cons

/-- The place is in a mapping, and its names are plain. -/
inductive IsPlain : Place → Prop where
  | mk {name : String} {steps : List Step} :
      isPlainName name = true → (∀ step ∈ steps, step.IsPlain) → IsPlain (.field name :: steps)

theorem toList_text (name : String) (steps : List Step) :
    (text (.field name :: steps)).toList = name.toList ++ charsOf steps := by
  have step_eq (step : Step) : (stepText step).toList = step.chars := by
    cases step with
    | field name => exact String.toList_append
    | item index =>
      show ("[" ++ Nat.repr index ++ "]").toList = _
      rw [String.toList_append, String.toList_append, Nat.toList_repr]
      rfl
  rw [text, String.toList_append, String.toList_join, List.flatMap_map, charsOf]
  simp only [step_eq]

theorem head?_charsOf {steps : List Step} {c : Char} (h : (charsOf steps).head? = some c) :
    c = '.' ∨ c = '[' := by
  cases steps with
  | nil => cases h
  | cons step steps =>
    cases step with
    | field name => exact Or.inl (Option.some.inj h).symm
    | item index => exact Or.inr (Option.some.inj h).symm

/-- A plain name ends where the next step begins. -/
theorem name_append_charsOf_inj {name other : String} {steps others : List Step}
    (hname : isPlainName name = true) (hother : isPlainName other = true)
    (h : name.toList ++ charsOf steps = other.toList ++ charsOf others) :
    name = other ∧ charsOf steps = charsOf others := by
  have inside {name : String} (hname : isPlainName name = true) :
      ∀ c ∈ name.toList, (c != '.' && c != '[') = true := by
    intro c hc
    obtain ⟨-, hdot, hbracket⟩ := isPlainName_iff.mp hname c hc
    simp [hdot, hbracket]
  have outside {steps : List Step} :
      ∀ c, (charsOf steps).head? = some c → (c != '.' && c != '[') = false := by
    intro c hc
    rcases head?_charsOf hc with rfl | rfl <;> decide
  obtain ⟨hnames, hsteps⟩ :=
    append_inj_of_stop _ (inside hname) (inside hother) outside outside h
  exact ⟨String.toList_inj.mp hnames, hsteps⟩

/-- An index ends at its bracket. -/
theorem index_append_inj {index other : Nat} {rest after : List Char}
    (h : Nat.toDigits 10 index ++ ']' :: rest = Nat.toDigits 10 other ++ ']' :: after) :
    index = other ∧ rest = after := by
  obtain ⟨hdigits, hrest⟩ := append_inj_of_stop Char.isDigit (fun _ => Step.isDigit_of_mem)
    (fun _ => Step.isDigit_of_mem) (by rintro c ⟨⟩; decide) (by rintro c ⟨⟩; decide) h
  refine ⟨Nat.repr_inj.mp (String.toList_inj.mp ?_), (List.cons.inj hrest).2⟩
  rw [Nat.toList_repr, Nat.toList_repr, hdigits]

theorem charsOf_injective {steps others : List Step} (hsteps : ∀ step ∈ steps, step.IsPlain)
    (hothers : ∀ step ∈ others, step.IsPlain) (h : charsOf steps = charsOf others) :
    steps = others := by
  induction steps generalizing others with
  | nil =>
    cases others with
    | nil => rfl
    | cons other others => cases other <;> cases h
  | cons step steps ih =>
    cases others with
    | nil => cases step <;> cases h
    | cons other others =>
      rw [List.forall_mem_cons] at hsteps hothers
      cases step with
      | field name =>
        cases other with
        | field name' =>
          obtain ⟨rfl, hrest⟩ :=
            name_append_charsOf_inj hsteps.1 hothers.1 (List.cons.inj h).2
          rw [ih hsteps.2 hothers.2 hrest]
        | item index => exact absurd (List.cons.inj h).1 (by decide)
      | item index =>
        cases other with
        | field name => exact absurd (List.cons.inj h).1 (by decide)
        | item index' =>
          rw [charsOf_cons, charsOf_cons, Step.chars, Step.chars, List.cons_append,
            List.cons_append, List.append_assoc, List.append_assoc] at h
          obtain ⟨rfl, hrest⟩ := index_append_inj (List.cons.inj h).2
          rw [ih hsteps.2 hothers.2 hrest]

theorem text_injective {place other : Place} (hplace : place.IsPlain) (hother : other.IsPlain)
    (h : place.text.toList = other.text.toList) : place = other := by
  obtain ⟨hname, hsteps⟩ := hplace
  obtain ⟨hname', hsteps'⟩ := hother
  rw [toList_text, toList_text] at h
  obtain ⟨rfl, hrest⟩ := name_append_charsOf_inj hname hname' h
  rw [charsOf_injective hsteps hsteps' hrest]

theorem not_blank_of_mem_text {place : Place} (hplace : place.IsPlain) : ' ' ∉ place.text.toList := by
  obtain ⟨hname, hsteps⟩ := hplace
  rw [toList_text, List.mem_append]
  rintro (h | h)
  · exact (isPlainName_iff.mp hname _ h).1 rfl
  · obtain ⟨step, mem, h⟩ := List.mem_flatMap.mp h
    exact Step.not_blank_of_mem_chars (hsteps step mem) h

end Place

namespace Problem

/-- The problem with another bound, if it has one. -/
def bare : Problem → Problem
  | below _ => below 0
  | above _ => above 0
  | problem => problem

def bares : List Problem :=
  [missing, missingSequence, notText, notWebAddress, notNumber, below 0, above 0, notSequence,
    notMapping]

theorem bare_mem (p : Problem) : p.bare ∈ bares := by
  cases p <;> simp [bare, bares]

theorem text_below (n : Nat) : text (below n) = " must be at least " ++ Nat.repr n := rfl

theorem text_above (n : Nat) : text (above n) = " must be at most " ++ Nat.repr n := rfl

/-- A bound comes late in the text. -/
theorem take_text (p : Problem) : p.text.toList.take 13 = p.bare.text.toList.take 13 := by
  cases p with
  | below n =>
    rw [bare, text_below, text_below, String.toList_append, String.toList_append,
      List.take_append_of_le_length (by decide), List.take_append_of_le_length (by decide)]
  | above n =>
    rw [bare, text_above, text_above, String.toList_append, String.toList_append,
      List.take_append_of_le_length (by decide), List.take_append_of_le_length (by decide)]
  | missing | missingSequence | notText | notWebAddress | notNumber | notSequence | notMapping =>
    rfl

theorem take_bares_injective :
    ∀ p ∈ bares, ∀ q ∈ bares, p.text.toList.take 13 = q.text.toList.take 13 → p = q := by
  decide +kernel

theorem text_injective {p q : Problem} (h : p.text = q.text) : p = q := by
  have hbare : p.bare = q.bare := by
    refine take_bares_injective _ p.bare_mem _ q.bare_mem ?_
    rw [← take_text, ← take_text, h]
  cases p with
  | below n =>
    cases q with
    | below m =>
      rw [text_below, text_below, String.append_right_inj] at h
      rw [Nat.repr_inj.mp h]
    | _ => cases hbare
  | above n =>
    cases q with
    | above m =>
      rw [text_above, text_above, String.append_right_inj] at h
      rw [Nat.repr_inj.mp h]
    | _ => cases hbare
  | missing | missingSequence | notText | notWebAddress | notNumber | notSequence | notMapping =>
    cases q <;> first | rfl | cases hbare

theorem head?_text (p : Problem) : p.text.toList.head? = some ' ' := by
  have first : p.text.toList.head? = p.bare.text.toList.head? := by
    have h := congrArg List.head? p.take_text
    rwa [List.head?_take, List.head?_take] at h
  have bares_head : ∀ q ∈ bares, q.text.toList.head? = some ' ' := by decide
  rw [first, bares_head _ p.bare_mem]

end Problem

/-- Violations at plain places have the same message only if they are the same. -/
theorem Violation.message_injective {v w : Violation} (hv : v.place.IsPlain)
    (hw : w.place.IsPlain) (h : v.message = w.message) : v = w := by
  have inside {place : Place} (hplace : place.IsPlain) :
      ∀ c ∈ place.text.toList, (c != ' ') = true := by
    intro c hc
    rw [bne_iff_ne]
    rintro rfl
    exact Place.not_blank_of_mem_text hplace hc
  have outside {p : Problem} : ∀ c, p.text.toList.head? = some c → (c != ' ') = false := by
    intro c hc
    rw [p.head?_text, Option.some.injEq] at hc
    rw [← hc]
    rfl
  rw [message, message, ← String.toList_inj, String.toList_append, String.toList_append] at h
  obtain ⟨hplace, hproblem⟩ := append_inj_of_stop _ (inside hv) (inside hw) outside outside h
  have hplaces := Place.text_injective hv hw hplace
  have hproblems := Problem.text_injective (String.toList_inj.mp hproblem)
  cases v
  cases w
  cases hplaces
  cases hproblems
  rfl

end TripCards
