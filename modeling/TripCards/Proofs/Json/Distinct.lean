/-
Documents without a name twice in an object.

A document may write a member of an object more than once; the reader keeps the last one, in the place
of the first. So what it reads has no name twice in an object, at any depth, and the data of a card has
none in a mapping: `Fields.allDistinct_of_ofString`.
-/
import TripCards.Card
import TripCards.Proofs.Entries.Putting
import TripCards.Proofs.Outcome
import TripCards.Proofs.Value.Alike

namespace TripCards

namespace Json

def isNull : Json → Bool
  | null => true
  | _ => false

/-- No two members of an object have the same name, at any depth in the document. -/
inductive AllDistinct : Json → Prop where
  | null : AllDistinct .null
  | boolean {b : Bool} : AllDistinct (.boolean b)
  | number {n : Number} : AllDistinct (.number n)
  | string {s : String} : AllDistinct (.string s)
  | array {items : List Json} : (∀ item ∈ items, AllDistinct item) → AllDistinct (.array items)
  | object {members : List (String × Json)} : Entries.Distinct members →
      (∀ member ∈ members, AllDistinct member.2) → AllDistinct (.object members)

theorem length_lt_of_skipBlanks {text rest : List Char} {c : Char}
    (h : skipBlanks text = c :: rest) : rest.length < text.length := by
  have atMost := length_skipBlanks text
  rw [h] at atMost
  exact atMost

theorem Read.of_within {text longer : List Char} {α β : Type} {h : text.length ≤ longer.length}
    {f : α → β} {read : Read text α} {found : β × Shorter longer}
    (hread : read.within h f = .ok found) : ∃ a left, read = .ok (a, left) ∧ f a = found.1 := by
  cases read with
  | error stop => cases hread
  | ok read =>
    obtain rfl := Except.ok.inj hread
    exact ⟨read.1, read.2, rfl, rfl⟩

mutual

theorem allDistinct_of_readValue (room : Nat) (text : List Char) (read : Json × Shorter text)
    (h : readValue room text = .ok read) : read.1.AllDistinct := by
  rw [readValue] at h
  split at h
  · cases h
  · rename_i c rest htext
    have shorter := length_lt_of_skipBlanks htext
    dsimp only at h
    split_ifs at h with isNull isTrue isFalse isMinus isDigit isQuote isList isObject
    · split at h
      · cases h
      · obtain rfl := Except.ok.inj h
        exact .null
    · split at h
      · cases h
      · obtain rfl := Except.ok.inj h
        exact .boolean
    · split at h
      · cases h
      · obtain rfl := Except.ok.inj h
        exact .boolean
    · split at h
      · cases h
      · obtain rfl := Except.ok.inj h
        exact .number
    · split at h
      · cases h
      · obtain rfl := Except.ok.inj h
        exact .number
    · split at h
      · cases h
      · obtain rfl := Except.ok.inj h
        exact .string
    · split at h
      · cases h
      · rename_i room
        split at h
        · cases h
        · split_ifs at h
          · obtain rfl := Except.ok.inj h
            exact .array (List.forall_mem_nil _)
          · obtain ⟨items, left, hitems, hread⟩ := Read.of_within h
            rw [← hread]
            exact .array (allDistinct_of_readItems room rest _ hitems)
    · split at h
      · cases h
      · rename_i room
        split at h
        · cases h
        · rename_i d left hrest
          have left_shorter := Nat.lt_trans (length_lt_of_skipBlanks hrest) shorter
          split_ifs at h
          · obtain rfl := Except.ok.inj h
            exact .object Entries.distinct_nil (List.forall_mem_nil _)
          · obtain ⟨members, _, hmembers, hread⟩ := Read.of_within h
            rw [← hread]
            exact .object (Entries.distinct_nil.putAll members)
              (Entries.forall_mem_putAll (List.forall_mem_nil _)
                (allDistinct_of_readMembers room left _ hmembers))
termination_by (text.length, 0)

theorem allDistinct_of_readItems (room : Nat) (text : List Char) (read : List Json × Shorter text)
    (h : readItems room text = .ok read) : ∀ item ∈ read.1, item.AllDistinct := by
  rw [readItems] at h
  split at h
  · cases h
  · rename_i item rest shorter hitem
    have distinct := allDistinct_of_readValue room text _ hitem
    split at h
    · cases h
    · rename_i c left hrest
      have left_shorter := Nat.lt_trans (length_lt_of_skipBlanks hrest) shorter
      split_ifs at h
      · obtain rfl := Except.ok.inj h
        exact List.forall_mem_singleton.mpr distinct
      · split at h
        · cases h
        · split_ifs at h
          obtain ⟨items, _, hitems, hread⟩ := Read.of_within h
          rw [← hread]
          exact List.forall_mem_cons.mpr ⟨distinct, allDistinct_of_readItems room left _ hitems⟩
termination_by (text.length, 1)

theorem allDistinct_of_readMembers (room : Nat) (text : List Char)
    (read : List (String × Json) × Shorter text) (h : readMembers room text = .ok read) :
    ∀ member ∈ read.1, member.2.AllDistinct := by
  rw [readMembers] at h
  split at h
  · cases h
  · rename_i key afterKey hkey
    split at h
    · cases h
    · rename_i afterColon colon_shorter hcolon
      have colon_shorter : afterColon.length < text.length :=
        Nat.lt_trans colon_shorter (Quoted.length_read hkey)
      split at h
      · cases h
      · rename_i value rest shorter hvalue
        have distinct := allDistinct_of_readValue room afterColon _ hvalue
        dsimp only at h
        split at h
        · cases h
        · rename_i c left hrest
          have left_shorter :=
            Nat.lt_trans (Nat.lt_trans (length_lt_of_skipBlanks hrest) shorter) colon_shorter
          split_ifs at h
          · obtain rfl := Except.ok.inj h
            exact List.forall_mem_singleton.mpr distinct
          · split at h
            · cases h
            · rename_i d more hleft
              have more_shorter := Nat.lt_trans (length_lt_of_skipBlanks hleft) left_shorter
              split_ifs at h
              obtain ⟨members, _, hmembers, hread⟩ := Read.of_within h
              rw [← hread]
              exact List.forall_mem_cons.mpr
                ⟨distinct, allDistinct_of_readMembers room more _ hmembers⟩
termination_by (text.length, 1)

end

theorem allDistinct_of_ofString {text : String} {json : Json} (h : ofString text = .ok json) :
    json.AllDistinct := by
  rw [ofString, mapError_eq_ok_iff, ofChars] at h
  split at h
  · cases h
  · rename_i value rest _ hvalue
    have distinct := allDistinct_of_readValue maxOpen text.toList _ hvalue
    split at h
    · obtain rfl := Except.ok.inj h
      exact distinct
    · cases h

end Json

namespace Value

theorem isSome_ofJson? (json : Json) : (ofJson? json).isSome = !json.isNull := by
  cases json <;> rfl

theorem names_ofMembers (members : List (String × Json)) :
    Entries.names (ofMembers members) =
      Entries.names (members.filter fun member => !member.2.isNull) := by
  induction members with
  | nil => rfl
  | cons member members ih =>
    obtain ⟨name, json⟩ := member
    have given := isSome_ofJson? json
    rw [ofMembers, ofMember, List.filter_cons, ← given]
    cases ofJson? json with
    | none => exact ih
    | some value => exact congrArg (name :: ·) ih

/-- Leaving members out makes no names. -/
theorem names_ofMembers_sublist (members : List (String × Json)) :
    (Entries.names (ofMembers members)).Sublist (Entries.names members) := by
  rw [names_ofMembers]
  exact List.filter_sublist.map Prod.fst

mutual

theorem allDistinct_of_ofJson? (json : Json) (distinct : json.AllDistinct) {value : Value}
    (h : ofJson? json = some value) : value.AllDistinct := by
  cases distinct with
  | null => cases h
  | boolean =>
    obtain rfl := Option.some.inj h
    exact .boolean
  | number =>
    obtain rfl := Option.some.inj h
    exact .number
  | string =>
    obtain rfl := Option.some.inj h
    exact .text
  | @array items distinct =>
    obtain rfl := Option.some.inj h
    exact .sequence (allDistinct_ofItems items distinct)
  | @object members names distinct =>
    obtain rfl := Option.some.inj h
    exact .mapping ((names_ofMembers_sublist members).nodup names)
      (allDistinct_ofMembers members distinct)

theorem allDistinct_ofItems (items : List Json) (distinct : ∀ item ∈ items, item.AllDistinct) :
    ∀ value ∈ ofItems items, value.AllDistinct := by
  cases items with
  | nil => exact List.forall_mem_nil _
  | cons item items =>
    rw [List.forall_mem_cons] at distinct
    rw [ofItems, List.forall_mem_cons]
    refine ⟨?_, allDistinct_ofItems items distinct.2⟩
    cases found : ofJson? item with
    | none => exact .mapping Entries.distinct_nil (List.forall_mem_nil _)
    | some value => exact allDistinct_of_ofJson? item distinct.1 found

theorem allDistinct_ofMembers (members : List (String × Json))
    (distinct : ∀ member ∈ members, member.2.AllDistinct) :
    ∀ field ∈ ofMembers members, field.2.AllDistinct := by
  cases members with
  | nil => exact List.forall_mem_nil _
  | cons member members =>
    obtain ⟨name, json⟩ := member
    rw [List.forall_mem_cons] at distinct
    rw [ofMembers, ofMember]
    cases found : ofJson? json with
    | none => exact allDistinct_ofMembers members distinct.2
    | some value =>
      exact List.forall_mem_cons.mpr
        ⟨allDistinct_of_ofJson? json distinct.1 found, allDistinct_ofMembers members distinct.2⟩

end

end Value

/-- The data of a document has no name twice in a mapping. -/
theorem Fields.allDistinct_of_ofString {text : String} {fields : Fields}
    (h : ofString text = .ok fields) : (Value.mapping fields).AllDistinct := by
  rw [ofString] at h
  split at h
  · cases h
  · rename_i json hjson
    have distinct := Json.allDistinct_of_ofString hjson
    rw [mapError_eq_ok_iff] at h
    cases distinct with
    | @object members names distinct =>
      obtain rfl := Except.ok.inj h
      exact .mapping ((Value.names_ofMembers_sublist members).nodup names)
        (Value.allDistinct_ofMembers members distinct)
    | null | boolean | number | string | array => cases h

end TripCards
