/-
Frames laid over data.

A scope inside of repetitions is the data with a frame over it for every one that is open. Nothing is
copied to make it, and a name is looked for frame by frame from the inside. `resolve_stack` says that
a path leads to the same in one set of fields onto which the frames were copied, one over the other:
the place of an item over the fields of the item, and these over all that is outside. A frame that has
the first name of a path decides where the path leads, or that it leads nowhere.
-/
import TripCards.Proofs.Scope.Merged

namespace TripCards

/-- What a repetition lays over the data for one of its items. -/
structure Frame where
  item : Value
  index : Nat
  count : Nat

namespace Frame

/-- The fields of the frame alone: those of its item, and over them its place. -/
def fields (frame : Frame) : Fields :=
  Entries.overlay (frame.item.fields?.getD []) (Scope.placeOf frame.index frame.count)

/-- The scope inside of the frame. -/
def onto (frame : Frame) (outer : Scope) : Scope :=
  .item frame.item frame.index frame.count outer

theorem lookup_onto (frame : Frame) (outer : Scope) (name : String) :
    (frame.onto outer).lookup name =
      (Entries.get? frame.fields name).or (outer.lookup name) := by
  rw [onto, Scope.lookup, fields, Entries.get?_overlay, Entries.get?_getD_nil]
  cases Entries.get? (Scope.placeOf frame.index frame.count) name with
  | some place => rfl
  | none => cases frame.item.fields?.bind (Entries.get? · name) <;> rfl

end Frame

/-- The data with the frames copied over it, the first one first. -/
def Fields.overlaid (fields : Fields) (frames : List Frame) : Fields :=
  frames.foldl (fun fields frame => fields.forItem frame.item frame.index frame.count) fields

namespace Scope

/-- The scope with frames over it, of which the first is the outermost. -/
def stack (scope : Scope) (frames : List Frame) : Scope :=
  frames.foldl (fun outer frame => frame.onto outer) scope

theorem merged_stack (scope : Scope) (frames : List Frame) :
    (scope.stack frames).merged = scope.merged.overlaid frames := by
  induction frames generalizing scope with
  | nil => rfl
  | cons frame frames ih => exact ih (frame.onto scope)

variable {scope other : Scope} {name : String}

theorem lookup_stack_congr (h : scope.lookup name = other.lookup name) (frames : List Frame) :
    (scope.stack frames).lookup name = (other.stack frames).lookup name := by
  induction frames generalizing scope other with
  | nil => exact h
  | cons frame frames ih =>
    apply ih
    rw [Frame.lookup_onto, Frame.lookup_onto, h]

/-- What lies under a frame that has the name does not matter. -/
theorem lookup_stack_of_has {frames : List Frame}
    (h : ∃ frame ∈ frames, Entries.has frame.fields name = true) (scope other : Scope) :
    (scope.stack frames).lookup name = (other.stack frames).lookup name := by
  induction frames generalizing scope other with
  | nil => simp at h
  | cons frame frames ih =>
    by_cases later : ∃ inner ∈ frames, Entries.has inner.fields name = true
    · exact ih later (frame.onto scope) (frame.onto other)
    · have here : Entries.has frame.fields name = true := by simpa [later] using h
      obtain ⟨value, found⟩ := Option.isSome_iff_exists.mp here
      have same : (frame.onto scope).lookup name = (frame.onto other).lookup name := by
        rw [Frame.lookup_onto, Frame.lookup_onto, found, Option.some_or, Option.some_or]
      exact lookup_stack_congr same frames

/-- A path leads to the same through frames and in the copy that they make. It does not lead past the
frames that it is found in: if one of the inner frames has its first name, then it leads to the same
over whatever these are laid, and to nothing if the rest of it cannot be followed there. -/
theorem resolve_stack (data : Fields) (frames : List Frame) (path : Path) :
    ((root data).stack frames).resolve path = (data.overlaid frames).resolve path ∧
      ∀ inner : List Frame, (∃ frame ∈ inner, Entries.has frame.fields path.head = true) →
        ((root data).stack (frames ++ inner)).resolve path =
          (Fields.overlaid [] inner).resolve path := by
  have copied (data : Fields) (frames : List Frame) :
      ((root data).stack frames).resolve path = (data.overlaid frames).resolve path := by
    rw [resolve_eq_resolve_merged, merged_stack, merged]
  refine ⟨copied data frames, fun inner h => ?_⟩
  have apart : (root data).stack (frames ++ inner) = ((root data).stack frames).stack inner :=
    List.foldl_append
  rw [← copied, apart, resolve, resolve, lookup_stack_of_has h _ (root [])]

/-- The item has a text in the place of the mapping outside, and a field named like its place. -/
theorem resolve_stack_flatItem :
    let data : Fields := [("a", .mapping [("b", .text "deep")]), ("@last", .text "root")]
    let outer : Frame := ⟨.text "no fields", 0, 2⟩
    let inner : Frame := ⟨.mapping [("@index", .text "own"), ("a", .text "flat")], 4, 5⟩
    Entries.has inner.fields "a" = true ∧
      ((root data).stack [outer]).resolve ⟨"a", ["b"]⟩ = some (.text "deep") ∧
      ((root data).stack [outer, inner]).resolve ⟨"a", ["b"]⟩ = none ∧
      ((root data).stack [outer, inner]).resolve ⟨"@index", []⟩ = some (.number (.whole 4)) := by
  intro data outer inner
  have has : Entries.has inner.fields "a" = true := by decide
  have deep := (resolve_stack data [outer] ⟨"a", ["b"]⟩).1
  have flat := (resolve_stack data [outer] ⟨"a", ["b"]⟩).2 [inner] ⟨inner, List.mem_cons_self, has⟩
  have index := (resolve_stack data [outer, inner] ⟨"@index", []⟩).1
  exact ⟨has, deep, flat, index⟩

end Scope
end TripCards
