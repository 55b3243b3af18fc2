/-
Readings that are watched.

A watched reading notes what happens on the way: which bytes are cut out, which tokens are found, which
offsets are located, and which readings are entered and left again. It breaks off, and gives no value,
where bytes are to be cut out that are no text. `Reads` says that a reading comes to its end safely, and
what it notes; `Reads.bind` puts two readings together, and `Reads.nested` enters one from another.
-/
import TripCards.Proofs.Text.Slicing
import TripCards.Template.Token

namespace TripCards

open Text (Fits byteLength slice?)

/-- What happens while a source is read. -/
inductive ReadEvent where
  | round (pos : Nat)
  | cut (text : String) (start stop : Nat)
  | found (token : Token)
  | located (offset : Nat)
  | entered
  | left
deriving DecidableEq

namespace ReadEvent

def round? : ReadEvent → Option Nat
  | round pos => some pos
  | _ => none

def token? : ReadEvent → Option Token
  | found token => some token
  | _ => none

/-- Two opening braces stand at the offset. -/
def OpensAt (source : String) (offset : Nat) : Prop :=
  slice? source offset (offset + 2) = some (String.ofList ['{', '{'])

/-- An event that is safe in a source: bytes that are cut out are a text, no offset lies within a
character, and where a tag is found or an offset is located stand two opening braces. -/
def IsSafe (source : String) : ReadEvent → Prop
  | round pos => String.Pos.Raw.IsValid source ⟨pos⟩
  | cut text start stop => Fits text start stop
  | found token =>
      String.Pos.Raw.IsValid source ⟨token.offset⟩ ∧
        ∀ tag, token.kind = .tag tag → OpensAt source token.offset
  | located offset => String.Pos.Raw.IsValid source ⟨offset⟩ ∧ OpensAt source offset
  | entered => True
  | left => True

/-- No more than `n` readings are under way at any time, and none in the end. -/
structure NestsWithin (n : Nat) (events : List ReadEvent) : Prop where
  within : ∀ front, front <+: events → front.count entered ≤ front.count left + n
  balanced : events.count entered = events.count left

variable {n m : Nat} {events others : List ReadEvent}

theorem nestsWithin_of_not_mem (enters : entered ∉ events) (leaves : left ∉ events) :
    NestsWithin n events where
  within := by
    intro front hfront
    rw [List.count_eq_zero_of_not_mem fun mem => enters (hfront.mem mem)]
    exact Nat.zero_le _
  balanced := by
    rw [List.count_eq_zero_of_not_mem enters, List.count_eq_zero_of_not_mem leaves]

theorem NestsWithin.mono (h : NestsWithin n events) (le : n ≤ m) : NestsWithin m events where
  within := fun front hfront => Nat.le_trans (h.within front hfront) (Nat.add_le_add_left le _)
  balanced := h.balanced

theorem NestsWithin.append (h : NestsWithin n events) (hothers : NestsWithin n others) :
    NestsWithin n (events ++ others) where
  within := by
    intro front hfront
    rcases List.prefix_or_prefix_of_prefix hfront (List.prefix_append events others) with
      early | ⟨late, rfl⟩
    · exact h.within front early
    · have before := h.balanced
      have behind := hothers.within late ((List.prefix_append_right_inj events).mp hfront)
      rw [List.count_append, List.count_append]
      omega
  balanced := by
    rw [List.count_append, List.count_append, h.balanced, hothers.balanced]

/-- A reading that is entered and left is one more that is under way. -/
theorem NestsWithin.nested (h : NestsWithin n events) :
    NestsWithin (n + 1) (entered :: (events ++ [left])) where
  within := by
    intro front hfront
    cases front with
    | nil => exact Nat.zero_le _
    | cons first front =>
      obtain ⟨rfl, hrest⟩ := List.cons_prefix_cons.mp hfront
      have leaves : front.count entered ≤ front.count left + n := by
        rcases List.prefix_concat_iff.mp hrest with rfl | early
        · have ends := h.balanced
          simp
          omega
        · exact h.within front early
      rw [List.count_cons_self, List.count_cons_of_ne (by simp)]
      omega
  balanced := by
    rw [List.count_cons_self, List.count_cons_of_ne (by simp), List.count_append, List.count_append,
      h.balanced]
    simp

end ReadEvent

/-- What happened while something was read, and what was read. There is nothing where the reading broke
off. -/
structure Watched (α : Type) where
  events : List ReadEvent
  value? : Option α

namespace Watched

variable {α β : Type}

/-- Goes on with `f`, unless the reading broke off. -/
protected def bind (x : Watched α) (f : α → Watched β) : Watched β :=
  match x.value? with
  | none => ⟨x.events, none⟩
  | some a => ⟨x.events ++ (f a).events, (f a).value?⟩

instance : Monad Watched where
  pure a := ⟨[], some a⟩
  bind := Watched.bind

/-- Notes an event. -/
def note (event : ReadEvent) : Watched Unit :=
  ⟨[event], some ()⟩

/-- Cuts bytes out of a text, or breaks off. -/
def cut (text : String) (start stop : Nat) : Watched String :=
  ⟨[.cut text start stop], slice? text start stop⟩

def find (token : Token) : Watched Token := do
  note (.found token)
  pure token

/-- A reading that is entered from another one. -/
def nested (x : Watched α) : Watched α := do
  note .entered
  let a ← x
  note .left
  pure a

/-- A reading in a source comes to its end safely, with the value `a`. It notes these rounds and tokens,
and no more than `n` readings that are entered from it are under way at once. -/
structure Reads (source : String) (x : Watched α) (a : α) (rounds : List Nat) (tokens : List Token)
    (n : Nat) : Prop where
  value : x.value? = some a
  safe : ∀ event ∈ x.events, event.IsSafe source
  rounds : x.events.filterMap ReadEvent.round? = rounds
  tokens : x.events.filterMap ReadEvent.token? = tokens
  nests : ReadEvent.NestsWithin n x.events

variable {source : String} {x : Watched α} {a : α} {f : α → Watched β} {b : β} {rounds : List Nat}
  {tokens : List Token} {n m : Nat}

namespace Reads

theorem mono (h : Reads source x a rounds tokens n) (le : n ≤ m) :
    Reads source x a rounds tokens m :=
  { h with nests := h.nests.mono le }

theorem pure (a : α) : Reads source (Pure.pure a) a [] [] n where
  value := rfl
  safe := List.forall_mem_nil _
  rounds := rfl
  tokens := rfl
  nests := ReadEvent.nestsWithin_of_not_mem List.not_mem_nil List.not_mem_nil

theorem bind {moreRounds : List Nat} {moreTokens : List Token}
    (hx : Reads source x a rounds tokens n) (hf : Reads source (f a) b moreRounds moreTokens n) :
    Reads source (x >>= f) b (rounds ++ moreRounds) (tokens ++ moreTokens) n := by
  have both : x >>= f = ⟨x.events ++ (f a).events, (f a).value?⟩ := by
    show Watched.bind x f = _
    rw [Watched.bind, hx.value]
  rw [both]
  refine ⟨hf.value, List.forall_mem_append.mpr ⟨hx.safe, hf.safe⟩, ?_, ?_, hx.nests.append hf.nests⟩
  · rw [List.filterMap_append, hx.rounds, hf.rounds]
  · rw [List.filterMap_append, hx.tokens, hf.tokens]

/-- Nothing of note happens at first. -/
theorem quiet_bind (hx : Reads source x a [] [] n) (hf : Reads source (f a) b rounds tokens n) :
    Reads source (x >>= f) b rounds tokens n :=
  hx.bind hf

/-- Nothing of note happens in the end. -/
theorem bind_quiet (hx : Reads source x a rounds tokens n) (hf : Reads source (f a) b [] [] n) :
    Reads source (x >>= f) b rounds tokens n := by
  have h := hx.bind hf
  rwa [List.append_nil, List.append_nil] at h

theorem map {g : α → β} (hx : Reads source x a rounds tokens n) :
    Reads source (g <$> x) (g a) rounds tokens n :=
  hx.bind_quiet (f := fun a => Pure.pure (g a)) (.pure (g a))

theorem note {event : ReadEvent} (safe : event.IsSafe source) (enters : event ≠ .entered)
    (leaves : event ≠ .left) :
    Reads source (note event) () event.round?.toList event.token?.toList n where
  value := rfl
  safe := List.forall_mem_singleton.mpr safe
  rounds := by cases event <;> rfl
  tokens := by cases event <;> rfl
  nests := by
    apply ReadEvent.nestsWithin_of_not_mem
    · exact fun mem => enters (List.mem_singleton.mp mem).symm
    · exact fun mem => leaves (List.mem_singleton.mp mem).symm

theorem cut {text : String} {before inside behind : List Char} {start stop : Nat}
    (whole : text.toList = before ++ inside ++ behind) (hstart : start = byteLength before)
    (hstop : stop = byteLength before + byteLength inside) :
    Reads source (cut text start stop) (String.ofList inside) [] [] n where
  value := by
    rw [hstart, hstop]
    exact Text.slice?_of_append whole
  safe := by
    rw [hstart, hstop]
    exact List.forall_mem_singleton.mpr (Text.fits_of_append whole)
  rounds := rfl
  tokens := rfl
  nests := by
    apply ReadEvent.nestsWithin_of_not_mem <;> simp [Watched.cut]

theorem find {token : Token} (safe : (ReadEvent.found token).IsSafe source) :
    Reads source (find token) token [] [token] n :=
  (Reads.note safe nofun nofun).bind (Reads.pure token)

theorem nested (h : Reads source x a rounds tokens n) :
    Reads source (nested x) a rounds tokens (n + 1) := by
  have whole : Watched.nested x = ⟨.entered :: (x.events ++ [.left]), some a⟩ := by
    show Watched.bind (Watched.note .entered)
      (fun _ => Watched.bind x fun a => Watched.bind (Watched.note .left) fun _ => ⟨[], some a⟩) = _
    simp [Watched.bind, Watched.note, h.value]
  rw [whole]
  refine ⟨rfl, ?_, ?_, ?_, h.nests.nested⟩
  · rw [List.forall_mem_cons, List.forall_mem_append, List.forall_mem_singleton]
    exact ⟨trivial, h.safe, trivial⟩
  · rw [List.filterMap_cons, List.filterMap_append, h.rounds]
    exact List.append_nil rounds
  · rw [List.filterMap_cons, List.filterMap_append, h.tokens]
    exact List.append_nil tokens

end Reads

end Watched
end TripCards
