/-
Texts cut and searched by bytes.

Bytes can be cut out of a text where no character is cut in two, and they are the characters there,
`slice?_of_append`. A search goes through the bytes as well. The bytes of a wide character are no
characters of their own, so what is found of one-byte characters lies between characters:
`find?_pair` and `findLast?_pair` say that braces are found where they stand.
-/
import TripCards.Proofs.Text.Locating
import TripCards.Template.Piece

namespace TripCards
namespace Text

/-! ## Slices -/

/-- Bytes of a text that are a text of their own: they come in order, they lie in the text, and no
character is cut in two at either end. -/
structure Fits (text : String) (start stop : Nat) : Prop where
  ordered : start ≤ stop
  inside : stop ≤ text.utf8ByteSize
  first : String.Pos.Raw.IsValid text ⟨start⟩
  last : String.Pos.Raw.IsValid text ⟨stop⟩

theorem fits_iff {text : String} {start stop : Nat} : Fits text start stop ↔
    start ≤ stop ∧ stop ≤ text.utf8ByteSize ∧ String.Pos.Raw.IsValid text ⟨start⟩ ∧
      String.Pos.Raw.IsValid text ⟨stop⟩ := by
  constructor
  · exact fun fits => ⟨fits.ordered, fits.inside, fits.first, fits.last⟩
  · exact fun ⟨ordered, inside, first, last⟩ => ⟨ordered, inside, first, last⟩

instance (text : String) (start stop : Nat) : Decidable (Fits text start stop) :=
  decidable_of_iff' _ fits_iff

/-- The bytes from `start` up to `stop`. Bytes that are no text are not given out. -/
def slice? (text : String) (start stop : Nat) : Option String :=
  if fits : Fits text start stop then
    some (text.extract ⟨⟨start⟩, fits.first⟩ ⟨⟨stop⟩, fits.last⟩)
  else none

section Slice

variable {text : String} {before inside rest : List Char}
  (whole : text.toList = before ++ inside ++ rest)
include whole

theorem fits_of_append : Fits text (byteLength before) (byteLength before + byteLength inside) where
  ordered := Nat.le_add_right _ _
  inside := by
    rw [utf8ByteSize_of_toList whole, byteLength_append, byteLength_append]
    exact Nat.le_add_right _ _
  first := by
    rw [List.append_assoc] at whole
    exact isValid_of_append whole
  last := by
    rw [← byteLength_append]
    exact isValid_of_append whole

theorem slice?_of_append :
    slice? text (byteLength before) (byteLength before + byteLength inside) =
      some (String.ofList inside) := by
  have bytes : text.toByteArray = (before ++ inside ++ rest).utf8Encode := by
    rw [← whole, String.utf8Encode_toList]
  have size (s : List Char) : byteLength s = s.utf8Encode.size := by
    rw [byteLength_eq_utf8ByteSize, ← String.size_toByteArray, String.toByteArray_ofList]
  have passed := ByteArray.extract_append_size_add (a := before.utf8Encode)
    (b := inside.utf8Encode ++ rest.utf8Encode) (i := 0) (j := inside.utf8Encode.size)
  rw [Nat.add_zero] at passed
  rw [slice?, dif_pos (fits_of_append whole), Option.some.injEq, ← String.toByteArray_inj,
    String.toByteArray_extract, String.toByteArray_ofList]
  simp only [bytes, List.utf8Encode_append, size]
  rw [ByteArray.append_assoc, passed, ByteArray.extract_append_eq_left rfl]

end Slice

/-! ## Searches -/

/-- The bytes that characters are written with. -/
def bytes (s : List Char) : List UInt8 :=
  s.flatMap String.utf8EncodeChar

/-- The places of a pattern among bytes, each as the number of bytes before it. -/
def places (pattern : List UInt8) : List UInt8 → List Nat
  | [] => if pattern = [] then [0] else []
  | b :: s => (if pattern <+: b :: s then [0] else []) ++ (places pattern s).map (· + 1)

/-- The places of a pattern in a text. -/
def placesIn (pattern : List Char) (text : String) : List Nat :=
  places (bytes pattern) text.toByteArray.data.toList

/-- Where a pattern stands in a text for the first time. -/
def find? (pattern : List Char) (text : String) : Option Nat :=
  (placesIn pattern text).head?

/-- Where a pattern stands in a text for the last time. -/
def findLast? (pattern : List Char) (text : String) : Option Nat :=
  (placesIn pattern text).getLast?

theorem bytes_cons (c : Char) (s : List Char) :
    bytes (c :: s) = String.utf8EncodeChar c ++ bytes s :=
  List.flatMap_cons

theorem toByteArray_ofList (s : List Char) :
    (String.ofList s).toByteArray.data.toList = bytes s := by
  rw [String.toByteArray_ofList, List.utf8Encode, List.toList_data_toByteArray, bytes]

/-- The byte of a character that takes one byte occurs in no other character: wider ones are written
with bytes from 128 on. -/
theorem not_mem_utf8EncodeChar {c d : Char} (narrow : c.utf8Size = 1) (other : d ≠ c) :
    c.val.toUInt8 ∉ String.utf8EncodeChar d := by
  have small : c.toNat ≤ 127 := UInt32.le_iff_toNat_le.mp (Char.utf8Size_eq_one_iff.mp narrow)
  have byte : c.val.toUInt8.toNat = c.toNat := by
    rw [UInt32.toNat_toUInt8, Char.toNat_val]
    omega
  have differ : d.toNat ≠ c.toNat := fun same => other (Char.toNat_inj.mp same)
  intro mem
  replace mem := List.mem_map_of_mem (f := UInt8.toNat) mem
  rw [byte, String.utf8EncodeChar] at mem
  simp only [Char.toNat_val] at mem
  split at mem
  · simp at mem
    omega
  · split at mem
    · simp at mem
      omega
    · split at mem <;> (simp at mem; omega)

variable {c : Char} {pattern s : List Char}

/-- Characters of one byte stand at the beginning of a text if their bytes do. -/
theorem bytes_prefix_iff (narrow : ∀ c ∈ pattern, c.utf8Size = 1) :
    bytes pattern <+: bytes s ↔ pattern <+: s := by
  induction pattern generalizing s with
  | nil => simp [bytes]
  | cons c pattern ih =>
    obtain ⟨first, others⟩ := List.forall_mem_cons.mp narrow
    have byte := String.utf8EncodeChar_eq_singleton first
    cases s with
    | nil => simp [bytes, byte]
    | cons d s =>
      rw [bytes_cons, bytes_cons, byte, List.singleton_append]
      by_cases same : d = c
      · rw [same, byte, List.singleton_append, List.cons_prefix_cons, List.cons_prefix_cons, ih others]
        simp
      · obtain ⟨head, tail, wide⟩ :=
          List.exists_cons_of_ne_nil (String.utf8EncodeChar_ne_nil (c := d))
        have absent := not_mem_utf8EncodeChar first same
        rw [wide, List.mem_cons, not_or] at absent
        rw [wide, List.cons_append, List.cons_prefix_cons, List.cons_prefix_cons]
        constructor
        · exact fun stands => absurd stands.1 absent.1
        · exact fun stands => absurd stands.1.symm same

theorem places_append {b : UInt8} {p front : List UInt8} (absent : b ∉ front) (s : List UInt8) :
    places (b :: p) (front ++ s) = (places (b :: p) s).map (· + front.length) := by
  induction front with
  | nil => simp
  | cons a front ih =>
    rw [List.mem_cons, not_or] at absent
    have other : ¬ b :: p <+: a :: (front ++ s) := by
      rw [List.cons_prefix_cons]
      exact fun stands => absent.1 stands.1
    rw [List.cons_append, places, if_neg other, ih absent.2, List.map_map]
    rfl

variable (narrow : ∀ d ∈ c :: pattern, d.utf8Size = 1)
include narrow

theorem placesIn_nil : placesIn (c :: pattern) (String.ofList []) = [] := by
  have byte := String.utf8EncodeChar_eq_singleton (narrow c List.mem_cons_self)
  rw [placesIn, toByteArray_ofList, bytes_cons, byte]
  rfl

/-- A search goes from character to character. -/
theorem placesIn_cons (d : Char) (s : List Char) :
    placesIn (c :: pattern) (String.ofList (d :: s)) =
      (if c :: pattern <+: d :: s then [0] else []) ++
        (placesIn (c :: pattern) (String.ofList s)).map (· + d.utf8Size) := by
  have first := narrow c List.mem_cons_self
  have byte := String.utf8EncodeChar_eq_singleton first
  rw [placesIn, placesIn, toByteArray_ofList, toByteArray_ofList]
  by_cases same : d = c
  · have stands := bytes_prefix_iff (s := c :: s) narrow
    rw [bytes_cons c s, byte, List.singleton_append] at stands
    rw [same, bytes_cons c s, byte, List.singleton_append, places, first]
    simp only [stands]
  · have other : ¬ c :: pattern <+: d :: s := by
      rw [List.cons_prefix_cons]
      exact fun stands => same stands.1.symm
    rw [if_neg other, List.nil_append, bytes_cons d s, bytes_cons c pattern, byte,
      List.singleton_append, places_append (not_mem_utf8EncodeChar first same),
      String.length_utf8EncodeChar]

theorem find?_cons (d : Char) (s : List Char) :
    find? (c :: pattern) (String.ofList (d :: s)) =
      if c :: pattern <+: d :: s then some 0
      else (find? (c :: pattern) (String.ofList s)).map (· + d.utf8Size) := by
  rw [find?, find?, placesIn_cons narrow]
  by_cases stands : c :: pattern <+: d :: s
  · rw [if_pos stands, if_pos stands]
    rfl
  · rw [if_neg stands, if_neg stands, List.nil_append, List.head?_map]

theorem findLast?_cons (d : Char) (s : List Char) :
    findLast? (c :: pattern) (String.ofList (d :: s)) =
      match findLast? (c :: pattern) (String.ofList s) with
      | some place => some (place + d.utf8Size)
      | none => if c :: pattern <+: d :: s then some 0 else none := by
  rw [findLast?, findLast?, placesIn_cons narrow, List.getLast?_append, List.getLast?_map]
  cases (placesIn (c :: pattern) (String.ofList s)).getLast? with
  | some place => rfl
  | none =>
    by_cases stands : c :: pattern <+: d :: s
    · rw [if_pos stands]
      simp [stands]
    · simp [stands]

omit narrow

/-- The bytes of two equal characters are found where the characters first stand. -/
theorem find?_pair (narrow : c.utf8Size = 1) (s : List Char) :
    find? [c, c] (String.ofList s) = (Piece.cutAtFirst c s).map fun cut => byteLength cut.1 := by
  have all : ∀ d ∈ [c, c], d.utf8Size = 1 := by simp [narrow]
  fun_induction Piece.cutAtFirst c s with
  | case1 a b s pair =>
    rw [find?_cons all, if_pos]
    · rfl
    · simp [pair]
  | case2 a b s other ih =>
    rw [find?_cons all, if_neg, ih, Option.map_map, Option.map_map]
    · congr 1
      funext cut
      exact Nat.add_comm _ _
    · simp only [List.cons_prefix_cons, List.nil_prefix, and_true]
      exact fun pair => other ⟨pair.1.symm, pair.2.symm⟩
  | case3 s short =>
    rcases s with _ | ⟨a, _ | ⟨b, s⟩⟩
    · rw [find?, placesIn_nil all]
      rfl
    · rw [find?_cons all, find?, placesIn_nil all]
      simp [List.cons_prefix_cons]
    · exact absurd rfl (short a b s)

/-- The bytes of two equal characters are found where the characters last stand. -/
theorem findLast?_pair (narrow : c.utf8Size = 1) (s : List Char) :
    findLast? [c, c] (String.ofList s) = (Piece.cutAtLast c s).map fun cut => byteLength cut.1 := by
  have all : ∀ d ∈ [c, c], d.utf8Size = 1 := by simp [narrow]
  fun_induction Piece.cutAtLast c s with
  | case1 a b s before after cut ih =>
    rw [findLast?_cons all, ih, cut]
    simp [Nat.add_comm]
  | case2 a b s none pair ih =>
    rw [findLast?_cons all, ih, none]
    simp [pair]
  | case3 a b s none other ih =>
    rw [findLast?_cons all, ih, none]
    simpa [List.cons_prefix_cons, eq_comm] using other
  | case4 s short =>
    rcases s with _ | ⟨a, _ | ⟨b, s⟩⟩
    · rw [findLast?, placesIn_nil all]
      rfl
    · rw [findLast?_cons all, findLast?, placesIn_nil all]
      simp [List.cons_prefix_cons]
    · exact absurd rfl (short a b s)

/-- A character that is found for the last time does not stand behind its place. -/
theorem findLast?_single (narrow : c.utf8Size = 1) (s : List Char) :
    (c ∉ s ∧ findLast? [c] (String.ofList s) = none) ∨
      ∃ before behind, s = before ++ c :: behind ∧ c ∉ behind ∧
        findLast? [c] (String.ofList s) = some (byteLength before) := by
  have all : ∀ d ∈ [c], d.utf8Size = 1 := by simp [narrow]
  induction s with
  | nil =>
    left
    rw [findLast?, placesIn_nil all]
    simp
  | cons d s ih =>
    rw [findLast?_cons all]
    rcases ih with ⟨absent, none⟩ | ⟨before, behind, rfl, absent, some⟩
    · rw [none]
      by_cases same : d = c
      · right
        refine ⟨[], s, by rw [same, List.nil_append], absent, ?_⟩
        simp [same]
      · left
        simp [absent, Ne.symm same]
    · right
      refine ⟨d :: before, behind, rfl, absent, ?_⟩
      rw [some]
      simp [Nat.add_comm]

end Text
end TripCards
