/-
Composed text: the one way to write a sequence of characters that has several.

Characters are taken apart as far as that goes, marks behind a character are put in the order of
their classes, and then characters are put together again where a composed one exists.
-/
import TripCards.Text.CombiningClass
import TripCards.Text.Decomposition

namespace TripCards
namespace Text

namespace Hangul

/-- Syllables are made of a leading consonant, a vowel and perhaps a trailing consonant, and stand
in the order of these. -/
def firstSyllable : Nat := 0xAC00
def firstLeading : Nat := 0x1100
def firstVowel : Nat := 0x1161

/-- Trailing consonants are counted from one; none is the first choice. -/
def beforeTrailing : Nat := 0x11A7
def leadingCount : Nat := 19
def vowelCount : Nat := 21
def trailingCount : Nat := 28

def syllableCount : Nat := leadingCount * vowelCount * trailingCount

def isSyllable (n : Nat) : Bool :=
  firstSyllable ≤ n && n < firstSyllable + syllableCount

def parts (n : Nat) : List Char :=
  let index := n - firstSyllable
  let trailing := index % trailingCount
  [Char.ofNat (firstLeading + index / (vowelCount * trailingCount)),
    Char.ofNat (firstVowel + index % (vowelCount * trailingCount) / trailingCount)] ++
    if trailing = 0 then [] else [Char.ofNat (beforeTrailing + trailing)]

def pair? (a b : Nat) : Option Char :=
  if firstLeading ≤ a ∧ a < firstLeading + leadingCount ∧ firstVowel ≤ b ∧
      b < firstVowel + vowelCount then
    some (Char.ofNat (firstSyllable +
      ((a - firstLeading) * vowelCount + (b - firstVowel)) * trailingCount))
  else if isSyllable a ∧ (a - firstSyllable) % trailingCount = 0 ∧ beforeTrailing < b ∧
      b < beforeTrailing + trailingCount then
    some (Char.ofNat (a + (b - beforeTrailing)))
  else none

end Hangul

def takeApart (c : Char) : List Char :=
  if Hangul.isSyllable c.toNat then Hangul.parts c.toNat
  else (Table.find? decompositions c.toNat).getD [c]

/-- A mark goes in front of the later marks of its own class and of higher classes. -/
def insertMark (mark : Char) : List Char → List Char
  | [] => [mark]
  | other :: marks =>
      if combiningClass mark ≤ combiningClass other then mark :: other :: marks
      else other :: insertMark mark marks

/-- Every run of marks in the order of their classes. -/
def orderMarks : List Char → List Char
  | [] => []
  | c :: s =>
      let ordered := orderMarks s
      if combiningClass c = 0 then c :: ordered
      else
        insertMark c (ordered.takeWhile (combiningClass · != 0)) ++
          ordered.dropWhile (combiningClass · != 0)

def pair? (a b : Char) : Option Char :=
  match Hangul.pair? a.toNat b.toNat with
  | some c => some c
  | none =>
    match compositions.find? (·.value == [a, b]) with
    | some row => some (Char.ofNat row.low)
    | none => none

/-- Composes what follows `starter`. `held` are the marks behind it that did not go into it, the
last one first; a mark is held back by another of its class or a higher one. -/
def composeAfter (starter : Char) (held : List Char) : List Char → List Char
  | [] => starter :: held.reverse
  | c :: s =>
      let free := match held with
        | [] => true
        | mark :: _ => combiningClass mark < combiningClass c
      match if free then pair? starter c else none with
      | some composed => composeAfter composed held s
      | none =>
        if combiningClass c = 0 then starter :: held.reverse ++ composeAfter c [] s
        else composeAfter starter (c :: held) s

/-- Marks at the start of a text have nothing to go into. -/
def compose (s : List Char) : List Char :=
  let leading := s.takeWhile (combiningClass · != 0)
  match s.dropWhile (combiningClass · != 0) with
  | [] => leading
  | c :: rest => leading ++ composeAfter c [] rest

def composed (s : List Char) : List Char :=
  compose (orderMarks (s.flatMap takeApart))

end Text
end TripCards
