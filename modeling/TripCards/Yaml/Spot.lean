/-
The characters of a YAML text with their places.
-/
import TripCards.Yaml.Fault

namespace TripCards
namespace Yaml

/-- A place in a text and the character there. None stands at the end. -/
structure Spot where
  char : Option Char
  index : Nat
  line : Nat
  column : Nat
deriving DecidableEq, Repr

def byteOrderMark : Char := '\ufeff'

/-- What may be written in a text as it is. -/
def isWritable (c : Char) : Bool :=
  c == '\t' || c == '\n' || c == '\r' || c == '\u0085'
    || (' ' ≤ c && c ≤ '~')
    || (0xa0 ≤ c.toNat && c.toNat ≤ 0xfffd)
    || 0x10000 ≤ c.toNat

def isLineBreak (c : Char) : Bool :=
  c == '\n' || c == '\u2028' || c == '\u2029'

def isWordChar (c : Char) : Bool :=
  c.isAlphanum || c == '_' || c == '-'

namespace Spot

def is (s : Spot) (c : Char) : Bool :=
  s.char == some c

def isEnd (s : Spot) : Bool :=
  s.char.isNone

def isBreak (s : Spot) : Bool :=
  s.char.any isLineBreak

def isBlank (s : Spot) : Bool :=
  s.is ' ' || s.is '\t'

/-- Nothing but blank space stands here, or nothing at all. -/
def isGap (s : Spot) : Bool :=
  s.isBlank || s.isBreak || s.isEnd

def isLineEnd (s : Spot) : Bool :=
  s.isBreak || s.isEnd

/-- The places of a text from a given one on. The four spellings of a new line become one. -/
def listFrom (index line column : Nat) : List Char → List Spot
  | [] => [⟨none, index, line, column⟩]
  | '\r' :: '\n' :: rest =>
    ⟨some '\n', index, line, column⟩ :: listFrom (index + 2) (line + 1) 0 rest
  | c :: rest =>
    if c == '\r' || c == '\u0085' then
      ⟨some '\n', index, line, column⟩ :: listFrom (index + 1) (line + 1) 0 rest
    else if isLineBreak c then
      ⟨some c, index, line, column⟩ :: listFrom (index + 1) (line + 1) 0 rest
    else ⟨some c, index, line, column⟩ :: listFrom (index + 1) line (column + 1) rest

/-- The places of a text, the end as the last one. -/
def listOf (text : List Char) : Except Fault (List Spot) :=
  match text.find? (!isWritable ·) with
  | some c => .error (.unwritable c)
  | none => .ok (listFrom 0 0 0 text)

end Spot

/-- The character so many places on. -/
def charAt (spots : List Spot) (n : Nat) : Option Char :=
  spots[n]?.bind Spot.char

def isGapAt (spots : List Spot) (n : Nat) : Bool :=
  spots[n]?.all Spot.isGap

/-- A line that begins here with one of the marks between documents. -/
def isDocumentMark (mark : Char) (spots : List Spot) : Bool :=
  spots.head?.any (·.column == 0)
    && charAt spots 0 == some mark && charAt spots 1 == some mark && charAt spots 2 == some mark
    && isGapAt spots 3

def startsDocument (spots : List Spot) : Bool := isDocumentMark '-' spots

def endsDocument (spots : List Spot) : Bool := isDocumentMark '.' spots

/-- The characters up to the first that is not of a kind, and the places from there on. -/
def spanChars (isOfKind : Char → Bool) : List Spot → List Char × List Spot
  | [] => ([], [])
  | s :: rest =>
    match s.char with
    | none => ([], s :: rest)
    | some c =>
      if isOfKind c then
        let (taken, rest) := spanChars isOfKind rest
        (c :: taken, rest)
      else ([], s :: rest)

def skipBlanks (spots : List Spot) : List Spot :=
  spots.dropWhile Spot.isBlank

/-- Leaves the rest of a line behind, which may hold a comment and nothing else. -/
def skipLine (spots : List Spot) (fault : Fault) : Except Fault (List Spot) :=
  let spots := skipBlanks spots
  let spots := if charAt spots 0 == some '#' then spots.dropWhile (!·.isLineEnd) else spots
  match spots with
  | [] => .ok []
  | s :: rest =>
    if s.isBreak then .ok rest else if s.isEnd then .ok (s :: rest) else .error fault

end Yaml
end TripCards
