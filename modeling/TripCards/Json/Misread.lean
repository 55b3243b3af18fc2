/-
What is wrong with a text that is no JSON document, and where.
-/
import TripCards.Text.Bytes

namespace TripCards
namespace Json

inductive Fault where
  | unfinishedList
  | unfinishedObject
  | unfinishedString
  | unfinishedValue
  | missingColon
  | missingListEnd
  | missingObjectEnd
  | unknownWord
  | missingValue
  | badEscape
  | badNumber
  | numberOutOfRange
  | controlCharacter
  | keyIsNoString
  | loneSurrogate
  | trailingComma
  | trailingCharacters
  | missingSurrogate
  | tooDeep
deriving DecidableEq, Repr

def Fault.message : Fault → String
  | unfinishedList => "EOF while parsing a list"
  | unfinishedObject => "EOF while parsing an object"
  | unfinishedString => "EOF while parsing a string"
  | unfinishedValue => "EOF while parsing a value"
  | missingColon => "expected `:`"
  | missingListEnd => "expected `,` or `]`"
  | missingObjectEnd => "expected `,` or `\x7d`"
  | unknownWord => "expected ident"
  | missingValue => "expected value"
  | badEscape => "invalid escape"
  | badNumber => "invalid number"
  | numberOutOfRange => "number out of range"
  | controlCharacter => "control character (\\u0000-\\u001F) found while parsing a string"
  | keyIsNoString => "key must be a string"
  | loneSurrogate => "lone leading surrogate in hex escape"
  | trailingComma => "trailing comma"
  | trailingCharacters => "trailing characters"
  | missingSurrogate => "unexpected end of hex escape"
  | tooDeep => "recursion limit exceeded"

/-- Where reading stopped: the text not read yet, and how many bytes of it the fault covers. -/
structure Stop where
  fault : Fault
  unread : List Char
  covered : Nat
deriving DecidableEq, Repr

/-- A fault with the line and the byte of the line up to which the text was read. Lines count from
one, and so do bytes; byte zero is the place before a line. -/
structure Misread where
  fault : Fault
  line : Nat
  byte : Nat
deriving DecidableEq, Repr

namespace Misread

def message (m : Misread) : String :=
  m.fault.message ++ " at line " ++ toString m.line ++ " column " ++ toString m.byte

/-- The line and the byte of the line at the end of the first `count` bytes of a text. -/
def endOfBytes (line byte : Nat) : Nat → List Char → Nat × Nat
  | 0, _ => (line, byte)
  | _, [] => (line, byte)
  | count + 1, c :: s =>
      if c = '\n' then endOfBytes (line + 1) 0 count s
      else endOfBytes line (byte + min c.utf8Size (count + 1)) (count + 1 - c.utf8Size) s

def ofStop (source : List Char) (stop : Stop) : Misread :=
  let before := Text.byteLength source - Text.byteLength stop.unread
  let (line, byte) := endOfBytes 1 0 (before + stop.covered) source
  ⟨stop.fault, line, byte⟩

end Misread
end Json
end TripCards
