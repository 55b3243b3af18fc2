/-
Strings of a JSON document, from the character after the opening quote to the closing quote.
-/
import TripCards.Json.Misread
import TripCards.Text.Digit

namespace TripCards
namespace Json
namespace Quoted

/-- Where reading stands in a string. A character beyond 16 bits is written as two escapes; `high`
is the code of the first while the second is being read. -/
inductive Place where
  | plain
  | escape
  | digits (high : Option Nat) (count code : Nat)
  | secondSlash (high : Nat)
  | secondLetter (high : Nat)
deriving DecidableEq, Repr

/-- The character that a single letter after a backslash stands for. -/
def escaped? : Char → Option Char
  | '"' => some '"'
  | '\\' => some '\\'
  | '/' => some '/'
  | 'b' => some '\x08'
  | 'f' => some '\x0c'
  | 'n' => some '\n'
  | 'r' => some '\r'
  | 't' => some '\t'
  | _ => none

def isHigh (code : Nat) : Bool := 0xD800 ≤ code && code ≤ 0xDBFF

def isLow (code : Nat) : Bool := 0xDC00 ≤ code && code ≤ 0xDFFF

def pairCode (high low : Nat) : Nat :=
  (high - 0xD800) * 0x400 + (low - 0xDC00) + 0x10000

/-- What four hexadecimal digits mean: a character, or the first half of one; nothing for half a
character without its partner. -/
def meaning? (high : Option Nat) (code : Nat) : Option (Char ⊕ Nat) :=
  match high with
  | some h => if isLow code then some (.inl (Char.ofNat (pairCode h code))) else none
  | none =>
      if isLow code then none
      else if isHigh code then some (.inr code)
      else some (.inl (Char.ofNat code))

/-- How many bytes `unread` has, up to `limit`. -/
def bytesUpTo (limit : Nat) (unread : List Char) : Nat :=
  min limit (Text.byteLength (unread.take limit))

/-- Four bytes are taken for the digits of an escape before they are looked at. -/
def badDigits (count : Nat) (unread : List Char) : Stop :=
  let wanted := 4 - count
  if bytesUpTo wanted unread < wanted then ⟨.unfinishedString, [], 0⟩
  else ⟨.badEscape, unread, wanted⟩

/-- Reads on from `place`; `done` holds the characters read so far, the last one first. -/
def readFrom (place : Place) (done : List Char) :
    List Char → Except Stop (List Char × List Char)
  | [] => .error ⟨.unfinishedString, [], 0⟩
  | c :: text =>
    match place with
    | .plain =>
        if c = '"' then .ok (done.reverse, text)
        else if c = '\\' then readFrom .escape done text
        else if c.toNat < 0x20 then .error ⟨.controlCharacter, c :: text, 1⟩
        else readFrom .plain (c :: done) text
    | .escape =>
        match escaped? c with
        | some e => readFrom .plain (e :: done) text
        | none =>
          if c = 'u' then readFrom (.digits none 0 0) done text
          else .error ⟨.badEscape, c :: text, 1⟩
    | .digits high count code =>
        match Text.hexDigit? c with
        | none => .error (badDigits count (c :: text))
        | some digit =>
          let code := code * 16 + digit
          if count < 3 then readFrom (.digits high (count + 1) code) done text
          else
            match meaning? high code with
            | none => .error ⟨.loneSurrogate, text, 0⟩
            | some (.inl e) => readFrom .plain (e :: done) text
            | some (.inr first) => readFrom (.secondSlash first) done text
    | .secondSlash high =>
        if c = '\\' then readFrom (.secondLetter high) done text
        else .error ⟨.missingSurrogate, c :: text, 1⟩
    | .secondLetter high =>
        if c = 'u' then readFrom (.digits (some high) 0 0) done text
        else .error ⟨.missingSurrogate, c :: text, 1⟩

/-- The string and the text after its closing quote. -/
def read (text : List Char) : Except Stop (List Char × List Char) :=
  readFrom .plain [] text

theorem length_readFrom {place : Place} {done text value rest : List Char}
    (h : readFrom place done text = .ok (value, rest)) : rest.length < text.length := by
  fun_induction readFrom place done text <;> grind

theorem length_read {text value rest : List Char} (h : read text = .ok (value, rest)) :
    rest.length < text.length :=
  length_readFrom h

end Quoted
end Json
end TripCards
