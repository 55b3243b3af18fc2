/-
Reading JSON documents.

The reader goes through the text once and stops at the first character that cannot continue a
document. What it reports is the fault together with the place it had reached.
-/
import TripCards.Json.Basic
import TripCards.Json.Numeral
import TripCards.Json.Quoted

namespace TripCards
namespace Json

def isBlank (c : Char) : Bool :=
  c == ' ' || c == '\n' || c == '\t' || c == '\r'

def skipBlanks (text : List Char) : List Char :=
  text.dropWhile isBlank

theorem length_skipBlanks (text : List Char) : (skipBlanks text).length ≤ text.length :=
  List.Sublist.length_le (List.dropWhile_sublist isBlank)

/-- How many lists and objects may be open at once. -/
def maxOpen : Nat := 127

/-- Reads the letters of a word after its first one. -/
def readWord : List Char → List Char → Except Stop (List Char)
  | [], text => .ok text
  | _ :: _, [] => .error ⟨.unfinishedValue, [], 0⟩
  | w :: word, c :: text =>
    if c = w then readWord word text else .error ⟨.unknownWord, c :: text, 1⟩

theorem length_readWord {word text rest : List Char} (h : readWord word text = .ok rest) :
    rest.length ≤ text.length := by
  fun_induction readWord word text <;> grind

/-- What is left of a text after some of it was read. -/
abbrev Shorter (text : List Char) : Type :=
  { rest : List Char // rest.length < text.length }

abbrev Read (text : List Char) (α : Type) : Type :=
  Except Stop (α × Shorter text)

/-- A text of which `text` is the end leaves the same rest. -/
def Read.within {text longer : List Char} {α β : Type} (h : text.length ≤ longer.length)
    (f : α → β) : Read text α → Read longer β
  | .error stop => .error stop
  | .ok (a, rest) => .ok (f a, ⟨rest.val, Nat.lt_of_lt_of_le rest.property h⟩)

/-- The colon between a key and its value. -/
def readColon (text : List Char) : Read text Unit :=
  match h : skipBlanks text with
  | [] => .error ⟨.unfinishedObject, [], 0⟩
  | c :: rest =>
    if c = ':' then .ok ((), ⟨rest, by have := length_skipBlanks text; rw [h] at this; exact this⟩)
    else .error ⟨.missingColon, c :: rest, 1⟩

mutual

/-- A value. `room` counts the lists and objects that may still be opened. -/
def readValue (room : Nat) (text : List Char) : Read text Json :=
  match h : skipBlanks text with
  | [] => .error ⟨.unfinishedValue, [], 0⟩
  | c :: rest =>
    have shorter : rest.length < text.length := by
      have := length_skipBlanks text
      rw [h] at this
      exact this
    let word (letters : String) (value : Json) : Read text Json :=
      match hw : readWord letters.toList rest with
      | .error stop => .error stop
      | .ok left => .ok (value, ⟨left, Nat.lt_of_le_of_lt (length_readWord hw) shorter⟩)
    if c = 'n' then word "ull" .null
    else if c = 't' then word "rue" (.boolean true)
    else if c = 'f' then word "alse" (.boolean false)
    else if c = '-' then
      match hn : Numeral.read true rest with
      | .error stop => .error stop
      | .ok (n, left) => .ok (.number n, ⟨left, Nat.lt_trans (Numeral.length_read hn) shorter⟩)
    else if Numeral.isDigit c then
      match hn : Numeral.read false (c :: rest) with
      | .error stop => .error stop
      | .ok (n, left) =>
        .ok (.number n, ⟨left, Nat.lt_of_lt_of_le (Numeral.length_read hn) shorter⟩)
    else if c = '"' then
      match hs : Quoted.read rest with
      | .error stop => .error stop
      | .ok (s, left) =>
        .ok (.string (String.ofList s), ⟨left, Nat.lt_trans (Quoted.length_read hs) shorter⟩)
    else if c = '[' then
      match room with
      | 0 => .error ⟨.tooDeep, c :: rest, 1⟩
      | room + 1 =>
        match hr : skipBlanks rest with
        | [] => .error ⟨.unfinishedList, [], 0⟩
        | d :: left =>
          if d = ']' then
            .ok (.array [], ⟨left, by
              have := length_skipBlanks rest
              rw [hr] at this
              exact Nat.lt_trans this shorter⟩)
          else (readItems room rest).within (Nat.le_of_lt shorter) .array
    else if c = '\x7b' then
      match room with
      | 0 => .error ⟨.tooDeep, c :: rest, 1⟩
      | room + 1 =>
        match hr : skipBlanks rest with
        | [] => .error ⟨.unfinishedObject, [], 0⟩
        | d :: left =>
          have left_shorter : left.length < text.length := by
            have := length_skipBlanks rest
            rw [hr] at this
            exact Nat.lt_trans this shorter
          if d = '\x7d' then .ok (.object [], ⟨left, left_shorter⟩)
          else if d = '"' then
            (readMembers room left).within (Nat.le_of_lt left_shorter)
              fun members => .object (Entries.putAll [] members)
          else .error ⟨.keyIsNoString, d :: left, 1⟩
    else .error ⟨.missingValue, c :: rest, 1⟩
termination_by (text.length, 0)

/-- The items of a list up to its end. One item at least is there. -/
def readItems (room : Nat) (text : List Char) : Read text (List Json) :=
  match readValue room text with
  | .error stop => .error stop
  | .ok (item, ⟨rest, shorter⟩) =>
    match h : skipBlanks rest with
    | [] => .error ⟨.unfinishedList, [], 0⟩
    | c :: left =>
      have left_shorter : left.length < text.length := by
        have := length_skipBlanks rest
        rw [h] at this
        exact Nat.lt_trans this shorter
      if c = ']' then .ok ([item], ⟨left, left_shorter⟩)
      else if c = ',' then
        match skipBlanks left with
        | [] => .error ⟨.unfinishedValue, [], 0⟩
        | d :: more =>
          if d = ']' then .error ⟨.trailingComma, d :: more, 1⟩
          else (readItems room left).within (Nat.le_of_lt left_shorter) (item :: ·)
      else .error ⟨.missingListEnd, c :: left, 1⟩
termination_by (text.length, 1)

/-- The members of an object up to its end. The opening quote of the first key has been read. -/
def readMembers (room : Nat) (text : List Char) : Read text (List (String × Json)) :=
  match hk : Quoted.read text with
  | .error stop => .error stop
  | .ok (key, afterKey) =>
    match readColon afterKey with
    | .error stop => .error stop
    | .ok ((), ⟨afterColon, colon_shorter⟩) =>
      have key_shorter := Quoted.length_read hk
      match readValue room afterColon with
      | .error stop => .error stop
      | .ok (value, ⟨rest, shorter⟩) =>
        let member := (String.ofList key, value)
        match h : skipBlanks rest with
        | [] => .error ⟨.unfinishedObject, [], 0⟩
        | c :: left =>
          have left_shorter : left.length < text.length := by
            have := length_skipBlanks rest
            rw [h] at this
            exact Nat.lt_trans (Nat.lt_trans this shorter) (Nat.lt_trans colon_shorter key_shorter)
          if c = '\x7d' then .ok ([member], ⟨left, left_shorter⟩)
          else if c = ',' then
            match hl : skipBlanks left with
            | [] => .error ⟨.unfinishedValue, [], 0⟩
            | d :: more =>
              have more_shorter : more.length < text.length := by
                have := length_skipBlanks left
                rw [hl] at this
                exact Nat.lt_trans this left_shorter
              if d = '"' then
                (readMembers room more).within (Nat.le_of_lt more_shorter) (member :: ·)
              else if d = '\x7d' then .error ⟨.trailingComma, d :: more, 1⟩
              else .error ⟨.keyIsNoString, d :: more, 1⟩
          else .error ⟨.missingObjectEnd, c :: left, 1⟩
termination_by (text.length, 1)

end

/-- The document that a text holds. Nothing but blanks may follow it. -/
def ofChars (text : List Char) : Except Stop Json :=
  match readValue maxOpen text with
  | .error stop => .error stop
  | .ok (value, ⟨rest, _⟩) =>
    match skipBlanks rest with
    | [] => .ok value
    | left => .error ⟨.trailingCharacters, left, 1⟩

def ofString (text : String) : Except Misread Json :=
  (ofChars text.toList).mapError (Misread.ofStop text.toList)

end Json
end TripCards
