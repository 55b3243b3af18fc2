/-
The small marks of a YAML text: anchors, tags and directives.
-/
import TripCards.Yaml.Scalar
import TripCards.Yaml.Token

namespace TripCards
namespace Yaml

/-- What may follow the name of an anchor directly. -/
def endsAnchor (s : Spot) : Bool :=
  s.isGap || s.is '?' || s.is ':' || s.is ',' || s.is ']' || s.is '\x7d' || s.is '%'
    || s.is '@' || s.is '\x60'

/-- The name of an anchor or an alias, from behind its sign. -/
def readAnchor (spots : List Spot) : Except Fault (String × List Spot) :=
  let (name, rest) := spanChars isWordChar spots
  if name.isEmpty || !rest.head?.all endsAnchor then .error .badAnchor
  else .ok (String.ofList name, rest)

/-! ## Tags -/

def isAddressChar (inAngles : Bool) (c : Char) : Bool :=
  isWordChar c || ";/?:@&=+$.!~*'()".toList.contains c
    || (inAngles && (c == ',' || c == '[' || c == ']'))

/-- How many bytes a character has that begins with this one, and the bits that this one gives. -/
def leadingByte? (byte : Nat) : Option (Nat × Nat) :=
  if byte < 0x80 then some (1, byte)
  else if byte < 0xc0 then none
  else if byte < 0xe0 then some (2, byte % 0x20)
  else if byte < 0xf0 then some (3, byte % 0x10)
  else if byte < 0xf8 then some (4, byte % 0x08)
  else none

/-- The bytes of a character that are still to come, and the bits of those before. -/
structure PartialChar where
  left : Nat
  bits : Nat

/-- One more byte of a character that is spelled byte by byte. -/
def addByte (partly : Option PartialChar) (byte : Nat) : Option PartialChar :=
  match partly with
  | none => (leadingByte? byte).map fun (size, bits) => ⟨size - 1, bits⟩
  | some ⟨left, bits⟩ =>
    if 0x80 ≤ byte && byte < 0xc0 then some ⟨left - 1, bits * 0x40 + byte % 0x40⟩ else none

/-- The characters of a tag, where a percent sign and two digits stand for a byte. -/
def readTagText (inAngles : Bool) (partly : Option PartialChar) :
    List Spot → Except Fault (List Char × List Spot)
  | s :: high :: low :: rest =>
    if s.is '%' then
      match high.char.bind Text.hexDigit?, low.char.bind Text.hexDigit? with
      | some a, some b =>
        match addByte partly (a * 16 + b) with
        | none => .error .badTag
        | some ⟨0, bits⟩ =>
          match readTagText inAngles none rest with
          | .error e => .error e
          | .ok (text, rest) => .ok (Char.ofNat bits :: text, rest)
        | some more => readTagText inAngles (some more) rest
      | _, _ => .error .badTag
    else if partly.isSome then .error .badTag
    else
      match s.char with
      | some c =>
        if isAddressChar inAngles c then
          match readTagText inAngles none (high :: low :: rest) with
          | .error e => .error e
          | .ok (text, rest) => .ok (c :: text, rest)
        else .ok ([], s :: high :: low :: rest)
      | none => .ok ([], s :: high :: low :: rest)
  | s :: rest =>
    if s.is '%' || partly.isSome then .error .badTag
    else
      match s.char with
      | some c =>
        if isAddressChar inAngles c then
          match readTagText inAngles none rest with
          | .error e => .error e
          | .ok (text, rest) => .ok (c :: text, rest)
        else .ok ([], s :: rest)
      | none => .ok ([], s :: rest)
  | [] => .ok ([], [])

/-- A tag text that is not empty. -/
def readSomeTagText (inAngles : Bool) (spots : List Spot) :
    Except Fault (List Char × List Spot) :=
  match readTagText inAngles none spots with
  | .error e => .error e
  | .ok ([], _) => .error .badTag
  | .ok result => .ok result

/-- A handle, which begins with an exclamation mark and, but for the shortest, ends with another. -/
def readHandle (spots : List Spot) : List Char × Bool × List Spot :=
  let (name, rest) := spanChars isWordChar spots.tail
  if charAt rest 0 == some '!' then ('!' :: name ++ ['!'], true, rest.tail)
  else ('!' :: name, false, rest)

/-- The handle and the suffix of a tag, from its exclamation mark on. -/
def readTagParts (spots : List Spot) : Except Fault (List Char × List Char × List Spot) :=
  if charAt spots 1 == some '<' then
    match readSomeTagText true (spots.drop 2) with
    | .error e => .error e
    | .ok (suffix, rest) =>
      if charAt rest 0 == some '>' then .ok ([], suffix, rest.tail) else .error .badTag
  else
    let (handle, isClosed, rest) := readHandle spots
    if isClosed then
      match readSomeTagText false rest with
      | .error e => .error e
      | .ok (suffix, rest) => .ok (handle, suffix, rest)
    else
      match readTagText false none rest with
      | .error e => .error e
      | .ok (suffix, rest) =>
        let suffix := handle.tail ++ suffix
        .ok (if suffix.isEmpty then ([], ['!'], rest) else (['!'], suffix, rest))

/-- A tag, which ends at blank space or, in brackets, at a comma. -/
def readTag (inBrackets : Bool) (spots : List Spot) : Except Fault (Token × List Spot) :=
  match readTagParts spots with
  | .error e => .error e
  | .ok (handle, suffix, rest) =>
    if isGapAt rest 0 || (inBrackets && charAt rest 0 == some ',') then
      .ok (.tag (String.ofList handle) (String.ofList suffix), rest)
    else .error .badTag

/-! ## Directives -/

/-- A number of at most nine digits. -/
def readVersionPart (spots : List Spot) : Except Fault (Nat × List Spot) :=
  let (digits, rest) := spanChars Char.isDigit spots
  if digits.isEmpty || 9 < digits.length then .error .badDirective
  else .ok (Text.decimal digits, rest)

def readVersion (spots : List Spot) : Except Fault (Token × List Spot) := do
  let (major, rest) ← readVersionPart (skipBlanks spots)
  if charAt rest 0 != some '.' then throw .badDirective
  let (minor, rest) ← readVersionPart rest.tail
  return (.version major minor, rest)

def readHandleMeaning (spots : List Spot) : Except Fault (Token × List Spot) := do
  let spots := skipBlanks spots
  if charAt spots 0 != some '!' then throw .badDirective
  let (handle, isClosed, rest) := readHandle spots
  if !isClosed && handle.length != 1 then throw .badDirective
  if !rest.head?.any Spot.isBlank then throw .badDirective
  let (meaning, rest) ← readSomeTagText true (skipBlanks rest)
  if !isGapAt rest 0 then throw .badDirective
  return (.handle (String.ofList handle) (String.ofList meaning), rest)

/-- A directive, from behind its percent sign, with the rest of its line. -/
def readDirective (spots : List Spot) : Except Fault (Token × List Spot) := do
  let (name, rest) := spanChars isWordChar spots
  if !isGapAt rest 0 then throw .badDirective
  let (token, rest) ←
    if name == ['Y', 'A', 'M', 'L'] then readVersion rest
    else if name == ['T', 'A', 'G'] then readHandleMeaning rest
    else throw .badDirective
  let rest ← skipLine rest .badDirective
  return (token, rest)

end Yaml
end TripCards
