/-
Domain names.

A name is first written in its one form: characters are replaced by those that they stand for, the
text is composed, and labels that spell other characters in ASCII are decoded. Then every label is
checked by itself, and where one of them is written from right to left, the directions of all.
-/
import TripCards.Address.Folding
import TripCards.Address.Numeric
import TripCards.Address.Punycode
import TripCards.Text.Composed
import TripCards.Text.Direction
import TripCards.Text.Joining
import TripCards.Text.Mark

namespace TripCards
namespace Address
namespace Domain

/-- The ASCII characters that no domain name has. -/
def isForbidden (c : Char) : Bool :=
  c.toNat ≤ 0x20 || c.toNat == 0x7F ||
    ['%', '#', '/', ':', '<', '>', '?', '@', '[', '\\', ']', '^', '|'].contains c

def isAscii (c : Char) : Bool :=
  c.toNat < 0x80

/-- The text with each character replaced by those that it stands for. -/
def fold? : List Char → Option (List Char)
  | [] => some []
  | c :: s =>
    match Folding.ofChar c with
    | .refused => none
    | .kept => (fold? s).map (c :: ·)
    | .replaced others => (fold? s).map (others ++ ·)

def canonical? (name : List Char) : Option (List Char) :=
  match fold? name with
  | none => none
  | some folded =>
    let text := Text.composed folded
    if text.any isForbidden then none else some text

def isKept (c : Char) : Bool :=
  match Folding.ofChar c with
  | .kept => true
  | _ => false

/-- Whether the canonical form of a label is the label itself. -/
def isStable (label : List Char) : Bool :=
  label.all isKept && Text.composed label == label

/-- A decoded label longer than this is refused. -/
def maxDecoded : Nat := 1000

/-- A label to decode is no longer than this. -/
def maxEncoded : Nat := 2000

/-- A label that begins with `xn--` has to spell a label in canonical form. -/
def decoded? (label : List Char) : Option (List Char) :=
  match label with
  | 'x' :: 'n' :: '-' :: '-' :: spelling =>
    if spelling.isEmpty || spelling.getLast? == some '-' || !spelling.all isAscii ||
        maxEncoded < spelling.length then none
    else
      match Punycode.decode spelling with
      | none => none
      | some label => if isStable label then some label else none
  | _ => some label

/-- Whether the next letter in a row joins to this side, transparent ones passed over. -/
def joins (sides : List Text.Joining) (s : List Char) : Bool :=
  match s.map Text.joining |>.dropWhile (· == .transparent) with
  | [] => false
  | first :: _ => sides.contains first

/-- A joiner stands behind a virama, and a non-joiner there or where letters would join. `before`
is what has been passed, the last character first. -/
def joinersFit (before : List Char) : List Char → Bool
  | [] => true
  | c :: s =>
    let behindVirama := (before.head?.map Text.isVirama).getD false
    let fits :=
      if c.toNat == 0x200D then behindVirama
      else if c.toNat == 0x200C then
        behindVirama || (joins [.left, .dual] before && joins [.right, .dual] s)
      else true
    fits && joinersFit (c :: before) s

/-- Whether a label may stand in a domain name for itself. -/
def isLabel (label : List Char) : Bool :=
  !(label.head?.any Text.isMark) && joinersFit [] label &&
    (label.all isAscii || decide (label.length ≤ maxDecoded))

def isRightward (d : Text.Direction) : Bool :=
  d == .rightToLeft || d == .arabicLetter || d == .arabicNumber

def isShared (d : Text.Direction) : Bool :=
  d == .europeanNumber || d == .europeanSeparator || d == .europeanTerminator ||
    d == .commonSeparator || d == .mark || d == .boundary || d == .neutral

/-- Whether the characters of a label keep to one direction. The last one that is not a mark is a
letter or a number of that direction, and digits of both kinds do not mix. -/
def keepsDirection (label : List Char) : Bool :=
  let directions := label.map Text.Direction.ofChar
  match directions with
  | [] => true
  | first :: _ =>
    let last := (directions.reverse.dropWhile (· == .mark)).head?.getD first
    if first == .leftToRight then
      directions.all (fun d => d == .leftToRight || isShared d) &&
        (last == .leftToRight || last == .europeanNumber)
    else if first == .rightToLeft || first == .arabicLetter then
      directions.all (fun d => isRightward d || isShared d) &&
        (isRightward last || last == .europeanNumber) &&
        !(directions.contains .europeanNumber && directions.contains .arabicNumber)
    else false

/-- The labels of a domain name in canonical form; nothing for what is no domain name. -/
def labels? (name : List Char) : Option (List (List Char)) :=
  match canonical? name with
  | none => none
  | some text =>
    match (Text.splitAt '.' text).mapM decoded? with
    | none => none
    | some labels =>
      let directed := labels.any fun label => label.any (isRightward ∘ Text.Direction.ofChar)
      if labels.all isLabel && (!directed || labels.all keepsDirection) then some labels else none

end Domain

/-- The byte that a percent sign and two hexadecimal digits stand for. -/
def percentByte? (s : List Char) : Option UInt8 :=
  match s with
  | '%' :: a :: b :: _ =>
    match Text.hexDigit? a, Text.hexDigit? b with
    | some high, some low => some (UInt8.ofNat (high * 16 + low))
    | _, _ => none
  | _ => none

/-- The bytes of a text, with those that are written with a percent sign in their places. `skip`
characters belong to such a byte already. -/
def percentDecoded (skip : Nat) : List Char → List UInt8
  | [] => []
  | c :: s =>
    match skip with
    | skip + 1 => percentDecoded skip s
    | 0 =>
      match percentByte? (c :: s) with
      | some byte => byte :: percentDecoded 2 s
      | none => String.utf8EncodeChar c ++ percentDecoded 0 s

/-- Whether a text names a host: an address in brackets, or a domain name, which must be an address
where its last label is a number. Bytes that are written with percent signs have to be text. -/
def isHost (text : List Char) : Bool :=
  match text with
  | '[' :: s => s.getLast? == some ']' && Ipv6.isValid s.dropLast
  | _ =>
    match String.fromUTF8? (percentDecoded 0 text).toByteArray with
    | none => false
    | some name =>
      match Domain.labels? name.toList with
      | none => false
      | some labels =>
        if labels.all List.isEmpty && labels.length ≤ 1 then false
        else !Ipv4.isMeant labels || Ipv4.isValid labels

end Address
end TripCards
