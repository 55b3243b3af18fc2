/-
Hosts that are written as numbers.
-/
import TripCards.Text.Digit
import TripCards.Text.Parts

namespace TripCards
namespace Address

open Text (hexDigit? number?)

namespace Ipv4

/-- A part of an address: hexadecimal behind `0x`, octal behind another zero, decimal otherwise. No
digits behind `0x` spell zero. -/
def part? : List Char → Option Nat
  | [] => none
  | '0' :: 'x' :: digits | '0' :: 'X' :: digits => number? 16 digits
  | '0' :: d :: digits => number? 8 (d :: digits)
  | digits => number? 10 digits

/-- One dot may stand at the end. -/
def withoutFinalDot (labels : List (List Char)) : List (List Char) :=
  if 1 < labels.length ∧ labels.getLast? = some [] then labels.dropLast else labels

/-- A domain whose last label is a number can only be an address. -/
def isMeant (labels : List (List Char)) : Bool :=
  match (withoutFinalDot labels).getLast? with
  | some last => (!last.isEmpty && last.all Char.isDigit) || (part? last).isSome
  | none => false

/-- At most four parts. Each but the last fills one byte, and the last one all bytes that are
left. -/
def isValid (labels : List (List Char)) : Bool :=
  let parts := withoutFinalDot labels
  decide (parts.length ≤ 4) &&
    match (parts.map part?).reverse with
    | [] => false
    | last :: others =>
      last.any (· < Nat.pow 256 (5 - parts.length)) && others.all fun part => part.any (· < 256)

end Ipv4

namespace Ipv6

/-- A number from 0 to 255 without needless zeros. -/
def isByte (digits : List Char) : Bool :=
  !digits.isEmpty && digits.all Char.isDigit && (number? 10 digits).any (· < 256) &&
    (digits.length == 1 || digits.head? != some '0')

def isQuad (text : List Char) : Bool :=
  let bytes := Text.splitAt '.' text
  bytes.length == 4 && bytes.all isByte

def isPiece (digits : List Char) : Bool :=
  decide (1 ≤ digits.length ∧ digits.length ≤ 4) && digits.all fun c => (hexDigit? c).isSome

/-- How many pieces of 16 bits a text spells; nothing for what spells none. An address of four
bytes may stand for the last two pieces. -/
def pieces? (quadAllowed : Bool) (text : List Char) : Option Nat :=
  if text.isEmpty then some 0
  else
    let parts := Text.splitAt ':' text
    match parts.reverse with
    | [] => none
    | last :: others =>
      if !others.all isPiece then none
      else if isPiece last then some (others.length + 1)
      else if quadAllowed && isQuad last then some (others.length + 2)
      else none

/-- What stands before and behind the first two colons in a row. -/
def cutAtGap : List Char → Option (List Char × List Char)
  | ':' :: ':' :: s => some ([], s)
  | c :: s => (cutAtGap s).map fun (before, behind) => (c :: before, behind)
  | [] => none

/-- Eight pieces, or fewer with a gap that stands for the missing zeros. -/
def isValid (text : List Char) : Bool :=
  match cutAtGap text with
  | none => pieces? true text == some 8
  | some (before, behind) =>
    match pieces? false before, pieces? true behind with
    | some m, some n => decide (m + n ≤ 7)
    | _, _ => false

end Ipv6
end Address
end TripCards
