/-
Tables of characters, written as text.

A table is a text of rows with blanks between them. A row begins with a code point, or with the
first and the last one of a range, in hexadecimal digits and with `-` between them. The rows stand
in ascending order and do not overlap, so that a code point is found by halving the table.
-/
import TripCards.Text.Digit

namespace TripCards
namespace Text
namespace Table

structure Row (α : Type) where
  low : Nat
  high : Nat
  value : α

/-- The parts of a text between the characters that separate them; empty parts are left out. -/
def parts (separates : Char → Bool) (text : List Char) : List (List Char) :=
  let add (c : Char) (acc : List Char × List (List Char)) : List Char × List (List Char) :=
    let (part, parts) := acc
    if separates c then ([], if part.isEmpty then parts else part :: parts) else (c :: part, parts)
  let (part, parts) := text.foldr add ([], [])
  if part.isEmpty then parts else part :: parts

def words (text : String) : List (List Char) :=
  parts (fun c => c == ' ' || c == '\n') text.toList

/-- The text before the first `c`, and the text behind it. -/
def cut (c : Char) (text : List Char) : List Char × List Char :=
  (text.takeWhile (· != c), (text.dropWhile (· != c)).drop 1)

def range (text : List Char) : Nat × Nat :=
  let (low, high) := cut '-' text
  (hexadecimal low, hexadecimal (if high.isEmpty then low else high))

/-- Rows of nothing but a range. -/
def ranges (text : String) : Array (Row Unit) :=
  ((words text).map fun word => let (low, high) := range word; ⟨low, high, ()⟩).toArray

/-- Rows of a range, a colon, and the name of a class. -/
def classes {α : Type} (read : List Char → α) (text : String) : Array (Row α) :=
  ((words text).map fun word =>
    let (codes, name) := cut ':' word
    let (low, high) := range codes
    ⟨low, high, read name⟩).toArray

def characters (text : List Char) : List Char :=
  (parts (· == ',') text).map fun digits => Char.ofNat (hexadecimal digits)

/-- Rows of a range, `>`, and characters with commas between them. -/
def sequences (text : String) : Array (Row (List Char)) :=
  ((words text).map fun word =>
    let (codes, others) := cut '>' word
    let (low, high) := range codes
    ⟨low, high, characters others⟩).toArray

/-- What stands for the first character of a range, and the distance from one character of the
range to the next one that is replaced. The characters between those are not. -/
structure Shift where
  low : Nat
  stride : Nat
  others : List Char

/-- Where one character stands for the first of a range, those behind it stand for the rest. -/
def Shift.image? (shift : Shift) (n : Nat) : Option (List Char) :=
  if (n - shift.low) % shift.stride ≠ 0 then none
  else
    match shift.others with
    | [c] => some [Char.ofNat (c.toNat + (n - shift.low))]
    | others => some others

/-- Rows of a range, a slash and the distance in it where that is not one, `>`, and characters with
commas between them. -/
def shifts (text : String) : Array (Row Shift) :=
  ((words text).map fun word =>
    let (codes, others) := cut '>' word
    let (codes, stride) := cut '/' codes
    let (low, high) := range codes
    ⟨low, high, ⟨low, if stride.isEmpty then 1 else decimal stride, characters others⟩⟩).toArray

/-- The value of the row that holds `n` among the rows from `first` up to `last`. -/
def findBetween {α : Type} (rows : Array (Row α)) (n : Nat) (first last : Nat) : Option α :=
  if first < last then
    let middle := (first + last) / 2
    match rows[middle]? with
    | none => none
    | some row =>
      if n < row.low then findBetween rows n first middle
      else if row.high < n then findBetween rows n (middle + 1) last
      else some row.value
  else none
termination_by last - first

def find? {α : Type} (rows : Array (Row α)) (n : Nat) : Option α :=
  findBetween rows n 0 rows.size

end Table
end Text
end TripCards
