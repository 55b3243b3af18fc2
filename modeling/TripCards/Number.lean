/-
Numbers of a data document: whole numbers, and binary64 numbers for all others.
-/
import TripCards.Decimal.Shortest

namespace TripCards

/-- A document keeps a whole number from `-2^63` to `2^64 - 1` as it is. A number with a fraction
or an exponent, minus zero, and whole numbers beyond that range are binary64 numbers. -/
inductive Number where
  | whole (n : Int)
  | float (x : Binary64)
deriving DecidableEq, Repr

namespace Number

/-- The float nearest to a number. -/
def toFloat? : Number → Option Binary64
  | whole n => Binary64.ofRatio (decide (n < 0)) n.natAbs 1
  | float x => some x

def isZero (n : Number) : Bool :=
  n.toFloat?.any Binary64.isZero

/-- A whole number and a float are never the same, though they may have one value. -/
def same : Number → Number → Bool
  | whole m, whole n => m == n
  | float x, float y => x.same y
  | _, _ => false

def isBelow : Number → Nat → Bool
  | whole n, bound => decide (n < bound)
  | float x, bound => x.isBelow bound

def isAbove : Number → Nat → Bool
  | whole n, bound => decide ((bound : Int) < n)
  | float x, bound => x.isAbove bound

/-- A float is written without an exponent from this power of ten at its first digit. -/
def leastPlainPower : Int := -5

/-- A float is written with an exponent from this power of ten at its first digit. -/
def leastScaledPower : Int := 16

def signText (negative : Bool) : List Char :=
  if negative then ['-'] else []

/-- Digits with a point in front of the last `places` of them, and one digit at least on each
side of the point. -/
def plainText (digits : List Char) (power : Int) : List Char :=
  if 0 ≤ power then digits ++ List.replicate power.toNat '0' ++ ['.', '0']
  else
    let places := (-power).toNat
    if places < digits.length then
      digits.take (digits.length - places) ++ '.' :: digits.drop (digits.length - places)
    else '0' :: '.' :: List.replicate (places - digits.length) '0' ++ digits

/-- One digit, a point and the others where there are others, and the power of ten of the first
digit with its sign. -/
def scaledText (digits : List Char) (first : Int) : List Char :=
  digits.take 1 ++ (if digits.length ≤ 1 then [] else '.' :: digits.drop 1) ++
    'e' :: (if first < 0 then '-' else '+') :: Nat.toDigits 10 first.natAbs

/-- The fewest digits that read back. Zero keeps its sign. -/
def floatText (x : Binary64) : String :=
  String.ofList <| signText x.negative ++
    if x.isZero then ['0', '.', '0']
    else
      let (digits, power) := (Decimal.shortest x).significant
      let first := power + digits.length - 1
      if leastPlainPower ≤ first ∧ first < leastScaledPower then plainText digits power
      else scaledText digits first

/-- The number as a document writes it. -/
def text : Number → String
  | whole n => toString n
  | float x => floatText x

/-- A float at least this large is shown as a document writes it. -/
def leastShownScaled : Nat := Nat.pow 10 21

/-- The number as a card shows it: a float of a whole value shows that value, so that `60.0` and
`60` look alike. -/
def cardText : Number → String
  | whole n => toString n
  | float x =>
    match x.toInt? with
    | some n => if n.natAbs < leastShownScaled then toString n else floatText x
    | none => floatText x

end Number
end TripCards
