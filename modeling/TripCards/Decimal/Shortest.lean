/-
The decimal with the fewest digits that reads back as a given binary64 number.

The decimals that read back fill an interval around the number: it ends half way to each
neighbour, and holds its ends where the mantissa is even. For one digit, two digits and so on the
two decimals next to the number are tried; the first count with a decimal in the interval wins,
and of two such decimals the nearer one. From a tie the even last digit is taken.
-/
import TripCards.Decimal.Binary64

namespace TripCards

/-- The value `digits · 10^exponent`. -/
structure Decimal where
  digits : Nat
  exponent : Int
deriving DecidableEq, Repr

namespace Decimal

/-- The power of ten at the first digit of `num / den`, both positive. -/
def leadingPower (num den : Nat) : Int :=
  if den ≤ num then ((Nat.toDigits 10 (num / den)).length : Int) - 1
  else 0 - ((Nat.toDigits 10 ((den + num - 1) / num - 1)).length : Int)

/-- The reals that round to a number, in units of a quarter of its last place. -/
structure Interval where
  low : Nat
  middle : Nat
  high : Nat
  closed : Bool
deriving DecidableEq, Repr

/-- Below a power of two the neighbour is half as far. -/
def intervalOf (x : Binary64) : Interval where
  low :=
    if x.mantissa = fullMantissa ∧ -1074 < x.exponent then 4 * x.mantissa - 1
    else 4 * x.mantissa - 2
  middle := 4 * x.mantissa
  high := 4 * x.mantissa + 2
  closed := x.mantissa % 2 == 0

/-- Whether `point · cell`, with `point` a count of grid steps, lies in the interval. The numbers
of the interval are multiplied by `scale` to be comparable. -/
def Interval.holds (i : Interval) (scale cell point : Nat) : Bool :=
  let v := point * cell
  if i.closed then decide (i.low * scale ≤ v) && decide (v ≤ i.high * scale)
  else decide (i.low * scale < v) && decide (v < i.high * scale)

/-- The decimal at the place `10^power` that reads back, the nearest if there are two. -/
def atPower? (x : Binary64) (power : Int) : Option Decimal :=
  let i := intervalOf x
  let (unit, den) := Binary64.timesPowerOfTwo 1 1 (x.exponent - 2)
  let (scale, cell) :=
    if 0 ≤ power then (unit, den * Nat.pow 10 power.toNat)
    else (unit * Nat.pow 10 (-power).toNat, den)
  let below := i.middle * scale / cell
  let above := below + 1
  let toBelow := i.middle * scale - below * cell
  let toAbove := above * cell - i.middle * scale
  match i.holds scale cell below, i.holds scale cell above with
  | true, true =>
      if toBelow < toAbove ∨ (toBelow = toAbove ∧ below % 2 = 0) then some ⟨below, power⟩
      else some ⟨above, power⟩
  | true, false => some ⟨below, power⟩
  | false, true => some ⟨above, power⟩
  | false, false => none

/-- Seventeen digits always suffice. -/
def shortest (x : Binary64) : Decimal :=
  if x.isZero then ⟨0, 0⟩
  else
    let (num, den) := x.magnitude
    let first := leadingPower num den
    let found := (List.range 17).findSome? fun (count : Nat) => atPower? x (first - count)
    found.getD ⟨x.mantissa, x.exponent⟩

/-- The digits without the zeros at their end, and the power of ten at the last of them. -/
def significant (d : Decimal) : List Char × Int :=
  let digits := Nat.toDigits 10 d.digits
  let kept := (digits.reverse.dropWhile (· == '0')).reverse
  (kept, d.exponent + (digits.length - kept.length : Nat))

end Decimal
end TripCards
