/-
Finite numbers of the binary64 format, as exact values `±mantissa · 2^exponent`.

Every number has one such form apart from zero, which has one for each sign. All rounding goes
through `ofRatio`, to the nearest number and from a midpoint to the even mantissa.
-/

namespace TripCards

/-- The least mantissa that uses all 53 bits, `2^52`. -/
def fullMantissa : Nat := 0x10000000000000

/-- Either 53 bits are in use, or the exponent is as small as the format has it. -/
def IsCanonical (mantissa : Nat) (exponent : Int) : Prop :=
  mantissa < 2 * fullMantissa ∧ -1074 ≤ exponent ∧ exponent ≤ 971 ∧
    (mantissa < fullMantissa → exponent = -1074)

instance (mantissa : Nat) (exponent : Int) : Decidable (IsCanonical mantissa exponent) :=
  inferInstanceAs (Decidable (_ ∧ _ ∧ _ ∧ _))

structure Binary64 where
  negative : Bool
  mantissa : Nat
  exponent : Int
  canonical : IsCanonical mantissa exponent
deriving DecidableEq, Repr

/-- The quotient rounded to the nearest whole number, a half to the even one. -/
def roundHalfEven (num den : Nat) : Nat :=
  let quotient := num / den
  let twice := 2 * (num % den)
  if den < twice ∨ (twice = den ∧ quotient % 2 = 1) then quotient + 1 else quotient

namespace Binary64

def zero (negative : Bool) : Binary64 :=
  ⟨negative, 0, -1074, by decide⟩

instance : Inhabited Binary64 := ⟨zero false⟩

def isZero (x : Binary64) : Bool :=
  x.mantissa == 0

/-- Nothing is made of a mantissa and an exponent beyond the largest number. -/
def ofParts? (negative : Bool) (mantissa : Nat) (exponent : Int) : Option Binary64 :=
  if h : IsCanonical mantissa exponent then some ⟨negative, mantissa, exponent, h⟩ else none

/-- `value · 2^exponent` as a quotient. -/
def timesPowerOfTwo (num den : Nat) (exponent : Int) : Nat × Nat :=
  if 0 ≤ exponent then (num <<< exponent.toNat, den) else (num, den <<< (-exponent).toNat)

/-- The exponent that leaves 53 bits before the point of `num / den`, or the least exponent. -/
def exponentOf (num den : Nat) : Int :=
  let bits : Int := (Nat.log2 num : Int) - Nat.log2 den
  let (n, d) := timesPowerOfTwo num den (-bits)
  max (if n < d then bits - 53 else bits - 52) (-1074)

/-- The number nearest to `±num / den`, where that is not beyond the largest number. -/
def ofRatio (negative : Bool) (num den : Nat) : Option Binary64 :=
  if num = 0 then some (zero negative)
  else
    let exponent := exponentOf num den
    let (n, d) := timesPowerOfTwo num den (-exponent)
    let mantissa := roundHalfEven n d
    if mantissa = 2 * fullMantissa then ofParts? negative fullMantissa (exponent + 1)
    else ofParts? negative mantissa exponent

/-- The magnitude as a quotient. -/
def magnitude (x : Binary64) : Nat × Nat :=
  timesPowerOfTwo x.mantissa 1 x.exponent

def neg (x : Binary64) : Binary64 :=
  { x with negative := !x.negative }

/-- The rounded product of two magnitudes, with the sign of the first. -/
def mul (x y : Binary64) : Option Binary64 :=
  let (n, d) := x.magnitude
  let (n', d') := y.magnitude
  ofRatio x.negative (n * n') (d * d')

/-- The rounded quotient of two magnitudes, with the sign of the first. -/
def div (x y : Binary64) : Option Binary64 :=
  let (n, d) := x.magnitude
  let (n', d') := y.magnitude
  ofRatio x.negative (n * d') (d * n')

/-- The whole number of this value, where the value is one. -/
def toInt? (x : Binary64) : Option Int :=
  let (n, d) := x.magnitude
  if n % d = 0 then some (if x.negative then -(n / d : Nat) else (n / d : Nat)) else none

def isBelow (x : Binary64) (bound : Nat) : Bool :=
  let (n, d) := x.magnitude
  if x.negative && !x.isZero then true else decide (n < bound * d)

def isAbove (x : Binary64) (bound : Nat) : Bool :=
  let (n, d) := x.magnitude
  !x.negative && decide (bound * d < n)

/-- Numbers of the same value: the two zeros are the same, and no others that differ. -/
def same (x y : Binary64) : Bool :=
  decide (x = y) || (x.isZero && y.isZero)

end Binary64
end TripCards
