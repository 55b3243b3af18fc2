/-
Numbers of a JSON document.

A whole number that fits 64 bits is exact. Every other number is found from its first digits, as
many as fit 64 bits, and the power of ten that the remaining ones and the exponent leave: the
digits are rounded to binary64, and so is their product or quotient with the rounded power. The
result can differ from the nearest number in its last bits.
-/
import TripCards.Json.Misread
import TripCards.Number
import TripCards.Text.Digit

namespace TripCards
namespace Json
namespace Numeral

open Text (digitValue)

def isDigit (c : Char) : Bool :=
  '0' ≤ c && c ≤ '9'

/-- Digits beyond this value are not kept. -/
def maxSignificand : Nat := 0xFFFFFFFFFFFFFFFF

/-- The digits that are kept, and the power of ten at the last of them. -/
structure Significand where
  value : Nat
  power : Int
  full : Bool
deriving DecidableEq, Repr

namespace Significand

def none : Significand := ⟨0, 0, false⟩

/-- A digit before the point that is not kept raises the power of those that are. -/
def wholeDigit (s : Significand) (digit : Nat) : Significand :=
  if s.full || maxSignificand < s.value * 10 + digit then ⟨s.value, s.power + 1, true⟩
  else { s with value := s.value * 10 + digit }

/-- A digit after the point that is not kept changes nothing. -/
def fractionDigit (s : Significand) (digit : Nat) : Significand :=
  if s.full || maxSignificand < s.value * 10 + digit then { s with full := true }
  else { s with value := s.value * 10 + digit, power := s.power - 1 }

end Significand

def powerOfTen (n : Nat) : Binary64 :=
  (Binary64.ofRatio false (Nat.pow 10 n) 1).getD default

/-- The largest power of ten below the end of the format. -/
def maxPower : Nat := 308

/-- Divided by a power of ten, in steps where the power is beyond the format. -/
def divideByPower (x : Binary64) (power : Nat) : Binary64 :=
  if power ≤ maxPower then (x.div (powerOfTen power)).getD default
  else if x.isZero then x
  else divideByPower ((x.div (powerOfTen maxPower)).getD default) (power - maxPower)
termination_by power
decreasing_by simp [maxPower] at *; omega

/-- `value · 10^power`; nothing where that is beyond the largest number. -/
def scale? (value : Nat) (power : Int) : Option Binary64 :=
  let x := (Binary64.ofRatio false value 1).getD default
  if power < 0 then some (divideByPower x power.natAbs)
  else if power.natAbs ≤ maxPower then x.mul (powerOfTen power.natAbs)
  else if x.isZero then some x
  else none

def signed (negative : Bool) (x : Binary64) : Number :=
  .float { x with negative := negative }

/-- How far a whole number may lie below zero. -/
def maxBelowZero : Nat := 0x8000000000000000

/-- The number of a numeral without a point and an exponent. -/
def wholeNumber? (negative : Bool) (s : Significand) : Option Number :=
  if s.full then (scale? s.value s.power).map (signed negative)
  else if !negative then some (.whole s.value)
  else if 0 < s.value ∧ s.value ≤ maxBelowZero then some (.whole (-s.value))
  else (scale? s.value 0).map (signed negative)

def maxExponent : Nat := 0x7FFFFFFF

/-- The digits of an exponent. An exponent beyond `maxExponent` is known to be so at the digit that
leads beyond it, and is given as nothing there. -/
def readExponentDigits (value : Nat) : List Char → Option Nat × List Char
  | [] => (some value, [])
  | c :: s =>
      if isDigit c then
        if maxExponent < value * 10 + digitValue c then (none, s)
        else readExponentDigits (value * 10 + digitValue c) s
      else (some value, c :: s)

def splitExponentSign : List Char → Bool × List Char
  | '+' :: s => (false, s)
  | '-' :: s => (true, s)
  | s => (false, s)

abbrev Outcome : Type := Except Stop (Number × List Char)

def finish (negative : Bool) (value : Nat) (power : Int) (rest : List Char) : Outcome :=
  match scale? value power with
  | some x => .ok (signed negative x, rest)
  | none => .error ⟨.numberOutOfRange, rest, 0⟩

/-- What follows the letter of an exponent. -/
def readExponent (negative : Bool) (s : Significand) (text : List Char) : Outcome :=
  let (negativeExponent, digits) := splitExponentSign text
  match digits with
  | [] => .error ⟨.unfinishedValue, [], 0⟩
  | c :: more =>
    if !isDigit c then .error ⟨.badNumber, c :: more, 1⟩
    else
      match readExponentDigits (digitValue c) more with
      | (some exponent, rest) =>
          finish negative s.value (if negativeExponent then s.power - exponent
            else s.power + exponent) rest
      | (none, rest) =>
          if s.value ≠ 0 ∧ !negativeExponent then .error ⟨.numberOutOfRange, rest, 0⟩
          else .ok (signed negative (Binary64.zero false), rest.dropWhile isDigit)

/-- What follows the point. -/
def readFraction (negative : Bool) (s : Significand) (text : List Char) : Outcome :=
  let digits := text.takeWhile isDigit
  let rest := text.dropWhile isDigit
  if digits.isEmpty then
    if rest.isEmpty then .error ⟨.unfinishedValue, [], 0⟩ else .error ⟨.badNumber, rest, 1⟩
  else
    let s := digits.foldl (fun s c => s.fractionDigit (digitValue c)) { s with full := false }
    match rest with
    | 'e' :: more | 'E' :: more => readExponent negative s more
    | _ => finish negative s.value s.power rest

/-- What follows the digits before the point. -/
def readTail (negative : Bool) (s : Significand) (text : List Char) : Outcome :=
  match text with
  | '.' :: more => readFraction negative s more
  | 'e' :: more | 'E' :: more => readExponent negative s more
  | _ =>
    match wholeNumber? negative s with
    | some n => .ok (n, text)
    | none => .error ⟨.numberOutOfRange, text, 0⟩

/-- A number whose sign has been read. A zero in front of other digits is refused. -/
def read (negative : Bool) (text : List Char) : Outcome :=
  match text with
  | [] => .error ⟨.unfinishedValue, [], 0⟩
  | '0' :: more =>
      match more with
      | c :: _ =>
          if isDigit c then .error ⟨.badNumber, more, 1⟩
          else readTail negative .none more
      | [] => readTail negative .none []
  | c :: _ =>
      if isDigit c then
        let s := (text.takeWhile isDigit).foldl (fun s c => s.wholeDigit (digitValue c)) .none
        readTail negative s (text.dropWhile isDigit)
      else .error ⟨.badNumber, text, 1⟩

/-! ## Reading takes digits from the front

Each part leaves no more text than it was given, and the first digit is always taken. -/

theorem length_dropDigits (text : List Char) : (text.dropWhile isDigit).length ≤ text.length :=
  List.Sublist.length_le (List.dropWhile_sublist isDigit)

theorem length_readExponentDigits (value : Nat) (text : List Char) :
    (readExponentDigits value text).2.length ≤ text.length := by
  fun_induction readExponentDigits value text with
  | case1 value => simp
  | case2 value c s digit beyond => simp
  | case3 value c s digit beyond ih => exact Nat.le_succ_of_le ih
  | case4 value c s digit => simp

theorem length_finish {negative : Bool} {value : Nat} {power : Int} {text rest : List Char}
    {n : Number} (h : finish negative value power text = .ok (n, rest)) : rest = text := by
  unfold finish at h
  split at h <;> simp_all

theorem length_splitExponentSign (text : List Char) :
    (splitExponentSign text).2.length ≤ text.length := by
  unfold splitExponentSign
  split <;> simp

theorem length_readExponent {negative : Bool} {s : Significand} {text rest : List Char} {n : Number}
    (h : readExponent negative s text = .ok (n, rest)) : rest.length ≤ text.length := by
  have sign := length_splitExponentSign text
  unfold readExponent at h
  generalize splitExponentSign text = parts at h sign
  obtain ⟨negativeExponent, digits⟩ := parts
  cases digits with
  | nil => simp at h
  | cons c more =>
    have digits := length_readExponentDigits (digitValue c) more
    simp only [List.length_cons] at sign
    simp only at h
    split at h
    · simp at h
    · split at h
      · rename_i exponent left found
        rw [length_finish h]
        rw [found] at digits
        simp only at digits
        omega
      · rename_i left found
        rw [found] at digits
        simp only at digits
        have dropped := length_dropDigits left
        split at h
        · simp at h
        · simp only [Except.ok.injEq, Prod.mk.injEq] at h
          rw [← h.2]
          omega

theorem length_readFraction {negative : Bool} {s : Significand} {text rest : List Char} {n : Number}
    (h : readFraction negative s text = .ok (n, rest)) : rest.length ≤ text.length := by
  have dropped := length_dropDigits text
  unfold readFraction at h
  simp only at h
  split at h
  · split at h <;> simp at h
  · split at h
    · rename_i more hrest
      rw [hrest] at dropped
      have := length_readExponent h
      simp only [List.length_cons] at dropped
      omega
    · rename_i more hrest
      rw [hrest] at dropped
      have := length_readExponent h
      simp only [List.length_cons] at dropped
      omega
    · rw [length_finish h]
      exact dropped

theorem length_readTail {negative : Bool} {s : Significand} {text rest : List Char} {n : Number}
    (h : readTail negative s text = .ok (n, rest)) : rest.length ≤ text.length := by
  unfold readTail at h
  split at h
  · exact Nat.le_succ_of_le (length_readFraction h)
  · exact Nat.le_succ_of_le (length_readExponent h)
  · exact Nat.le_succ_of_le (length_readExponent h)
  · split at h
    · simp only [Except.ok.injEq, Prod.mk.injEq] at h
      exact Nat.le_of_eq (congrArg List.length h.2.symm)
    · simp at h

theorem length_read {negative : Bool} {text rest : List Char} {n : Number}
    (h : read negative text = .ok (n, rest)) : rest.length < text.length := by
  unfold read at h
  split at h
  · simp at h
  · split at h
    · split at h
      · simp at h
      · exact Nat.lt_succ_of_le (length_readTail h)
    · exact Nat.lt_succ_of_le (length_readTail h)
  · rename_i c more _
    split at h
    · rename_i digit
      have dropped := length_dropDigits more
      have tail := length_readTail h
      rw [List.dropWhile_cons_of_pos digit] at tail
      exact Nat.lt_succ_of_le (Nat.le_trans tail dropped)
    · simp at h

end Numeral
end Json
end TripCards
