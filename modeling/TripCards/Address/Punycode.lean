/-
Labels of domain names that spell other characters in ASCII.

Behind the characters that stand for themselves come numbers. Each of them tells how far to go on
through the places and the code points at which the next character could be inserted. A number is
written with its least digit first, and the digit that may end it depends on the numbers before.
-/

namespace TripCards
namespace Address
namespace Punycode

def base : Nat := 36
def leastThreshold : Nat := 1
def greatestThreshold : Nat := 26
def firstBias : Nat := 72
def firstCode : Nat := 128

def digit? (c : Char) : Option Nat :=
  if 'a' ≤ c ∧ c ≤ 'z' then some (c.toNat - 'a'.toNat)
  else if 'A' ≤ c ∧ c ≤ 'Z' then some (c.toNat - 'A'.toNat)
  else if '0' ≤ c ∧ c ≤ '9' then some (c.toNat - '0'.toNat + 26)
  else none

/-- A digit below its threshold is the last one of its number. -/
def threshold (bias position : Nat) : Nat :=
  if position ≤ bias then leastThreshold
  else min greatestThreshold (max leastThreshold (position - bias))

/-- The bias of which the number `delta` is, by halving. -/
def biasOf (delta steps : Nat) : Nat :=
  if (base - leastThreshold) * greatestThreshold / 2 < delta then
    biasOf (delta / (base - leastThreshold)) (steps + base)
  else steps + (base - leastThreshold + 1) * delta / (delta + 38)
termination_by delta
decreasing_by
  have : 0 < delta := by simp [base, leastThreshold, greatestThreshold] at *; omega
  exact Nat.div_lt_self this (by simp [base, leastThreshold])

/-- The bias for the next number: the first one is far larger than the others. -/
def adapt (delta count : Nat) (first : Bool) : Nat :=
  let delta := if first then delta / 700 else delta / 2
  biasOf (delta + delta / count) 0

/-- Where decoding stands: the code point and the place to insert at, the bias, and what has been
read of the number at hand. -/
structure State where
  decoded : List Char
  code : Nat
  place : Nat
  bias : Nat
  position : Nat
  weight : Nat
  number : Nat

namespace State

def start (plain : List Char) : State :=
  ⟨plain, firstCode, 0, firstBias, base, 1, 0⟩

/-- Inserts the next character once its number is complete. -/
def insert? (s : State) : Option State :=
  let count := s.decoded.length + 1
  let target := s.place + s.number
  let code := s.code + target / count
  let place := target % count
  if code.isValidChar then
    some ⟨s.decoded.take place ++ Char.ofNat code :: s.decoded.drop place, code, place + 1,
      adapt s.number count (s.place == 0), base, 1, 0⟩
  else none

def read? (s : State) (c : Char) : Option State :=
  match digit? c with
  | none => none
  | some digit =>
    let threshold := threshold s.bias s.position
    let s' := { s with number := s.number + digit * s.weight }
    if digit < threshold then s'.insert?
    else some { s' with weight := s.weight * (base - threshold), position := s.position + base }

end State

/-- The characters that the label spells, of which the ones before the last hyphen stand for
themselves. Nothing is spelled by a label that breaks off in a number. -/
def decode (label : List Char) : Option (List Char) :=
  let behind := (label.reverse.takeWhile (· != '-')).reverse
  let plain := label.take (label.length - behind.length - 1)
  let numbers := if plain.isEmpty then label else behind
  match numbers.foldlM State.read? (State.start plain) with
  | none => none
  | some s => if s.position = base then some s.decoded else none

end Punycode
end Address
end TripCards
