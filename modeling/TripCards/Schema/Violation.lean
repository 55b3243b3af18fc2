/-
What is wrong with the data of a card.
-/

namespace TripCards

/-- One step from a collection into it. -/
inductive Step where
  | field (name : String)
  | item (index : Nat)
deriving DecidableEq, Repr

/-- A place in the data, as the steps that lead there from the whole. -/
abbrev Place : Type := List Step

namespace Place

def stepText : Step → String
  | .field name => "." ++ name
  | .item index => "[" ++ toString index ++ "]"

/-- The first name has no dot in front of it. -/
def text : Place → String
  | [] => ""
  | .field name :: steps => name ++ String.join (steps.map stepText)
  | .item index :: steps => String.join ((Step.item index :: steps).map stepText)

end Place

inductive Problem where
  | missing
  | missingSequence
  | notText
  | notWebAddress
  | notNumber
  | below (least : Nat)
  | above (most : Nat)
  | notSequence
  | notMapping
deriving DecidableEq, Repr

def Problem.text : Problem → String
  | missing => " is required"
  | missingSequence => " array is required"
  | notText => " must be a string"
  | notWebAddress => " must be a valid URL"
  | notNumber => " must be a number"
  | below least => " must be at least " ++ toString least
  | above most => " must be at most " ++ toString most
  | notSequence => " must be an array"
  | notMapping => " must be an object"

structure Violation where
  place : Place
  problem : Problem
deriving DecidableEq, Repr

def Violation.message (v : Violation) : String :=
  v.place.text ++ v.problem.text

end TripCards
