/-
The tokens of a YAML text.
-/

namespace TripCards
namespace Yaml

/-- How a scalar is written. A text block keeps its lines or folds them. -/
inductive ScalarStyle where
  | plain
  | quoted
  | literal
  | folded
deriving DecidableEq, Repr

/-- Block collections have no brackets in the text; their starts and ends follow from how lines are
indented. -/
inductive Token where
  | documentStart
  | documentEnd
  | version (major minor : Nat)
  | handle (name meaning : String)
  | blockSequence
  | blockMapping
  | blockEnd
  | openSequence
  | closeSequence
  | openMapping
  | closeMapping
  | comma
  | item
  | key
  | value
  | reference (name : String)
  | anchor (name : String)
  | tag (handle suffix : String)
  | scalar (style : ScalarStyle) (text : String)
deriving DecidableEq, Repr

end Yaml
end TripCards
