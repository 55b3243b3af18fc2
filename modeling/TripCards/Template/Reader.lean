/-
From tokens to a tree. Each opening tag takes the tokens up to the closing tag that belongs to it
as its body; blocks nest, and do not cross.
-/
import TripCards.Template.Node
import TripCards.Template.Token
import TripCards.Text.Position

namespace TripCards

/-- How many blocks may be open at once. -/
def maxDepth : Nat := 256

/-- What is wrong with a template. A place inside the text is given as a `Place`: a byte offset
while reading, a position in what is reported. -/
inductive TemplateFault (Place : Type) where
  | badTag (fault : TagFault)
  | tooDeep (kind : BlockKind) (path : Path)
  | crossed (closing kind : BlockKind) (path : Path) (opened : Place)
  | strayClosing (kind : BlockKind)
  | unclosed (kind : BlockKind) (path : Path)
deriving DecidableEq, Repr

/-- A fault and the place of the tag that it is about. -/
structure Misfit (Place : Type) where
  fault : TemplateFault Place
  place : Place
deriving DecidableEq, Repr

namespace TemplateFault

def map {P Q : Type} (f : P → Q) : TemplateFault P → TemplateFault Q
  | badTag fault => badTag fault
  | tooDeep kind path => tooDeep kind path
  | crossed closing kind path opened => crossed closing kind path (f opened)
  | strayClosing kind => strayClosing kind
  | unclosed kind path => unclosed kind path

def message : TemplateFault Position → String
  | badTag fault => fault.message
  | tooDeep kind path =>
      (Tag.opening kind path).quoted ++ " nests blocks deeper than " ++ toString maxDepth ++
        " levels"
  | crossed closing kind path opened =>
      (Tag.closing closing).quoted ++ " does not close " ++ (Tag.opening kind path).quoted ++
        " opened at " ++ opened.text
  | strayClosing kind => (Tag.closing kind).quoted ++ " has no matching opener"
  | unclosed kind path =>
      (Tag.opening kind path).quoted ++ " is never closed by " ++ (Tag.closing kind).quoted

end TemplateFault

namespace Misfit

def map {P Q : Type} (f : P → Q) (m : Misfit P) : Misfit Q :=
  ⟨m.fault.map f, f m.place⟩

def ofBadTag (bad : Token.BadTag) : Misfit Nat :=
  ⟨.badTag bad.fault, bad.offset⟩

end Misfit

/-- An opening tag whose closing tag is still to come. -/
structure OpenBlock where
  kind : BlockKind
  path : Path
  offset : Nat
deriving DecidableEq, Repr

/-- The tokens that are left after some of `tokens` were read. -/
abbrev Rest (tokens : List Token) : Type :=
  { rest : List Token // rest.length ≤ tokens.length }

namespace Rest

def afterNext {token : Token} {tokens : List Token} (rest : Rest tokens) : Rest (token :: tokens) :=
  ⟨rest.val, Nat.le_succ_of_le rest.property⟩

end Rest

/-- Reads nodes up to the closing tag of `enclosing`, or to the end of the tokens where no block
encloses them. `depth` counts the open blocks. -/
def readNodes (enclosing : Option OpenBlock) (depth : Nat) :
    (tokens : List Token) → Except (Misfit Nat) (List Node × Rest tokens)
  | [] =>
      match enclosing with
      | none => .ok ([], ⟨[], Nat.le_refl _⟩)
      | some block => .error ⟨.unclosed block.kind block.path, block.offset⟩
  | ⟨.text text, _⟩ :: tokens =>
      match readNodes enclosing depth tokens with
      | .error misfit => .error misfit
      | .ok (nodes, rest) => .ok (.text text :: nodes, rest.afterNext)
  | ⟨.tag (.slot path), _⟩ :: tokens =>
      match readNodes enclosing depth tokens with
      | .error misfit => .error misfit
      | .ok (nodes, rest) => .ok (.slot path :: nodes, rest.afterNext)
  | ⟨.tag (.opening kind path), offset⟩ :: tokens =>
      if maxDepth ≤ depth then .error ⟨.tooDeep kind path, offset⟩
      else
        match readNodes (some ⟨kind, path, offset⟩) (depth + 1) tokens with
        | .error misfit => .error misfit
        | .ok (body, ⟨afterBody, shorter⟩) =>
          match readNodes enclosing depth afterBody with
          | .error misfit => .error misfit
          | .ok (nodes, rest) =>
            .ok (.block kind path body :: nodes,
              ⟨rest.val, Nat.le_succ_of_le (Nat.le_trans rest.property shorter)⟩)
  | ⟨.tag (.closing kind), offset⟩ :: tokens =>
      match enclosing with
      | none => .error ⟨.strayClosing kind, offset⟩
      | some block =>
        if block.kind = kind then .ok ([], ⟨tokens, Nat.le_succ _⟩)
        else .error ⟨.crossed kind block.kind block.path block.offset, offset⟩
termination_by tokens => tokens.length
decreasing_by all_goals grind

namespace Template

/-- The template that the tokens of a whole source spell. -/
def ofTokens (tokens : List Token) : Except (Misfit Nat) Template :=
  (readNodes none 0 tokens).map fun (nodes, _) => ⟨nodes⟩

/-- All tags are read before any block is matched, so a bad tag is reported before a block that
does not fit. -/
def read (source : String) : Except (Misfit Nat) Template :=
  match Token.ofSource source with
  | .error bad => .error (Misfit.ofBadTag bad)
  | .ok tokens => ofTokens tokens

/-- The template of a source, or its fault with the position to report. -/
def ofSource (source : String) : Except (Misfit Position) Template :=
  (read source).mapError (Misfit.map (Position.locate source.toList))

end Template
end TripCards
