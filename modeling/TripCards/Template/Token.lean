/-
The tokens of a source: literal text and tags, each with the byte offset at which it begins.
-/
import TripCards.Template.Piece
import TripCards.Template.Tag
import TripCards.Text.Bytes

namespace TripCards

inductive TokenKind where
  | text (text : String)
  | tag (tag : Tag)
deriving DecidableEq, Repr

structure Token where
  kind : TokenKind
  offset : Nat
deriving DecidableEq, Repr

open Text (byteLength)

namespace Token

/-- A tag that has no meaning, and where it begins. -/
structure BadTag where
  fault : TagFault
  offset : Nat
deriving DecidableEq, Repr

/-- The tokens of pieces of which the first begins at `offset`. Of several bad tags the leftmost
is reported. -/
def ofPieces (offset : Nat) : List Piece → Except BadTag (List Token)
  | [] => .ok []
  | .literal text :: pieces =>
      (ofPieces (offset + byteLength text) pieces).map (⟨.text (String.ofList text), offset⟩ :: ·)
  | .tag inside :: pieces =>
      match Tag.read inside with
      | .error fault => .error ⟨fault, offset⟩
      | .ok tag =>
        (ofPieces (offset + byteLength (Piece.tag inside).toChars) pieces).map
          (⟨.tag tag, offset⟩ :: ·)

/-- Reading a source either finds the meaning of every tag or fails at the first bad one. -/
def ofSource (source : String) : Except BadTag (List Token) :=
  ofPieces 0 (Piece.ofSource source.toList)

end Token

/-- A quick test for sources with tags: both kinds of braces occur, in whatever order. -/
def mayHoldTags (source : String) : Bool :=
  (Piece.cutAtFirst '{' source.toList).isSome && (Piece.cutAtFirst '}' source.toList).isSome

end TripCards
