/-
The texts of scalars: plain, quoted, and blocks of lines.

Where a text runs over a line break, the blanks around it are dropped and one new line becomes a
space; each further one stands for itself.
-/
import TripCards.Text.Digit
import TripCards.Yaml.Spot

namespace TripCards
namespace Yaml

/-- Blank space within a text. `lines` begins with a line break, which is none where the break is
escaped. -/
inductive Gap where
  | blanks (chars : List Char)
  | lines (first : Option Char) (more : List Char)
deriving DecidableEq, Repr

namespace Gap

def nothing : Gap := blanks []

def isNothing (gap : Gap) : Bool :=
  gap == nothing

def hasLines : Gap → Bool
  | blanks _ => false
  | lines _ _ => true

def addBlank (c : Char) : Gap → Gap
  | blanks chars => blanks (chars ++ [c])
  | lines first more => lines first more

def addBreak (c : Char) : Gap → Gap
  | blanks _ => lines (some c) []
  | lines first more => lines first (more ++ [c])

/-- What the gap leaves in the text. -/
def folded : Gap → List Char
  | blanks chars => chars
  | lines first more =>
    if first == some '\n' then if more.isEmpty then [' '] else more else first.toList ++ more

end Gap

/-- A text, and the places behind it. -/
abbrev Reading : Type := Except Fault (List Char × List Spot)

/-- Puts characters before what is read. -/
def Reading.after (chars : List Char) : Reading → Reading
  | .ok (text, rest) => .ok (chars ++ text, rest)
  | .error e => .error e

/-! ## Plain scalars -/

/-- What may not follow a colon directly in a plain scalar within brackets. -/
def isBracketMark (c : Char) : Bool :=
  c == ',' || c == '?' || c == '[' || c == ']' || c == '\x7b' || c == '\x7d'

/-- The end of a plain scalar within brackets. -/
def isBracketEnd (c : Char) : Bool :=
  c == ',' || c == '[' || c == ']' || c == '\x7b' || c == '\x7d'

/-- A plain scalar, the gap behind it, and the places behind that. -/
structure PlainText where
  text : List Char
  gap : Gap
  rest : List Spot

/-- A plain scalar up to where it ends. `margin` is the column that further lines have to reach. -/
def readPlain (inBrackets : Bool) (margin : Nat) (gap : Gap) :
    List Spot → Except Fault PlainText
  | [] => .ok ⟨[], gap, []⟩
  | s :: rest =>
    match s.char with
    | none => .ok ⟨[], gap, s :: rest⟩
    | some c =>
      if s.isBlank then
        if gap.hasLines && s.column < margin && c == '\t' then .error .tabInIndentation
        else readPlain inBrackets margin (gap.addBlank c) rest
      else if s.isBreak then readPlain inBrackets margin (gap.addBreak c) rest
      else
        let starts := !gap.isNothing
        if starts && ((!inBrackets && s.column < margin) || c == '#'
            || startsDocument (s :: rest) || endsDocument (s :: rest)) then
          .ok ⟨[], gap, s :: rest⟩
        else if inBrackets && c == ':' && (charAt rest 0).any isBracketMark then .error .strayColon
        else if (c == ':' && isGapAt rest 0) || (inBrackets && isBracketEnd c) then
          .ok ⟨[], gap, s :: rest⟩
        else
          match readPlain inBrackets margin .nothing rest with
          | .error e => .error e
          | .ok found => .ok { found with text := gap.folded ++ c :: found.text }

/-! ## Quoted scalars -/

/-- What a backslash and one character stand for. -/
def escaped? : Char → Option Char
  | '0' => some '\x00'
  | 'a' => some '\x07'
  | 'b' => some '\x08'
  | 't' => some '\t'
  | '\t' => some '\t'
  | 'n' => some '\n'
  | 'v' => some '\x0b'
  | 'f' => some '\x0c'
  | 'r' => some '\r'
  | 'e' => some '\x1b'
  | ' ' => some ' '
  | '"' => some '"'
  | '/' => some '/'
  | '\\' => some '\\'
  | 'N' => some '\u0085'
  | '_' => some '\u00a0'
  | 'L' => some '\u2028'
  | 'P' => some '\u2029'
  | _ => none

/-- How many hexadecimal digits an escape has. -/
def escapeDigits? : Char → Option Nat
  | 'x' => some 2
  | 'u' => some 4
  | 'U' => some 8
  | _ => none

/-- The character of a code point, which no half of a pair is. -/
def charOf? (code : Nat) : Option Char :=
  if h : code.isValidChar then some (Char.ofNatAux code h) else none

/-- What is read of an escape: so many digits are left, and this is the value of those before. -/
structure EscapeDigits where
  left : Nat
  value : Nat

/-- A text in double quotes, from behind the first one. -/
def readDouble (gap : Gap) (digits : Option EscapeDigits) : List Spot → Reading
  | [] => .error .unclosedQuote
  | s :: rest =>
    match s.char with
    | none => .error .unclosedQuote
    | some c =>
      match digits with
      | some ⟨left, value⟩ =>
        match Text.hexDigit? c with
        | none => .error .badEscape
        | some digit =>
          let value := value * 16 + digit
          if 1 < left then readDouble .nothing (some ⟨left - 1, value⟩) rest
          else
            match charOf? value with
            | none => .error .badEscape
            | some c => (readDouble .nothing none rest).after [c]
      | none =>
        if s.isBlank then readDouble (gap.addBlank c) none rest
        else if s.isBreak then readDouble (gap.addBreak c) none rest
        else if startsDocument (s :: rest) || endsDocument (s :: rest) then .error .markInQuote
        else if c == '"' then .ok (gap.folded, rest)
        else if c == '\\' then
          match rest with
          | [] => .error .unclosedQuote
          | e :: rest =>
            if e.isBreak then (readDouble (.lines none []) none rest).after gap.folded
            else
              match e.char.bind escaped?, e.char.bind escapeDigits? with
              | some c, _ => (readDouble .nothing none rest).after (gap.folded ++ [c])
              | none, some count =>
                (readDouble .nothing (some ⟨count, 0⟩) rest).after gap.folded
              | none, none => .error .badEscape
        else (readDouble .nothing none rest).after (gap.folded ++ [c])

/-- A text in single quotes, from behind the first one. -/
def readSingle (gap : Gap) : List Spot → Reading
  | [] => .error .unclosedQuote
  | s :: rest =>
    match s.char with
    | none => .error .unclosedQuote
    | some c =>
      if s.isBlank then readSingle (gap.addBlank c) rest
      else if s.isBreak then readSingle (gap.addBreak c) rest
      else if startsDocument (s :: rest) || endsDocument (s :: rest) then .error .markInQuote
      else if c == '\'' then
        match rest with
        | next :: later =>
          if next.is '\'' then (readSingle .nothing later).after (gap.folded ++ ['\''])
          else .ok (gap.folded, rest)
        | [] => .ok (gap.folded, [])
      else (readSingle .nothing rest).after (gap.folded ++ [c])

/-! ## Text blocks -/

/-- What becomes of the line breaks at the end of a block. -/
inductive Chomping where
  | strip
  | clip
  | keep
deriving DecidableEq, Repr

structure BlockHead where
  chomping : Chomping
  indentation : Option Nat
deriving DecidableEq, Repr

def chomping? (s : Spot) : Option Chomping :=
  if s.is '+' then some .keep else if s.is '-' then some .strip else none

def indentation? (s : Spot) : Option Nat :=
  match s.char with
  | some c => if c.isDigit then some (Text.digitValue c) else none
  | none => none

/-- The marks behind the sign of a block, in either order. -/
def readBlockHead (spots : List Spot) : Except Fault (BlockHead × List Spot) :=
  let chomp := spots.head?.bind chomping?
  let spots := if chomp.isSome then spots.tail else spots
  let indentation := spots.head?.bind indentation?
  let spots := if indentation.isSome then spots.tail else spots
  let late := if chomp.isNone && indentation.isSome then spots.head?.bind chomping? else none
  let spots := if late.isSome then spots.tail else spots
  if indentation == some 0 then .error .badBlockHeader
  else
    match skipLine spots .badBlockHeader with
    | .error e => .error e
    | .ok rest => .ok (⟨(chomp.or late).getD .clip, indentation⟩, rest)

/-- Where reading stands in a block: the line breaks since the last line that is not empty, and
whether that line began with a blank. The column of the lines is not known before the first that is
not empty; `deepest` is the furthest column so far. -/
structure BlockPlace where
  folds : Bool
  chomping : Chomping
  enclosing : Nat
  indent : Option Nat
  deepest : Nat
  firstBreak : Option Char
  moreBreaks : List Char
  afterBlank : Bool

namespace BlockPlace

/-- What the line breaks become before a line. Between lines that do not begin with a blank one
break becomes a space where the block folds. -/
def breaksBefore (place : BlockPlace) (startsBlank : Bool) : List Char :=
  if place.folds && place.firstBreak == some '\n' && !place.afterBlank && !startsBlank then
    if place.moreBreaks.isEmpty then [' '] else place.moreBreaks
  else place.firstBreak.toList ++ place.moreBreaks

def breaksAtEnd (place : BlockPlace) : List Char :=
  match place.chomping with
  | .strip => []
  | .clip => place.firstBreak.toList
  | .keep => place.firstBreak.toList ++ place.moreBreaks

/-- Whether a space at a column belongs to the indentation. -/
def isMargin (place : BlockPlace) (column : Nat) : Bool :=
  place.indent.all (column < ·)

/-- The column of the lines, seen at the first that is not empty. -/
def column (place : BlockPlace) : Nat :=
  place.indent.getD (max place.deepest (max place.enclosing 1))

end BlockPlace

/-- The lines of a block. -/
def readBlock (place : BlockPlace) (inLine : Bool) : List Spot → Reading
  | [] => .ok (place.breaksAtEnd, [])
  | s :: rest =>
    match s.char with
    | none => .ok (place.breaksAtEnd, s :: rest)
    | some c =>
      if inLine then
        if s.isBreak then readBlock { place with firstBreak := some c } false rest
        else (readBlock place true rest).after [c]
      else if place.isMargin s.column && c == ' ' then readBlock place false rest
      else if place.isMargin s.column && c == '\t' then .error .tabInIndentation
      else
        let place := { place with deepest := max place.deepest s.column }
        if s.isBreak then
          readBlock { place with moreBreaks := place.moreBreaks ++ [c] } false rest
        else if s.column == place.column then
          let inside := { place with
            indent := some place.column
            firstBreak := none
            moreBreaks := []
            afterBlank := s.isBlank }
          (readBlock inside true rest).after (place.breaksBefore s.isBlank ++ [c])
        else .ok (place.breaksAtEnd, s :: rest)

end Yaml
end TripCards
