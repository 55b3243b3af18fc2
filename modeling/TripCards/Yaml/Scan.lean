/-
From a YAML text to its tokens.

Whether a value is the key of a mapping shows only at the colon behind it. So the place of every
value that could be a key is remembered, one for each level of brackets, and the mark of the key is
put there later.
-/
import TripCards.Yaml.Mark

namespace TripCards
namespace Yaml

/-- A value that is a key if a colon follows. `at` is its place among the tokens. A key is
`required` where a block mapping goes on with it. -/
structure KeyCandidate where
  position : Nat
  index : Nat
  line : Nat
  column : Nat
  required : Bool
deriving DecidableEq, Repr

/-- How far a text is read. -/
structure Scan where
  spots : List Spot
  tokens : List Token
  /-- The columns of the block collections that are open, from the inside out. -/
  indents : List Nat
  /-- The candidate of this level of brackets. -/
  candidate : Option KeyCandidate
  /-- The candidates of the levels around it, from the inside out. -/
  outer : List (Option KeyCandidate)
  /-- Whether a key or an item may start here. -/
  isFresh : Bool

namespace Scan

def start (spots : List Spot) : Scan :=
  ⟨spots, [], [], none, [], true⟩

def inBrackets (scan : Scan) : Bool :=
  !scan.outer.isEmpty

def column (scan : Scan) : Nat :=
  scan.spots.head?.elim 0 Spot.column

/-- The column that lines inside of the innermost block collection have to reach. -/
def margin (scan : Scan) : Nat :=
  scan.indents.head?.elim 0 (· + 1)

def add (scan : Scan) (token : Token) : Scan :=
  { scan with tokens := scan.tokens ++ [token] }

def insert (scan : Scan) (position : Nat) (token : Token) : Scan :=
  { scan with tokens := scan.tokens.take position ++ token :: scan.tokens.drop position }

def moveTo (scan : Scan) (spots : List Spot) : Scan :=
  { scan with spots }

/-- Steps over one character. -/
def skip (scan : Scan) : Scan :=
  scan.moveTo scan.spots.tail

/-! ## Indentation -/

/-- Opens a block collection at a column that is further in than the innermost one. -/
def openBlock (scan : Scan) (column position : Nat) (token : Token) : Scan :=
  if scan.inBrackets || !scan.indents.head?.all (· < column) then scan
  else { scan.insert position token with indents := column :: scan.indents }

/-- Closes the block collections that lie further in than a column. -/
def closeBlocks (scan : Scan) (column : Nat) : Scan :=
  if scan.inBrackets then scan
  else
    let closed := scan.indents.takeWhile (column < ·)
    { scan with
      tokens := scan.tokens ++ closed.map fun _ => .blockEnd
      indents := scan.indents.drop closed.length }

def closeAllBlocks (scan : Scan) : Scan :=
  if scan.inBrackets then scan
  else
    { scan with
      tokens := scan.tokens ++ scan.indents.map fun _ => .blockEnd
      indents := [] }

/-! ## Candidates for keys -/

/-- A candidate that is no key after all. -/
def giveUp : Option KeyCandidate → Except Fault (Option KeyCandidate)
  | some candidate => if candidate.required then .error .keyWithoutValue else .ok none
  | none => .ok none

def dropCandidate (scan : Scan) : Except Fault Scan := do
  let candidate ← giveUp scan.candidate
  return { scan with candidate }

/-- How far behind the start of a key its colon may be. -/
def longestKey : Nat := 1024

/-- A key ends in its line, and not too far on. -/
def refresh (s : Spot) (candidate : Option KeyCandidate) : Except Fault (Option KeyCandidate) :=
  match candidate with
  | some k =>
    if k.line < s.line || k.index + longestKey < s.index then giveUp candidate else .ok candidate
  | none => .ok none

def refreshAll (scan : Scan) : Except Fault Scan :=
  match scan.spots with
  | [] => .ok scan
  | s :: _ => do
    let candidate ← refresh s scan.candidate
    let outer ← scan.outer.mapM (refresh s)
    return { scan with candidate, outer }

/-- What starts here may be a key. -/
def addCandidate (scan : Scan) : Except Fault Scan :=
  match scan.spots with
  | [] => .ok scan
  | s :: _ =>
    if scan.isFresh then do
      let required := !scan.inBrackets && scan.indents.head? == some s.column
      let scan ← scan.dropCandidate
      return { scan with
        candidate := some ⟨scan.tokens.length, s.index, s.line, s.column, required⟩ }
    else .ok scan

/-! ## Tokens -/

/-- Steps over blanks, line breaks and comments. A tab is no indentation, so that it is passed over
only where nothing depends on the column. -/
def blanksFrom (inBrackets : Bool) (isFresh inComment : Bool) : List Spot → Bool × List Spot
  | [] => (isFresh, [])
  | s :: rest =>
    if s.isEnd then (isFresh, s :: rest)
    else if s.isBreak then blanksFrom inBrackets (isFresh || !inBrackets) false rest
    else if inComment || s.is '#' then blanksFrom inBrackets isFresh true rest
    else if s.is ' ' || (s.is '\t' && (inBrackets || !isFresh))
        || (s.is byteOrderMark && s.index == 0) then
      blanksFrom inBrackets isFresh false rest
    else (isFresh, s :: rest)

def skipBlanks (scan : Scan) : Scan :=
  let (isFresh, spots) := blanksFrom scan.inBrackets scan.isFresh false scan.spots
  { scan with isFresh, spots }

/-- Nothing is left open before what stands between documents. -/
def leaveDocument (scan : Scan) : Except Fault Scan := do
  let scan ← scan.closeAllBlocks.dropCandidate
  return { scan with isFresh := false }

def readDocumentMark (scan : Scan) (token : Token) : Except Fault Scan := do
  let scan ← scan.leaveDocument
  return (scan.add token).moveTo (scan.spots.drop 3)

def readDirective (scan : Scan) : Except Fault Scan := do
  let scan ← scan.leaveDocument
  let (token, rest) ← Yaml.readDirective scan.spots.tail
  return (scan.add token).moveTo rest

def openBracket (scan : Scan) (token : Token) : Except Fault Scan := do
  let scan ← scan.addCandidate
  return { scan.add token with
    spots := scan.spots.tail
    candidate := none
    outer := scan.candidate :: scan.outer
    isFresh := true }

def closeBracket (scan : Scan) (token : Token) : Except Fault Scan := do
  let scan ← scan.dropCandidate
  let scan := { (scan.add token).skip with isFresh := false }
  match scan.outer with
  | [] => return scan
  | candidate :: outer => return { scan with candidate, outer }

def readComma (scan : Scan) : Except Fault Scan := do
  let scan ← scan.dropCandidate
  return { (scan.add .comma).skip with isFresh := true }

def readItem (scan : Scan) : Except Fault Scan := do
  if !scan.inBrackets && !scan.isFresh then throw .misplacedItem
  let scan ← (scan.openBlock scan.column scan.tokens.length .blockSequence).dropCandidate
  return { (scan.add .item).skip with isFresh := true }

def readKey (scan : Scan) : Except Fault Scan := do
  if !scan.inBrackets && !scan.isFresh then throw .misplacedKey
  let scan ← (scan.openBlock scan.column scan.tokens.length .blockMapping).dropCandidate
  return { (scan.add .key).skip with isFresh := !scan.inBrackets }

/-- A colon makes a key of the candidate before it. Without one it belongs to a key that has a mark
of its own. -/
def readValue (scan : Scan) : Except Fault Scan :=
  match scan.candidate with
  | some k =>
    let scan := (scan.insert k.position .key).openBlock k.column k.position .blockMapping
    .ok { (scan.add .value).skip with candidate := none, isFresh := false }
  | none => do
    if !scan.inBrackets && !scan.isFresh then throw .misplacedValue
    let scan := scan.openBlock scan.column scan.tokens.length .blockMapping
    return { (scan.add .value).skip with isFresh := !scan.inBrackets }

/-- Reads one token that may start a key. -/
def readInline (scan : Scan) (read : List Spot → Except Fault (Token × List Spot)) :
    Except Fault Scan := do
  let scan ← scan.addCandidate
  let (token, rest) ← read scan.spots
  return { scan.add token with spots := rest, isFresh := false }

def readPlain (scan : Scan) : Except Fault Scan := do
  let scan ← scan.addCandidate
  let found ← Yaml.readPlain scan.inBrackets scan.margin .nothing scan.spots
  let scan := scan.add (.scalar .plain (String.ofList found.text))
  return { scan with spots := found.rest, isFresh := found.gap.hasLines }

def readBlock (scan : Scan) (style : ScalarStyle) : Except Fault Scan := do
  let scan ← scan.dropCandidate
  let (head, rest) ← readBlockHead scan.spots.tail
  let indent := head.indentation.map (scan.indents.head?.getD 0 + ·)
  let place : BlockPlace :=
    ⟨style == .folded, head.chomping, scan.margin, indent, 0, none, [], false⟩
  let (text, rest) ← Yaml.readBlock place false rest
  let scan := scan.add (.scalar style (String.ofList text))
  return { scan with spots := rest, isFresh := true }

/-- Characters that start no plain scalar. Three of them do if no blank follows. -/
def isIndicator (c : Char) : Bool :=
  "-?:,[]\x7b\x7d#&*!|>'\"%@\x60".toList.contains c

/-- Reads the token that starts with a character of its own line. -/
def readToken (scan : Scan) (c : Char) : Except Fault Scan :=
  let gapFollows := isGapAt scan.spots 1
  match c with
  | '[' => scan.openBracket .openSequence
  | '\x7b' => scan.openBracket .openMapping
  | ']' => scan.closeBracket .closeSequence
  | '\x7d' => scan.closeBracket .closeMapping
  | ',' => scan.readComma
  | '*' => scan.readInline fun spots =>
      (readAnchor spots.tail).map fun (name, rest) => (.reference name, rest)
  | '&' => scan.readInline fun spots =>
      (readAnchor spots.tail).map fun (name, rest) => (.anchor name, rest)
  | '!' => scan.readInline (readTag scan.inBrackets)
  | '\'' => scan.readInline fun spots =>
      (readSingle .nothing spots.tail).map fun (text, rest) =>
        (.scalar .quoted (String.ofList text), rest)
  | '"' => scan.readInline fun spots =>
      (readDouble .nothing none spots.tail).map fun (text, rest) =>
        (.scalar .quoted (String.ofList text), rest)
  | _ =>
    if c == '-' && gapFollows then scan.readItem
    else if c == '?' && (scan.inBrackets || gapFollows) then scan.readKey
    else if c == ':' && (scan.inBrackets || gapFollows) then scan.readValue
    else if c == '|' && !scan.inBrackets then scan.readBlock .literal
    else if c == '>' && !scan.inBrackets then scan.readBlock .folded
    else if !isIndicator c || c == '-' || c == '?' || c == ':' then scan.readPlain
    else .error (.strayCharacter c)

/-- Reads on to the end of the text. Every token has a character of its own, so that `fuel` is the
number of characters. -/
def readAll (fuel : Nat) (scan : Scan) : Except Fault (List Token) :=
  match fuel with
  | 0 => .error .tooDeep
  | fuel + 1 => do
    let scan ← scan.skipBlanks.refreshAll
    let scan := scan.closeBlocks scan.column
    match scan.spots with
    | [] => return scan.tokens
    | s :: _ =>
      match s.char with
      | none =>
        let scan ← scan.leaveDocument
        return scan.tokens
      | some c =>
        let scan ←
          if s.column == 0 && c == '%' then scan.readDirective
          else if startsDocument scan.spots then scan.readDocumentMark .documentStart
          else if endsDocument scan.spots then scan.readDocumentMark .documentEnd
          else if s.isBlank then throw (.strayCharacter c)
          else scan.readToken c
        readAll fuel scan

end Scan

/-- The tokens of a text. -/
def Token.listOf (text : String) : Except Fault (List Token) := do
  let spots ← Spot.listOf text.toList
  (Scan.start spots).readAll (spots.length + 1)

end Yaml
end TripCards
