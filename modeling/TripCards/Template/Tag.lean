/-
What may stand between two braces and two braces, and what is wrong with a tag that is refused.
-/
import TripCards.Path
import TripCards.Text.Alphanumeric
import TripCards.Text.Blank

namespace TripCards

/-- A block is shown when its path holds, or once for each item of its path. -/
inductive BlockKind where
  | conditional
  | repeated
deriving DecidableEq, Repr

namespace BlockKind

def keyword : BlockKind → String
  | conditional => "if"
  | repeated => "each"

def ofKeyword? (s : List Char) : Option BlockKind :=
  if s = "if".toList then some conditional
  else if s = "each".toList then some repeated
  else none

theorem ofKeyword?_keyword (kind : BlockKind) : ofKeyword? kind.keyword.toList = some kind := by
  cases kind <;> decide

end BlockKind

inductive Tag where
  | slot (path : Path)
  | opening (kind : BlockKind) (path : Path)
  | closing (kind : BlockKind)
deriving DecidableEq, Repr

/-- Why the text of a tag has no meaning. -/
inductive TagFault where
  | empty
  | unknownBlock (keyword : String)
  | missingPath (kind : BlockKind)
  | unknownClosing (keyword : String)
  | elseBranch
  | invalidPath (text : String)
deriving DecidableEq, Repr

/-- A text between the braces of a tag. -/
def braced (inside : String) : String :=
  "\x7b\x7b" ++ inside ++ "\x7d\x7d"

/-- A tag as messages show it. -/
def quotedTag (inside : String) : String :=
  "'" ++ braced inside ++ "'"

def TagFault.message : TagFault → String
  | empty => "empty tag " ++ quotedTag ""
  | unknownBlock keyword => "unsupported block directive " ++ quotedTag ("#" ++ keyword)
  | missingPath kind => quotedTag ("#" ++ kind.keyword) ++ " requires a path"
  | unknownClosing keyword => "unsupported closing tag " ++ quotedTag ("/" ++ keyword)
  | elseBranch => quotedTag "else" ++ " branches are not supported"
  | invalidPath text => "invalid path '" ++ text ++ "'"

namespace Tag

/-- What is written between the braces of the tag. -/
def inside : Tag → String
  | slot path => path.text
  | opening kind path => "#" ++ kind.keyword ++ " " ++ path.text
  | closing kind => "/" ++ kind.keyword

def text (tag : Tag) : String :=
  braced tag.inside

/-- The tag as messages show it. -/
def quoted (tag : Tag) : String :=
  quotedTag tag.inside

/-- The characters of a name in a path. Neither a brace nor a blank is one. -/
def isNameChar (c : Char) : Bool :=
  Text.isAlphanumeric c || c == '_' || c == '-' || c == '@' || c == '$'

def isName (s : List Char) : Bool :=
  !s.isEmpty && s.all isNameChar

/-- A path of a tag is made of names with one dot between them. -/
def isPath (s : List Char) : Bool :=
  let (first, others) := Path.splitDots s
  isName first && others.all isName

def readPath (s : List Char) : Except TagFault Path :=
  if isPath s then .ok (Path.ofChars s) else .error (.invalidPath (String.ofList s))

/-- The text before the first blank, and the text after it with no blanks at its ends. -/
def splitAtBlank (s : List Char) : List Char × List Char :=
  (s.takeWhile (!Text.isBlank ·), Text.trim (s.dropWhile (!Text.isBlank ·)))

def readOpening (s : List Char) : Except TagFault Tag :=
  let (keyword, path) := splitAtBlank (Text.trimStart s)
  match BlockKind.ofKeyword? keyword with
  | none => .error (.unknownBlock (String.ofList keyword))
  | some kind =>
    if path.isEmpty then .error (.missingPath kind)
    else (readPath path).map (.opening kind)

def readClosing (s : List Char) : Except TagFault Tag :=
  let keyword := Text.trim s
  match BlockKind.ofKeyword? keyword with
  | none => .error (.unknownClosing (String.ofList keyword))
  | some kind => .ok (.closing kind)

/-- The meaning of a tag whose text has no blanks at its ends. -/
def readTrimmed : List Char → Except TagFault Tag
  | [] => .error .empty
  | '#' :: s => readOpening s
  | '/' :: s => readClosing s
  | s => if s = "else".toList then .error .elseBranch else (readPath s).map .slot

/-- The meaning of what stands between the braces of a tag. -/
def read (inside : List Char) : Except TagFault Tag :=
  readTrimmed (Text.trim inside)

end Tag
end TripCards
