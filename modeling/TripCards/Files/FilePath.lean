/-
Paths of files, as they are spelled.

Two spellings are the same path when their components agree: doubled separators, separators at the
end, and single dots other than a leading one make no difference.
-/

namespace TripCards

structure FilePath where
  text : String
deriving DecidableEq, Repr

namespace FilePath

/-- The parts of a text between its separators. -/
def splitAtSlash : List Char → List Char × List (List Char)
  | [] => ([], [])
  | c :: s =>
      let (first, others) := splitAtSlash s
      if c = '/' then ([], first :: others) else (c :: first, others)

def segments (p : FilePath) : List String :=
  let (first, others) := splitAtSlash p.text.toList
  String.ofList first :: others.map String.ofList

def isAbsolute (p : FilePath) : Bool :=
  p.text.toList.head? == some '/'

/-- A relative path is put behind a separator, unless there is one already or nothing before it. An
absolute path stands for itself. -/
def join (base relative : FilePath) : FilePath :=
  if relative.isAbsolute then relative
  else if base.text.isEmpty || base.text.toList.getLast? == some '/' then
    ⟨base.text ++ relative.text⟩
  else ⟨base.text ++ "/" ++ relative.text⟩

/-- A path of more bytes than this is not looked for. -/
def mostBytes : Nat := 4095

def isTooLong (p : FilePath) : Bool :=
  mostBytes < p.text.utf8ByteSize

/-- A name of more bytes than this is nowhere. -/
def mostBytesOfName : Nat := 255

def nameIsTooLong (name : String) : Bool :=
  mostBytesOfName < name.utf8ByteSize

inductive Component where
  | root
  | here
  | up
  | name (name : String)
deriving DecidableEq, Repr

/-- The component of a segment that is not the first one. -/
def Component.ofSegment? (s : String) : Option Component :=
  if s.isEmpty || s == "." then none
  else if s == ".." then some .up
  else some (.name s)

/-- A dot counts where it leads a relative path. -/
def components (p : FilePath) : List Component :=
  match p.segments with
  | [] => []
  | first :: others =>
    let later := others.filterMap Component.ofSegment?
    if p.isAbsolute then .root :: later
    else if first == "." then .here :: later
    else (Component.ofSegment? first).toList ++ later

def ofSegments (segments : List String) : FilePath :=
  ⟨"/".intercalate segments⟩

/-- Segments from the last one back, without those at the end that are no component. The first
segment counts whatever it is. -/
def trimSegments : List String → List String
  | [] => []
  | [first] => [first]
  | s :: rest => if (Component.ofSegment? s).isNone then trimSegments rest else s :: rest

/-- The path without its last component; nothing for a path that has no component to lose. -/
def parent (p : FilePath) : Option FilePath :=
  match trimSegments p.segments.reverse with
  | [] => none
  | [first] => if first.isEmpty then none else some ⟨""⟩
  | _ :: rest =>
    let kept := ofSegments (trimSegments rest).reverse
    some (if p.isAbsolute && kept.text.isEmpty then ⟨"/"⟩ else kept)

/-- The path and what it lies in, from the inside out, as far as a path that is spelled by nothing
or is the root. `depth` bounds their number. -/
def ancestorsUpTo (depth : Nat) (p : FilePath) : List FilePath :=
  match depth with
  | 0 => []
  | depth + 1 =>
    if p.text.isEmpty then []
    else
      match p.parent with
      | none => [p]
      | some outer => p :: ancestorsUpTo depth outer

def ancestors (p : FilePath) : List FilePath :=
  ancestorsUpTo p.segments.length p

end FilePath
end TripCards
