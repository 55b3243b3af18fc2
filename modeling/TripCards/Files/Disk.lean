/-
A tree of files and folders, and what can be done with it.

A path is followed one segment at a time. Whatever is followed further has to be a folder, even
where the segment leads nowhere else: a file has neither `.` nor `..` in it, nor anything behind a
separator. Neither a name nor a path as it is spelled may be too long.
-/
import TripCards.Entries
import TripCards.Files.FilePath

namespace TripCards

inductive FileError where
  | notFound
  | notDirectory
  | isDirectory
  | alreadyExists
  | nameTooLong
  | notText
  | nulInName
  /-- What a real machine says beyond these. -/
  | other (report : String)
deriving DecidableEq, Repr

def FileError.message : FileError → String
  | notFound => "No such file or directory (os error 2)"
  | notDirectory => "Not a directory (os error 20)"
  | isDirectory => "Is a directory (os error 21)"
  | alreadyExists => "File exists (os error 17)"
  | nameTooLong => "File name too long (os error 36)"
  | notText => "stream did not contain valid UTF-8"
  | nulInName => "file name contained an unexpected NUL byte"
  | other report => report

inductive DiskEntry where
  | file (content : ByteArray)
  | folder (entries : List (String × DiskEntry))

/-- The tree, and the folder from which relative paths start. -/
structure Disk where
  root : DiskEntry
  current : List String

namespace DiskEntry

def isFolder : DiskEntry → Bool
  | folder _ => true
  | file _ => false

/-- What lies at a list of names inside of an entry. -/
def find? : DiskEntry → List String → Option DiskEntry
  | entry, [] => some entry
  | file _, _ :: _ => none
  | folder entries, name :: names =>
    match Entries.get? entries name with
    | some entry => entry.find? names
    | none => none

/-- The tree with `new` at a list of names. Nothing changes where the names lead through a file or
through what is not there. -/
def write (new : DiskEntry) : List String → DiskEntry → DiskEntry
  | [], _ => new
  | _ :: _, file content => file content
  | [name], folder entries => folder (Entries.put entries name new)
  | name :: names, folder entries =>
    match Entries.get? entries name with
    | some entry => folder (Entries.put entries name (write new names entry))
    | none => folder entries

def erase : List String → DiskEntry → DiskEntry
  | [], entry => entry
  | _ :: _, file content => file content
  | [name], folder entries => folder (entries.filter (·.1 != name))
  | name :: names, folder entries =>
    match Entries.get? entries name with
    | some entry => folder (Entries.put entries name (erase names entry))
    | none => folder entries

end DiskEntry

namespace Disk

/-- The names that are reached from the names `here` by one more segment. -/
def step (disk : Disk) (here : List String) (segment : String) :
    Except FileError (List String) :=
  match disk.root.find? here with
  | some (.folder entries) =>
      if segment.isEmpty || segment == "." then .ok here
      else if segment == ".." then .ok here.dropLast
      else if FilePath.nameIsTooLong segment then .error .nameTooLong
      else if Entries.has entries segment then .ok (here ++ [segment])
      else .error .notFound
  | _ => .error .notDirectory

def follow (disk : Disk) (absolute : Bool) (segments : List String) :
    Except FileError (List String) :=
  segments.foldlM disk.step (if absolute then [] else disk.current)

def hasNul (p : FilePath) : Bool :=
  p.text.toList.any (· == '\x00')

/-- What is wrong with a path as it is spelled, whatever it leads to. -/
def spellingFault? (p : FilePath) : Option FileError :=
  if hasNul p then some .nulInName
  else if p.text.isEmpty then some .notFound
  else if p.isTooLong then some .nameTooLong
  else none

/-- The names of what a path leads to. -/
def locate (disk : Disk) (p : FilePath) : Except FileError (List String) :=
  match spellingFault? p with
  | some e => .error e
  | none => disk.follow p.isAbsolute p.segments

def isPresent (disk : Disk) (p : FilePath) : Bool :=
  (disk.locate p).isOk

def isFolder (disk : Disk) (p : FilePath) : Bool :=
  match disk.locate p with
  | .ok names => (disk.root.find? names).any DiskEntry.isFolder
  | .error _ => false

def readBytes (disk : Disk) (p : FilePath) : Except FileError ByteArray :=
  match disk.locate p with
  | .error e => .error e
  | .ok names =>
    match disk.root.find? names with
    | some (.file content) => .ok content
    | some (.folder _) => .error .isDirectory
    | none => .error .notFound

def textOfBytes (content : ByteArray) : Except FileError String :=
  match String.fromUTF8? content with
  | some text => .ok text
  | none => .error .notText

def readText (disk : Disk) (p : FilePath) : Except FileError String :=
  match disk.readBytes p with
  | .error e => .error e
  | .ok content => textOfBytes content

/-- Where something new would be: the names of its folder, its own name, and whether a separator
follows that name. No name is left for a path that ends in a dot segment or is the root. -/
structure Destination where
  folder : List String
  name? : Option String
  asFolder : Bool
deriving DecidableEq, Repr

def destination (disk : Disk) (p : FilePath) : Except FileError Destination :=
  match spellingFault? p with
  | some e => .error e
  | none =>
    let backwards := p.segments.reverse
    let asFolder := backwards.head? == some ""
    match backwards.dropWhile String.isEmpty with
    | [] => .ok ⟨[], none, true⟩
    | last :: before =>
      if last == "." || last == ".." then
        match disk.follow p.isAbsolute p.segments with
        | .error e => .error e
        | .ok names => .ok ⟨names, none, true⟩
      else
        match disk.follow p.isAbsolute before.reverse with
        | .error e => .error e
        | .ok names =>
          match disk.root.find? names with
          | some (.folder _) => .ok ⟨names, some last, asFolder⟩
          | _ => .error .notDirectory

/-- A new folder with nothing in it. -/
def createFolder (disk : Disk) (p : FilePath) : Except FileError Disk :=
  match disk.destination p with
  | .error e => .error e
  | .ok ⟨folder, name?, _⟩ =>
    match name? with
    | none => .error .alreadyExists
    | some name =>
      if FilePath.nameIsTooLong name then .error .nameTooLong
      else
        match disk.root.find? (folder ++ [name]) with
        | some _ => .error .alreadyExists
        | none => .ok { disk with root := (DiskEntry.folder []).write (folder ++ [name]) disk.root }

/-- A folder for the first path, and for each of the others that is needed for it. What was made
stays, also where that fails. -/
def createFoldersOf (disk : Disk) : List FilePath → Except FileError Unit × Disk
  | [] => (.ok (), disk)
  | p :: outer =>
    match disk.createFolder p with
    | .ok disk => (.ok (), disk)
    | .error .notFound =>
      match disk.createFoldersOf outer with
      | (.error e, disk) => (.error e, disk)
      | (.ok (), disk) =>
        match disk.createFolder p with
        | .ok disk => (.ok (), disk)
        | .error e => (if disk.isFolder p then .ok () else .error e, disk)
    | .error e => (if disk.isFolder p then .ok () else .error e, disk)

/-- A folder at the path and around it, where there are none. -/
def createFolders (disk : Disk) (p : FilePath) : Except FileError Unit × Disk :=
  disk.createFoldersOf p.ancestors

/-- A file of these bytes in a folder that is there, in the place of a file of that name. -/
def writeBytes (disk : Disk) (p : FilePath) (content : ByteArray) : Except FileError Disk :=
  match disk.destination p with
  | .error e => .error e
  | .ok ⟨folder, name?, asFolder⟩ =>
    match name? with
    | none => .error .isDirectory
    | some name =>
      if asFolder then .error .isDirectory
      else if FilePath.nameIsTooLong name then .error .nameTooLong
      else
        match disk.root.find? (folder ++ [name]) with
        | some (.folder _) => .error .isDirectory
        | _ => .ok { disk with root := (DiskEntry.file content).write (folder ++ [name]) disk.root }

def writeText (disk : Disk) (p : FilePath) (text : String) : Except FileError Disk :=
  disk.writeBytes p text.toUTF8

/-- The tree without a file, or without a folder and all that is in it. -/
def remove (disk : Disk) (p : FilePath) : Except FileError Disk :=
  match disk.locate p with
  | .error e => .error e
  | .ok names => .ok { disk with root := disk.root.erase names }

end Disk
end TripCards
