/-
A run of requests to renderers while the files under them change.

Each renderer works from a shelf. A clone works from the same shelf as the renderer it was made
from, a new one from a shelf of its own.
-/
import TripCards.Shelf

namespace TripCards

/-- What a renderer is asked. -/
inductive Request where
  | render (id : String) (data : Fields)
  | renderOrFragment (id : String) (data : Fields)
  | fill (source : String) (data : Fields)
  | load (id : String)
  | get (relative : FilePath)
  | contains (relative : FilePath)
  | pathOf (relative : FilePath)
  | base
  | clear

inductive Reply where
  | nothing
  | text (result : Except CardError String)
  | template (result : Except CardError Template)
  | truth (b : Bool)
  | path (p : FilePath)
  | count (n : Nat)

def Shelf.reply (shelf : Shelf) : Request → Script (Reply × Shelf)
  | .render id data => do
    let (card, shelf) ← shelf.render id data
    return (.text card, shelf)
  | .renderOrFragment id data => do
    let (card, shelf) ← shelf.renderOrFragment id data
    return (.text (.ok card), shelf)
  | .fill source data => return (.text (fillSource source data), shelf)
  | .load id => do
    let (template, shelf) ← shelf.load id
    return (.template template, shelf)
  | .get relative => do
    let (text, shelf) ← shelf.get relative
    return (.text text, shelf)
  | .contains relative => return (.truth (shelf.contains relative), shelf)
  | .pathOf relative => return (.path (shelf.pathOf relative), shelf)
  | .base => return (.path shelf.base, shelf)
  | .clear => do
    let shelf ← shelf.clear
    return (.nothing, shelf)

/-- The shelves, and for each renderer which of them it works from. -/
structure Session where
  disk : Disk
  shelves : List Shelf
  renderers : List Nat

inductive SessionStep where
  | write (path : FilePath) (content : ByteArray)
  | makeFolder (path : FilePath)
  | remove (path : FilePath)
  | ask (renderer : Nat) (request : Request)
  | clone (renderer : Nat)
  | add (base : FilePath)

namespace Disk

/-- The disk with a file, and with the folders that it needs. Nothing changes where that cannot
be. -/
def withFile (disk : Disk) (path : FilePath) (content : ByteArray) : Disk :=
  let (made, prepared) := match path.parent with
    | some outer => disk.createFolders outer
    | none => (.ok (), disk)
  match made.bind fun _ => prepared.writeBytes path content with
  | .ok disk => disk
  | .error _ => disk

def withFolder (disk : Disk) (path : FilePath) : Disk :=
  match disk.createFolders path with
  | (.ok _, disk) => disk
  | (.error _, _) => disk

def without (disk : Disk) (path : FilePath) : Disk :=
  match disk.remove path with
  | .ok disk => disk
  | .error _ => disk

end Disk

namespace Session

def start (disk : Disk) (base : FilePath) : Session :=
  ⟨disk, [Shelf.empty base], [0]⟩

def shelfOf? (session : Session) (renderer : Nat) : Option (Nat × Shelf) :=
  match session.renderers[renderer]? with
  | none => none
  | some index => (session.shelves[index]?).map (index, ·)

/-- The reply to one step, what was logged for it, and the session afterwards. -/
def step (session : Session) : SessionStep → Reply × List LogLine × Session
  | .write path content =>
    (.nothing, [], { session with disk := session.disk.withFile path content })
  | .makeFolder path => (.nothing, [], { session with disk := session.disk.withFolder path })
  | .remove path => (.nothing, [], { session with disk := session.disk.without path })
  | .ask renderer request =>
    match session.shelfOf? renderer with
    | none => (.nothing, [], session)
    | some (index, shelf) =>
      let ((reply, shelf), world) := (shelf.reply request).run (World.fresh session.disk)
      (reply, world.logged, { session with shelves := session.shelves.set index shelf })
  | .clone renderer =>
    match session.renderers[renderer]? with
    | none => (.nothing, [], session)
    | some index =>
      let renderers := session.renderers ++ [index]
      (.count renderers.length, [], { session with renderers })
  | .add base =>
    let shelves := session.shelves ++ [Shelf.empty base]
    let renderers := session.renderers ++ [session.shelves.length]
    (.count renderers.length, [], { session with shelves, renderers })

/-- How many texts the shelf of a renderer holds. -/
def cached (session : Session) (renderer : Nat) : Nat :=
  match session.shelfOf? renderer with
  | none => 0
  | some (_, shelf) => shelf.size

end Session
end TripCards
