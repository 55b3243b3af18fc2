/-
What a shelf answers, what it is afterwards, and what is logged.

`Shelf.got` gives the answer to one request for a text, and the shelf after it, on a disk that
stands still meanwhile. Every other request is answered from that, and leaves the shelf as a request
for a text would, or as it was, or empty. Nothing but the log changes otherwise: `Shelf.run_reply`.
-/
import TripCards.Session

namespace TripCards

namespace Script

variable {α β : Type}

theorem run_pure (a : α) (w : World) : (pure a : Script α).run w = (a, w) := rfl

theorem run_andThen (script : Script α) (f : α → Script β) (w : World) :
    (script >>= f).run w = (f (script.run w).1).run (script.run w).2 :=
  run_bind script f w

end Script

/-- A machine with more lines in its log. -/
def World.noting (w : World) (lines : List LogLine) : World :=
  { w with logged := w.logged ++ lines }

namespace World

@[simp] theorem noting_disk (w : World) (lines : List LogLine) : (w.noting lines).disk = w.disk :=
  rfl

@[simp] theorem noting_nil (w : World) : w.noting [] = w := by
  rw [noting, List.append_nil]

@[simp] theorem noting_noting (w : World) (lines more : List LogLine) :
    (w.noting lines).noting more = w.noting (lines ++ more) := by
  simp only [noting, List.append_assoc]

end World

/-- The file whose text a request needs, as the shelf is asked for it. -/
def Request.wanted? : Request → Option FilePath
  | .render id _ => some (Catalog.fileOf id)
  | .renderOrFragment id _ => some (Catalog.fileOf id)
  | .load id => some (Catalog.fileOf id)
  | .get relative => some relative
  | .fill _ _ | .contains _ | .pathOf _ | .base | .clear => none

namespace Catalog

/-- What is logged when a card is looked for. -/
def warnings (id : String) : List LogLine :=
  if isKnown id then []
  else [⟨.warn, .registry, "Unknown template '" ++ id ++ "', falling back to 'gas-station'"⟩]

theorem run_resolve (id : String) (w : World) :
    (resolve id).run w = (fileOf id, w.noting (warnings id)) := by
  rw [resolve, warnings]
  split
  · rw [World.noting_nil]
    rfl
  · have text : "', falling back to '" ++ fallback.id ++ "'" =
        "', falling back to 'gas-station'" := rfl
    simp only [String.append_assoc, ← text]
    rfl

end Catalog

namespace Shelf

/-- The answer to a request for a text, and the shelf with what was read for it. -/
def got (shelf : Shelf) (disk : Disk) (relative : FilePath) :
    Except CardError String × Shelf :=
  let path := shelf.pathOf relative
  match shelf.find? path with
  | some text => (.ok text, shelf)
  | none =>
    match disk.readText path with
    | .ok text => (.ok text, shelf.keep path text)
    | .error .notFound => (.error (.notFound path), shelf)
    | .error e => (.error (.unreadable e), shelf)

def cleared (shelf : Shelf) : Shelf :=
  { shelf with texts := [] }

def template (shelf : Shelf) (disk : Disk) (id : String) : Except CardError Template :=
  (shelf.got disk (Catalog.fileOf id)).1.bind Template.parse

def card (shelf : Shelf) (disk : Disk) (id : String) (data : Fields) : Except CardError String :=
  (shelf.template disk id).bind (·.fill data)

def cardOrFragment (shelf : Shelf) (disk : Disk) (id : String) (data : Fields) : String :=
  match shelf.card disk id data with
  | .ok text => text
  | .error _ => fragment id

/-- The reply to a request. -/
def answer (shelf : Shelf) (disk : Disk) : Request → Reply
  | .render id data => .text (shelf.card disk id data)
  | .renderOrFragment id data => .text (.ok (shelf.cardOrFragment disk id data))
  | .fill source data => .text (fillSource source data)
  | .load id => .template (shelf.template disk id)
  | .get relative => .text (shelf.got disk relative).1
  | .contains relative => .truth (shelf.contains relative)
  | .pathOf relative => .path (shelf.pathOf relative)
  | .base => .path shelf.base
  | .clear => .nothing

/-- The shelf after a request. -/
def after (shelf : Shelf) (disk : Disk) : Request → Shelf
  | .clear => shelf.cleared
  | request =>
    match request.wanted? with
    | some relative => (shelf.got disk relative).2
    | none => shelf

/-- What is logged when a text is asked for that is not on the shelf. -/
def misses (shelf : Shelf) (relative : FilePath) : List LogLine :=
  match shelf.find? (shelf.pathOf relative) with
  | some _ => []
  | none => [⟨.debug, .cache, "Template cache miss: " ++ (shelf.pathOf relative).text⟩]

/-- What is logged about a card that cannot be made. -/
def complaints (shelf : Shelf) (disk : Disk) (id : String) (data : Fields) : List LogLine :=
  match shelf.card disk id data with
  | .ok _ => []
  | .error e =>
    [⟨.error, .renderer, "Template rendering error for '" ++ id ++ "': " ++ e.message⟩]

def loadLines (shelf : Shelf) (id : String) : List LogLine :=
  Catalog.warnings id ++ shelf.misses (Catalog.fileOf id)

/-- The lines that a request adds to the log. -/
def lines (shelf : Shelf) (disk : Disk) : Request → List LogLine
  | .render id _ | .load id => shelf.loadLines id
  | .renderOrFragment id data => shelf.loadLines id ++ shelf.complaints disk id data
  | .get relative => shelf.misses relative
  | .clear => [⟨.debug, .cache, "Invalidating " ++ toString shelf.size ++ " cached templates"⟩]
  | .fill _ _ | .contains _ | .pathOf _ | .base => []

theorem after_of_wanted {request : Request} {relative : FilePath} (shelf : Shelf) (disk : Disk)
    (wanted : request.wanted? = some relative) :
    shelf.after disk request = (shelf.got disk relative).2 := by
  cases request <;> cases wanted <;> rfl

theorem run_get (shelf : Shelf) (relative : FilePath) (w : World) :
    (shelf.get relative).run w = (shelf.got w.disk relative, w.noting (shelf.misses relative)) := by
  simp only [get, got, misses]
  cases shelf.find? (shelf.pathOf relative) with
  | some text =>
    rw [World.noting_nil]
    rfl
  | none =>
    simp only [Script.run]
    cases w.disk.readText (shelf.pathOf relative) with
    | ok text => rfl
    | error e => cases e <;> rfl

theorem run_load (shelf : Shelf) (id : String) (w : World) :
    (shelf.load id).run w =
      ((shelf.template w.disk id, (shelf.got w.disk (Catalog.fileOf id)).2),
        w.noting (shelf.loadLines id)) := by
  simp only [load, Script.run_andThen, Script.run_pure, run_get, Catalog.run_resolve,
    World.noting_noting, World.noting_disk]
  rfl

theorem run_render (shelf : Shelf) (id : String) (data : Fields) (w : World) :
    (shelf.render id data).run w =
      ((shelf.card w.disk id data, (shelf.got w.disk (Catalog.fileOf id)).2),
        w.noting (shelf.loadLines id)) := by
  simp only [render, Script.run_andThen, Script.run_pure, run_load]
  rfl

theorem run_renderOrFragment (shelf : Shelf) (id : String) (data : Fields) (w : World) :
    (shelf.renderOrFragment id data).run w =
      ((shelf.cardOrFragment w.disk id data, (shelf.got w.disk (Catalog.fileOf id)).2),
        w.noting (shelf.loadLines id ++ shelf.complaints w.disk id data)) := by
  simp only [renderOrFragment, Script.run_andThen, run_render, cardOrFragment, complaints]
  rw [← World.noting_noting]
  cases shelf.card w.disk id data with
  | ok text =>
    rw [World.noting_nil]
    rfl
  | error e => rfl

/-- A request is answered from the disk and the shelf as they are. Nothing else happens to the shelf
than a text that was read, or its being cleared, and nothing to the machine but for its log. -/
theorem run_reply (shelf : Shelf) (request : Request) (w : World) :
    (shelf.reply request).run w =
      ((shelf.answer w.disk request, shelf.after w.disk request),
        w.noting (shelf.lines w.disk request)) := by
  cases request with
  | render id data =>
    simp only [reply, Script.run_andThen, Script.run_pure, run_render]
    rfl
  | renderOrFragment id data =>
    simp only [reply, Script.run_andThen, Script.run_pure, run_renderOrFragment]
    rfl
  | load id =>
    simp only [reply, Script.run_andThen, Script.run_pure, run_load]
    rfl
  | get relative =>
    simp only [reply, Script.run_andThen, Script.run_pure, run_get]
    rfl
  | clear => rfl
  | fill | contains | pathOf | base =>
    rw [lines, World.noting_nil]
    rfl

theorem got_of_find? {shelf : Shelf} {relative : FilePath} {text : String} (disk : Disk)
    (h : shelf.find? (shelf.pathOf relative) = some text) :
    shelf.got disk relative = (.ok text, shelf) := by
  simp only [got, h]

theorem got_of_readText {shelf : Shelf} {disk : Disk} {relative : FilePath} {text : String}
    (missing : shelf.find? (shelf.pathOf relative) = none)
    (read : disk.readText (shelf.pathOf relative) = .ok text) :
    shelf.got disk relative = (.ok text, shelf.keep (shelf.pathOf relative) text) := by
  simp only [got, missing, read]

theorem got_of_error {shelf : Shelf} {disk : Disk} {relative : FilePath} {e : FileError}
    (missing : shelf.find? (shelf.pathOf relative) = none)
    (failed : disk.readText (shelf.pathOf relative) = .error e) :
    shelf.got disk relative =
      (.error (if e = .notFound then .notFound (shelf.pathOf relative) else .unreadable e),
        shelf) := by
  simp only [got, missing, failed]
  cases e <;> simp

/-- Without texts on the shelf the text of a file is the one it has. -/
theorem got_empty_of_readText {base : FilePath} {disk : Disk} {relative : FilePath} {text : String}
    (read : disk.readText (base.join relative) = .ok text) :
    ((empty base).got disk relative).1 = .ok text := by
  have missing : (empty base).find? ((empty base).pathOf relative) = none := rfl
  have located : disk.readText ((empty base).pathOf relative) = .ok text := read
  rw [got_of_readText missing located]

/-- A card is made from the text of its template as a template of one's own would be. -/
theorem card_eq (shelf : Shelf) (disk : Disk) (id : String) (data : Fields) :
    shelf.card disk id data =
      (shelf.got disk (Catalog.fileOf id)).1.bind fun text => fillSource text data := by
  rw [card, template]
  cases (shelf.got disk (Catalog.fileOf id)).1 with
  | error e => rfl
  | ok text =>
    show (Template.parse text).bind (·.fill data) = fillSource text data
    rw [fillSource]
    cases Template.parse text <;> rfl

theorem keep_base (shelf : Shelf) (path : FilePath) (text : String) :
    (shelf.keep path text).base = shelf.base := by
  unfold keep
  cases shelf.find? path <;> rfl

theorem got_base (shelf : Shelf) (disk : Disk) (relative : FilePath) :
    (shelf.got disk relative).2.base = shelf.base := by
  cases known : shelf.find? (shelf.pathOf relative) with
  | some text => rw [got_of_find? disk known]
  | none =>
      cases read : disk.readText (shelf.pathOf relative) with
      | ok text =>
          rw [got_of_readText known read]
          exact keep_base shelf _ text
      | error e => rw [got_of_error known read]

theorem after_base (shelf : Shelf) (disk : Disk) (request : Request) :
    (shelf.after disk request).base = shelf.base := by
  cases request with
  | render id data => exact got_base shelf disk _
  | renderOrFragment id data => exact got_base shelf disk _
  | load id => exact got_base shelf disk _
  | get relative => exact got_base shelf disk _
  | fill | contains | pathOf | base | clear => rfl

end Shelf
end TripCards
