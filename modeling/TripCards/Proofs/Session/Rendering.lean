/-
What a renderer does with a card, in terms of the text of its template.

A renderer fills a card from the text that it has for the file of the card, as it would fill a
template of one's own, and afterwards its shelf is as if that text alone had been asked for. A card
that cannot be made is replaced by a fragment, and that is logged as an error. This holds after
every run, whatever is on the shelf then: `Session.rendersByFile_run`.
-/
import TripCards.Proofs.Session.Remembering

namespace TripCards

/-- The lines of one level. -/
def LogLine.ofLevel (level : LogLevel) (lines : List LogLine) : List LogLine :=
  lines.filter (·.level = level)

theorem LogLine.ofLevel_append (level : LogLevel) (lines more : List LogLine) :
    ofLevel level (lines ++ more) = ofLevel level lines ++ ofLevel level more :=
  List.filter_append lines more

namespace Catalog

theorem isKnown_iff {id : String} : isKnown id = true ↔ id ∈ ids := by
  rw [isKnown, find?, List.find?_isSome, ids, List.mem_map]
  simp only [beq_iff_eq]

theorem fileOf_of_mem {card : CardKind} (mem : card ∈ cards) : fileOf card.id = card.file := by
  have all : ∀ card ∈ cards, fileOf card.id = card.file := by
    simp only [cards, List.forall_mem_cons]
    refine ⟨rfl, rfl, rfl, rfl, rfl, rfl, ?_⟩
    exact List.forall_mem_nil _
  exact all card mem

/-- A name that is not known has the file of the first card. -/
theorem fileOf_of_not_mem {id : String} (unknown : id ∉ ids) : fileOf id = gasStation.file := by
  have missing : find? id = none := by
    rw [← Option.not_isSome_iff_eq_none]
    exact fun found => unknown (isKnown_iff.mp found)
  rw [fileOf, missing]
  rfl

theorem warnings_of_mem {id : String} (known : id ∈ ids) : warnings id = [] := by
  rw [warnings, if_pos (isKnown_iff.mpr known)]

theorem warnings_of_not_mem {id : String} (unknown : id ∉ ids) :
    warnings id =
      [⟨.warn, .registry, "Unknown template '" ++ id ++ "', falling back to 'gas-station'"⟩] := by
  rw [warnings, if_neg (fun found => unknown (isKnown_iff.mp found))]

end Catalog

namespace Shelf

open LogLine

variable (shelf : Shelf) (disk : Disk) (id : String) (data : Fields)

theorem ofLevel_loadLines (level : LogLevel) (grave : level ≠ .debug) :
    ofLevel level (shelf.loadLines id) = ofLevel level (Catalog.warnings id) := by
  have misses : ofLevel level (shelf.misses (Catalog.fileOf id)) = [] := by
    rw [Shelf.misses]
    split
    · rfl
    · simp [ofLevel, grave.symm]
  rw [loadLines, ofLevel_append, misses, List.append_nil]

theorem errors_renderOrFragment :
    ofLevel .error (shelf.lines disk (.renderOrFragment id data)) =
      shelf.complaints disk id data := by
  have warnings : ofLevel .error (Catalog.warnings id) = [] := by
    rw [Catalog.warnings]
    split <;> rfl
  have complaints : ofLevel .error (shelf.complaints disk id data) =
      shelf.complaints disk id data := by
    rw [Shelf.complaints]
    split <;> rfl
  rw [lines, ofLevel_append, ofLevel_loadLines _ _ _ (by decide), warnings, complaints,
    List.nil_append]

theorem warnings_renderOrFragment :
    ofLevel .warn (shelf.lines disk (.renderOrFragment id data)) = Catalog.warnings id := by
  have warnings : ofLevel .warn (Catalog.warnings id) = Catalog.warnings id := by
    rw [Catalog.warnings]
    split <;> rfl
  have complaints : ofLevel .warn (shelf.complaints disk id data) = [] := by
    rw [Shelf.complaints]
    split <;> rfl
  rw [lines, ofLevel_append, ofLevel_loadLines _ _ _ (by decide), warnings, complaints,
    List.append_nil]

/-- A name that is not known makes the card of the gas station. -/
theorem card_of_not_mem {id : String} (unknown : id ∉ Catalog.ids) :
    shelf.card disk id data = shelf.card disk "gas-station" data := by
  rw [card_eq, card_eq, Catalog.fileOf_of_not_mem unknown]
  rfl

end Shelf

namespace Session

open LogLine

/-- The lines that asking a renderer adds to the log. -/
def logOf (session : Session) (renderer : Nat) (request : Request) : List LogLine :=
  (session.step (.ask renderer request)).2.1

/-- A renderer makes a card by the text that it has for the file of the card. -/
structure RendersByFile (session : Session) (renderer : Nat) (id : String) (data : Fields) :
    Prop where
  file_of_known : ∀ card ∈ Catalog.cards, card.id = id → Catalog.fileOf id = card.file
  file_of_unknown : id ∉ Catalog.ids → Catalog.fileOf id = Catalog.gasStation.file
  /-- A card fails as its text does, and is filled from that otherwise. -/
  filled : ∃ text, session.replyTo renderer (.get (Catalog.fileOf id)) = .text text ∧
    (∀ e, text = .error e → session.replyTo renderer (.render id data) = .text (.error e)) ∧
    ∀ source, text = .ok source →
      session.replyTo renderer (.render id data) = session.replyTo renderer (.fill source data)
  /-- With a fragment to take its place a card does not fail. One error is logged if that has to,
  and otherwise none. -/
  shown : ∃ card, session.replyTo renderer (.render id data) = .text card ∧
    (∀ text, card = .ok text →
      session.replyTo renderer (.renderOrFragment id data) = .text (.ok text) ∧
      ofLevel .error (session.logOf renderer (.renderOrFragment id data)) = []) ∧
    ∀ e, card = .error e →
      session.replyTo renderer (.renderOrFragment id data) =
        .text (.ok ("<div class=\"error\">Template rendering failed: " ++
          (Catalog.fileOf id).text ++ "</div>")) ∧
      ofLevel .error (session.logOf renderer (.renderOrFragment id data)) =
        [⟨.error, .renderer, "Template rendering error for '" ++ id ++ "': " ++ e.message⟩]
  /-- What is on the shelf afterwards is there for the sake of that text. -/
  after_render : session.afterAsking renderer (.render id data) =
    session.afterAsking renderer (.get (Catalog.fileOf id))
  after_renderOrFragment : session.afterAsking renderer (.renderOrFragment id data) =
    session.afterAsking renderer (.render id data)
  known : id ∈ Catalog.ids →
    ofLevel .warn (session.logOf renderer (.renderOrFragment id data)) = []
  /-- A name that is not known stands for the gas station, and there is one warning. -/
  unknown : id ∉ Catalog.ids →
    session.replyTo renderer (.render id data) =
      session.replyTo renderer (.render "gas-station" data) ∧
    session.afterAsking renderer (.render id data) =
      session.afterAsking renderer (.render "gas-station" data) ∧
    ofLevel .warn (session.logOf renderer (.renderOrFragment id data)) =
      [⟨.warn, .registry, "Unknown template '" ++ id ++ "', falling back to 'gas-station'"⟩]

section

variable {session : Session} {renderer index : Nat} {shelf : Shelf}

theorem logOf_eq (works : session.shelfOf? renderer = some (index, shelf)) (request : Request) :
    session.logOf renderer request = shelf.lines session.disk request := by
  simp only [logOf, step, works, Shelf.run_reply]
  exact List.nil_append _

/-- Requests that want the text of one file leave the same behind. -/
theorem afterAsking_eq_of_wanted (works : session.shelfOf? renderer = some (index, shelf))
    {request other : Request} {relative : FilePath} (wanted : request.wanted? = some relative)
    (wantedToo : other.wanted? = some relative) :
    session.afterAsking renderer request = session.afterAsking renderer other := by
  rw [afterAsking_eq works, afterAsking_eq works, Shelf.after_of_wanted _ _ wanted,
    Shelf.after_of_wanted _ _ wantedToo]

theorem rendersByFile_of_shelf (works : session.shelfOf? renderer = some (index, shelf))
    (id : String) (data : Fields) : session.RendersByFile renderer id data where
  file_of_known card mem isId := by
    rw [← isId]
    exact Catalog.fileOf_of_mem mem
  file_of_unknown := Catalog.fileOf_of_not_mem
  filled := by
    refine ⟨_, replyTo_eq works _, ?_, ?_⟩
    · intro e failed
      rw [replyTo_eq works, Shelf.answer, Shelf.card_eq, failed]
      rfl
    · intro source got
      rw [replyTo_eq works, replyTo_eq works, Shelf.answer, Shelf.card_eq, got]
      rfl
  shown := by
    refine ⟨_, replyTo_eq works _, ?_, ?_⟩
    · intro text made
      rw [replyTo_eq works, logOf_eq works, Shelf.errors_renderOrFragment, Shelf.answer,
        Shelf.cardOrFragment, Shelf.complaints, made]
      exact ⟨rfl, rfl⟩
    · intro e failed
      rw [replyTo_eq works, logOf_eq works, Shelf.errors_renderOrFragment, Shelf.answer,
        Shelf.cardOrFragment, Shelf.complaints, failed]
      exact ⟨rfl, rfl⟩
  after_render := afterAsking_eq_of_wanted works rfl rfl
  after_renderOrFragment := afterAsking_eq_of_wanted works rfl rfl
  known isKnown := by
    rw [logOf_eq works, Shelf.warnings_renderOrFragment, Catalog.warnings_of_mem isKnown]
  unknown isUnknown := by
    have isFile : Catalog.fileOf id = Catalog.fileOf "gas-station" :=
      Catalog.fileOf_of_not_mem isUnknown
    refine ⟨?_, afterAsking_eq_of_wanted works (congrArg some isFile) rfl, ?_⟩
    · rw [replyTo_eq works, replyTo_eq works, Shelf.answer,
        Shelf.card_of_not_mem shelf session.disk data isUnknown]
      rfl
    · rw [logOf_eq works, Shelf.warnings_renderOrFragment, Catalog.warnings_of_not_mem isUnknown]

end

/-- After every run a renderer makes cards by the texts of their files. -/
theorem rendersByFile_run (disk : Disk) (base : FilePath) (steps : List SessionStep)
    (renderer index : Nat)
    (works : ((start disk base).run steps).renderers[renderer]? = some index) (id : String)
    (data : Fields) : ((start disk base).run steps).RendersByFile renderer id data := by
  have follows := (Follows.start disk base).run steps
  have bound := follows.renderers_lt index (List.mem_of_getElem? works)
  have held := List.getElem?_eq_getElem bound
  exact rendersByFile_of_shelf (shelfOf?_eq_some_iff.mpr ⟨works, held⟩) id data

/-- A folder with a template that has a closing tag alone. -/
def strayCard : Disk :=
  ⟨.folder [("recommendation", .folder [("gas-station.html", .file "\x7b\x7b/if\x7d\x7d".toUTF8)])],
    []⟩

/-- The template is loaded and then removed, and a clone is made after that. -/
def loadThenRemove : List SessionStep :=
  [.ask 0 (.load "gas-station"), .remove ⟨"/recommendation/gas-station.html"⟩, .clone 0]

/-- The clone is asked for a card by a name that is not known. The text on the shelf has no file any
more, and is no template. -/
theorem rendersByFile_strayCard :
    let session := (start strayCard ⟨"/"⟩).run loadThenRemove
    let logged := session.logOf 1 (.renderOrFragment "gsa" [])
    session.renderers[1]? = some 0 ∧
      session.disk.readText ⟨"/recommendation/gas-station.html"⟩ = .error .notFound ∧
      session.replyTo 1 (.render "gsa" []) =
        .text (.error (.badTemplate ⟨.strayClosing .conditional, ⟨1, 1⟩⟩)) ∧
      session.replyTo 1 (.renderOrFragment "gsa" []) =
        .text (.ok ("<div class=\"error\">Template rendering failed: " ++
          "recommendation/gas-station.html" ++ "</div>")) ∧
      (LogLine.ofLevel .error logged).length = 1 ∧ (LogLine.ofLevel .warn logged).length = 1 := by
  intro session logged
  have works : session.renderers[1]? = some 0 := rfl
  have held : session.replyTo 1 (.get ⟨"recommendation/gas-station.html"⟩) =
      .text (.ok "\x7b\x7b/if\x7d\x7d") := rfl
  have fillsNot : fillSource "\x7b\x7b/if\x7d\x7d" [] =
      .error (.badTemplate ⟨.strayClosing .conditional, ⟨1, 1⟩⟩) := by cbv
  have unknown : "gsa" ∉ Catalog.ids := by decide
  have renders := rendersByFile_run strayCard ⟨"/"⟩ loadThenRemove 1 0 works "gsa" []
  have isFile : Catalog.fileOf "gsa" = ⟨"recommendation/gas-station.html"⟩ :=
    renders.file_of_unknown unknown
  obtain ⟨text, got, -, filled⟩ := renders.filled
  obtain ⟨card, made, -, replaced⟩ := renders.shown
  rw [isFile] at got replaced
  have fails : session.replyTo 1 (.render "gsa" []) =
      .text (.error (.badTemplate ⟨.strayClosing .conditional, ⟨1, 1⟩⟩)) := by
    rw [filled _ (Reply.text.inj (got.symm.trans held)), ← fillsNot]
    rfl
  obtain ⟨shown, errors⟩ := replaced _ (Reply.text.inj (made.symm.trans fails))
  obtain ⟨-, -, warnings⟩ := renders.unknown unknown
  refine ⟨works, by decide +kernel, fails, shown, ?_, ?_⟩
  · rw [errors]
    rfl
  · rw [warnings]
    rfl

end Session
end TripCards
