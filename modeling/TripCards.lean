import TripCards.Catalog.Shipped
import TripCards.Main
import TripCards.Session
import TripCards.Proofs.Scope.Merged
import TripCards.Proofs.Template.Copying
import TripCards.Proofs.Template.Cutting
import TripCards.Proofs.Template.Grammar
import TripCards.Proofs.Template.Tiling
import TripCards.Proofs.Template.Balance
import TripCards.Proofs.Shelf.Answers
import TripCards.Proofs.Shelf.Keeping
import TripCards.Proofs.Session.History
import TripCards.Proofs.Session.Remembering
import TripCards.Proofs.Scope.Retexted
import TripCards.Proofs.Number.Value
import TripCards.Proofs.Schema.Acceptance
import TripCards.Proofs.Template.Tracing
import TripCards.Proofs.Schema.Traversal
import TripCards.Proofs.Schema.Reporting
import TripCards.Proofs.Files.Spelling
import TripCards.Proofs.Session.Standing
import TripCards.Proofs.Template.Filling
import TripCards.Proofs.Template.Foresight
import TripCards.Proofs.Template.Joined
import TripCards.Proofs.Schema.Defaults
import TripCards.Proofs.Catalog.Filling
import TripCards.Proofs.Entries.Distinct
import TripCards.Proofs.Template.Names
import TripCards.Proofs.Number.Same
import TripCards.Proofs.Value.Alike
import TripCards.Proofs.Catalog.Sameness
import TripCards.Proofs.Template.Rewritten
import TripCards.Proofs.Text.Locating
import TripCards.Proofs.Template.Misspelling
import TripCards.Proofs.Template.Faults
import TripCards.Proofs.Json.Distinct
import TripCards.Proofs.Template.Composing
import TripCards.Proofs.Template.Missing
import TripCards.Proofs.Scope.Layers
import TripCards.Proofs.Template.Pairing
import TripCards.Proofs.Json.Standing
import TripCards.Proofs.Number.Shown
import TripCards.Proofs.Commands.Layers
import TripCards.Proofs.Files.Writing
import TripCards.Proofs.Commands.Leaving
import TripCards.Proofs.Commands.Checking
import TripCards.Proofs.Commands.Inlining
import TripCards.Proofs.Session.Rendering
import TripCards.Proofs.Template.Placing
import TripCards.Proofs.Template.Suspecting
import TripCards.Proofs.Commands.Warning
import TripCards.Proofs.Settings.Precedence
import TripCards.Proofs.Template.Descending
