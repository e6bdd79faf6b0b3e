import PickupLedger.Text.Blank
import PickupLedger.Text.Digits
import PickupLedger.Text.Quoted
import PickupLedger.Decimal.Shortest
import PickupLedger.Uuid
import PickupLedger.Time.Written
import PickupLedger.Time.Reading
import PickupLedger.Json.Draft
import PickupLedger.PickupPoint
import PickupLedger.Reception
import PickupLedger.Product
import PickupLedger.Page
import PickupLedger.Failure
import PickupLedger.Store.InMemory
import PickupLedger.Database.Migration
import PickupLedger.Database.Answers
import PickupLedger.Service.Receptions
import PickupLedger.Service.Overview
import PickupLedger.Json.Shape
import PickupLedger.Json.Form
import PickupLedger.Store.Rehearsed
import PickupLedger.Http.Percent
import PickupLedger.Http.MediaType
import PickupLedger.Http.Message
import PickupLedger.Http.Views
import PickupLedger.Http.Requests
import PickupLedger.Http.Resource
import PickupLedger.Http.Metrics
import PickupLedger.Http.Handler
import PickupLedger.Text.Pieces
import PickupLedger.Json.Whole
import PickupLedger.Json.Pointer
import PickupLedger.Http.Server
import PickupLedger.Http.Transport
import PickupLedger.Toml.Document
import PickupLedger.Settings.Basic
import PickupLedger.Settings.Document
import PickupLedger.Settings.Form
import PickupLedger.Settings.Place
import PickupLedger.Shutdown.Signal
import PickupLedger.Shutdown.Coordinator
import PickupLedger.Text.Integer
import PickupLedger.CommandLine.Help
import PickupLedger.CommandLine.Plan
import PickupLedger.Main
import PickupLedger.Proofs.Books
import PickupLedger.Proofs.InMemoryBooks
import PickupLedger.Proofs.DatabaseBooks
import PickupLedger.Proofs.Programs
import PickupLedger.Proofs.Requests
import PickupLedger.Proofs.Accounts
import PickupLedger.Proofs.Conduct
import PickupLedger.Proofs.Interleaving
import PickupLedger.Proofs.Backends
import PickupLedger.Proofs.Sessions
import PickupLedger.Proofs.ProductGate
import PickupLedger.Proofs.ClosedReceptions
import PickupLedger.Proofs.Ledger
import PickupLedger.Proofs.LedgerBooks
import PickupLedger.Proofs.Sequence
import PickupLedger.Proofs.Moments
import PickupLedger.Proofs.Conservation
import PickupLedger.Proofs.Counting
import PickupLedger.Proofs.Census
import PickupLedger.Proofs.Courses
import PickupLedger.Proofs.Listings
import PickupLedger.Proofs.Reasons
import PickupLedger.Proofs.InMemoryLists
import PickupLedger.Proofs.Nesting
import PickupLedger.Proofs.OverviewView
import PickupLedger.Proofs.Calendar
import PickupLedger.Proofs.StoredTimes
import PickupLedger.Proofs.TimesReadBack
import PickupLedger.Proofs.DatabaseLists
import PickupLedger.Proofs.Portability
import PickupLedger.Proofs.Interchange
import PickupLedger.Proofs.Progress
import PickupLedger.Proofs.History
import PickupLedger.Proofs.Dialogues
import PickupLedger.Proofs.LastWrites
import PickupLedger.Proofs.RefusedWrites
import PickupLedger.Proofs.Inquiries
import PickupLedger.Proofs.FailedOperations
import PickupLedger.Proofs.Envelopes
import PickupLedger.Proofs.StorageFailures
import PickupLedger.Proofs.MigrationSteps
import PickupLedger.Proofs.MigrationPaths
import PickupLedger.Proofs.OverviewPages
import PickupLedger.Proofs.YearsInLine
import PickupLedger.Proofs.Stacks
import PickupLedger.Proofs.StackedLedger
import PickupLedger.Proofs.LastInFirstOut
import PickupLedger.Proofs.WakeUps
import PickupLedger.Proofs.ActiveIndex
import PickupLedger.Proofs.OverviewGrowth
import PickupLedger.Proofs.JsonReadBack
import PickupLedger.Proofs.ShapesReadBack
import PickupLedger.Proofs.DataReadBack
import PickupLedger.Proofs.RowOrder
import PickupLedger.Proofs.OnePoint
import PickupLedger.Proofs.Neighbours
import PickupLedger.Proofs.Timelines
import PickupLedger.Proofs.StatusMoves
import PickupLedger.Proofs.AddedRecords
import PickupLedger.Proofs.CountedRequests
import PickupLedger.Proofs.TomlIntegers
import PickupLedger.Proofs.TomlReadBack
import PickupLedger.Proofs.SettingsOverlay
import PickupLedger.Proofs.UsedSettings
