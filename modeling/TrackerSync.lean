import TrackerSync.Collection
import TrackerSync.CommandLine.Completion
import TrackerSync.CommandLine.Completion.Bash
import TrackerSync.CommandLine.Completion.Elvish
import TrackerSync.CommandLine.Completion.Fish
import TrackerSync.CommandLine.Completion.PowerShell
import TrackerSync.CommandLine.Completion.Zsh
import TrackerSync.CommandLine.Grammar
import TrackerSync.CommandLine.Help
import TrackerSync.CommandLine.Reading
import TrackerSync.Config
import TrackerSync.Decimal.Shortest
import TrackerSync.Detection.Basic
import TrackerSync.Detection.Codec
import TrackerSync.Disk
import TrackerSync.Entity.Kind
import TrackerSync.Entity.Local
import TrackerSync.Error
import TrackerSync.Hash.Sha256
import TrackerSync.Http.Exchange
import TrackerSync.Http.Percent
import TrackerSync.Http.Url
import TrackerSync.Json.Decode
import TrackerSync.Json.Parse
import TrackerSync.Json.Print
import TrackerSync.Json.Shape
import TrackerSync.Json.Value
import TrackerSync.Main
import TrackerSync.Normalized.Basic
import TrackerSync.Normalized.Record
import TrackerSync.Normalized.Timestamp
import TrackerSync.Program.Commands
import TrackerSync.Program.Host
import TrackerSync.Program.Invocation
import TrackerSync.Program.Render
import TrackerSync.Program.Run
import TrackerSync.Remote.Basic
import TrackerSync.Remote.Fetch
import TrackerSync.Remote.Tracker
import TrackerSync.Requests.Basic
import TrackerSync.Requests.Cli
import TrackerSync.Requests.Dispatch
import TrackerSync.Requests.Http
import TrackerSync.Requests.Normalizing
import TrackerSync.Requests.Remote
import TrackerSync.Requests.Reports
import TrackerSync.Requests.Scenario
import TrackerSync.Requests.Snapshots
import TrackerSync.Requests.Stores
import TrackerSync.Requests.Vocabulary
import TrackerSync.Snapshot.Basic
import TrackerSync.Snapshot.Codec
import TrackerSync.Snapshot.Fingerprint
import TrackerSync.Status
import TrackerSync.Store.Basic
import TrackerSync.Store.Query.Apply
import TrackerSync.Store.Query.Statement
import TrackerSync.Store.Row
import TrackerSync.Sync.Apply
import TrackerSync.Sync.Cache
import TrackerSync.Sync.Event
import TrackerSync.Sync.Links
import TrackerSync.Sync.Options
import TrackerSync.Sync.Plan
import TrackerSync.Sync.Report
import TrackerSync.Sync.Run
import TrackerSync.Sync.State
import TrackerSync.Sync.World
import TrackerSync.Table
import TrackerSync.Text.Blank
import TrackerSync.Text.Case
import TrackerSync.Text.Debug
import TrackerSync.Text.EditDistance
import TrackerSync.Text.Printable
import TrackerSync.Text.Similarity
import TrackerSync.Time.Instant
import TrackerSync.Time.Parse
import TrackerSync.Proofs.Snapshot.Writes
import TrackerSync.Proofs.Detection.Convergence
import TrackerSync.Proofs.Detection.Table
import TrackerSync.Proofs.Normalized.NormalForm
import TrackerSync.Proofs.Json.Reading
import TrackerSync.Proofs.Snapshot.Content
import TrackerSync.Proofs.Store.Batch
import TrackerSync.Proofs.Sync.Apply
import TrackerSync.Proofs.Sync.Shortcut
import TrackerSync.Proofs.Json.Records
import TrackerSync.Proofs.Sync.LinkTable
import TrackerSync.Proofs.Sync.Footprint
import TrackerSync.Proofs.Sync.DryRun
import TrackerSync.Proofs.Sync.Effects
import TrackerSync.Proofs.Store.Rows
import TrackerSync.Proofs.Sync.Process
import TrackerSync.Proofs.Sync.StoredRecords
import TrackerSync.Proofs.Sync.Failure
import TrackerSync.Proofs.Sync.Unlink
import TrackerSync.Proofs.Sync.Edits
import TrackerSync.Proofs.Text.Case
import TrackerSync.Proofs.Sync.Settle
import TrackerSync.Proofs.Store.Disciplines
import TrackerSync.Proofs.Sync.Accounting
import TrackerSync.Proofs.Sync.Imports
import TrackerSync.Proofs.Sync.Twins
import TrackerSync.Proofs.Sync.CacheHit
import TrackerSync.Proofs.Remote.Pages
import TrackerSync.Proofs.Store.Audit
import TrackerSync.Proofs.Text.Digits
import TrackerSync.Proofs.Time.Calendar
import TrackerSync.Proofs.Time.Reading
import TrackerSync.Proofs.Normalized.Mapping
import TrackerSync.Proofs.Snapshot.Codec
import TrackerSync.Proofs.Sync.Freshness
import TrackerSync.Proofs.Text.EditDistance
import TrackerSync.Proofs.Status.Resolution
import TrackerSync.Proofs.Http.LinkHeader
import TrackerSync.Proofs.Snapshot.Labels
import TrackerSync.Proofs.Snapshot.Lens
import TrackerSync.Proofs.Normalized.LocalWrites
