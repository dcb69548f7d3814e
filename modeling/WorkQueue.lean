import WorkQueue.Alert
import WorkQueue.Backend
import WorkQueue.Backoff
import WorkQueue.Binary64
import WorkQueue.Binary64.Reader
import WorkQueue.Binary64.Shortest
import WorkQueue.CommandLine
import WorkQueue.CommandLine.Grammar
import WorkQueue.CommandLine.Help
import WorkQueue.CommandLine.Logging
import WorkQueue.CommandLine.Program
import WorkQueue.Database.Connection
import WorkQueue.Database.Migration
import WorkQueue.Database.Opening
import WorkQueue.Database.Script
import WorkQueue.Database.Session
import WorkQueue.Database.Statement
import WorkQueue.Database.Store
import WorkQueue.Dependency
import WorkQueue.Failure
import WorkQueue.Filter
import WorkQueue.Host
import WorkQueue.IntRange
import WorkQueue.Json
import WorkQueue.Json.Printer
import WorkQueue.Json.Reader
import WorkQueue.Lifecycle
import WorkQueue.LogEntry
import WorkQueue.Main
import WorkQueue.Memory.State
import WorkQueue.Memory.Store
import WorkQueue.Memory.Update
import WorkQueue.Metrics
import WorkQueue.Monitor
import WorkQueue.Page
import WorkQueue.Processors
import WorkQueue.Producer
import WorkQueue.Proofs.Backoff.Schedule
import WorkQueue.Proofs.Backoff.Words
import WorkQueue.Proofs.Binary64.Values
import WorkQueue.Proofs.Database.Agreement
import WorkQueue.Proofs.Database.Answering
import WorkQueue.Proofs.Database.Counting
import WorkQueue.Proofs.Database.Records
import WorkQueue.Proofs.Database.Silence
import WorkQueue.Proofs.Database.Transactions
import WorkQueue.Proofs.Database.Transcript
import WorkQueue.Proofs.Database.Unlogged
import WorkQueue.Proofs.Dependency.CycleTest
import WorkQueue.Proofs.Dependency.Reachability
import WorkQueue.Proofs.Listing.Counts
import WorkQueue.Proofs.Listing.Pages
import WorkQueue.Proofs.Listing.Partition
import WorkQueue.Proofs.Memory.Atomicity
import WorkQueue.Proofs.Memory.Attempts
import WorkQueue.Proofs.Memory.Blocking
import WorkQueue.Proofs.Memory.Calls
import WorkQueue.Proofs.Memory.Chronicle
import WorkQueue.Proofs.Memory.Claiming
import WorkQueue.Proofs.Memory.Consistency
import WorkQueue.Proofs.Memory.Edges
import WorkQueue.Proofs.Memory.Exclusion
import WorkQueue.Proofs.Memory.Frozen
import WorkQueue.Proofs.Memory.Journey
import WorkQueue.Proofs.Memory.Keeping
import WorkQueue.Proofs.Memory.Logging
import WorkQueue.Proofs.Memory.Moves
import WorkQueue.Proofs.Memory.Notes
import WorkQueue.Proofs.Memory.Operations
import WorkQueue.Proofs.Memory.Pacing
import WorkQueue.Proofs.Memory.Prerequisites
import WorkQueue.Proofs.Memory.Progress
import WorkQueue.Proofs.Memory.Queue
import WorkQueue.Proofs.Memory.Replies
import WorkQueue.Proofs.Memory.Rows
import WorkQueue.Proofs.Memory.Run
import WorkQueue.Proofs.Memory.Splitting
import WorkQueue.Proofs.Memory.Stranding
import WorkQueue.Proofs.Memory.Types
import WorkQueue.Proofs.Memory.Unlogged
import WorkQueue.Proofs.Memory.Updates
import WorkQueue.Proofs.Registry.Cached
import WorkQueue.Proofs.Registry.Crossing
import WorkQueue.Proofs.Registry.Dialogue
import WorkQueue.Proofs.Registry.Pending
import WorkQueue.Proofs.Registry.Seeding
import WorkQueue.Proofs.Registry.Traffic
import WorkQueue.Proofs.Settings.Acceptance
import WorkQueue.Proofs.Settings.Fields
import WorkQueue.Proofs.Settings.Guessing
import WorkQueue.Proofs.Settings.Layers
import WorkQueue.Proofs.Settings.Loading
import WorkQueue.Proofs.Settings.Masking
import WorkQueue.Proofs.Settings.Offsets
import WorkQueue.Proofs.Settings.Precedence
import WorkQueue.Proofs.Settings.Secrecy
import WorkQueue.Proofs.Settings.WorkerName
import WorkQueue.Proofs.Storage.BestEffort
import WorkQueue.Proofs.Storage.Programs
import WorkQueue.Proofs.Wire.Calendar
import WorkQueue.Proofs.Wire.Decimals
import WorkQueue.Proofs.Wire.Fields
import WorkQueue.Proofs.Wire.Forms
import WorkQueue.Proofs.Wire.Identifiers
import WorkQueue.Proofs.Wire.Instants
import WorkQueue.Proofs.Wire.Payloads
import WorkQueue.Proofs.Worker.Accounting
import WorkQueue.Proofs.Worker.Books
import WorkQueue.Proofs.Worker.Confluence
import WorkQueue.Proofs.Worker.Containment
import WorkQueue.Proofs.Worker.Courses
import WorkQueue.Proofs.Worker.Crew
import WorkQueue.Proofs.Worker.Dialogue
import WorkQueue.Proofs.Worker.Draining
import WorkQueue.Proofs.Worker.Handing
import WorkQueue.Proofs.Worker.Holding
import WorkQueue.Proofs.Worker.Interleaving
import WorkQueue.Proofs.Worker.Ledger
import WorkQueue.Proofs.Worker.Loops
import WorkQueue.Proofs.Worker.Permits
import WorkQueue.Proofs.Worker.Requests
import WorkQueue.Proofs.Worker.Sequential
import WorkQueue.Proofs.Worker.Stages
import WorkQueue.Proofs.Worker.Stopping
import WorkQueue.Proofs.Worker.Waking
import WorkQueue.Settings.Conversion
import WorkQueue.Settings.Format
import WorkQueue.Settings.Format.Ini
import WorkQueue.Settings.Format.Json5
import WorkQueue.Settings.Format.Ron
import WorkQueue.Settings.Format.Toml
import WorkQueue.Settings.Format.TomlScalar
import WorkQueue.Settings.Loader
import WorkQueue.Settings.Masking
import WorkQueue.Settings.Path
import WorkQueue.Settings.Sections
import WorkQueue.Settings.Sources
import WorkQueue.Settings.Tree
import WorkQueue.Settings.Validation
import WorkQueue.Simulation.Directory
import WorkQueue.Simulation.Handler
import WorkQueue.Simulation.Run
import WorkQueue.Simulation.Service
import WorkQueue.Simulation.Step
import WorkQueue.Simulation.Timeline
import WorkQueue.Simulation.World
import WorkQueue.Status
import WorkQueue.Task
import WorkQueue.TaskType
import WorkQueue.Telemetry
import WorkQueue.Text.Blank
import WorkQueue.Text.Numeral
import WorkQueue.Text.Printable
import WorkQueue.Timestamp
import WorkQueue.Timestamp.Calendar
import WorkQueue.Timestamp.Text
import WorkQueue.Transition
import WorkQueue.TypeRegistry
import WorkQueue.Uuid
import WorkQueue.Wire.Decoder
import WorkQueue.Wire.Format
import WorkQueue.Wire.Settings
import WorkQueue.Wire.Tasks
import WorkQueue.Worker.Batch
import WorkQueue.Worker.Execution
import WorkQueue.Worker.Loop
import WorkQueue.Yaml
import WorkQueue.Yaml.BlockScalar
import WorkQueue.Yaml.Cursor
import WorkQueue.Yaml.Property
import WorkQueue.Yaml.Reader
import WorkQueue.Yaml.Scalar
import WorkQueue.Yaml.Scanner
import WorkQueue.Yaml.Token
