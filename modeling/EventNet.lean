import EventNet.Dict
import EventNet.Engine.Basic
import EventNet.Engine.Instance
import EventNet.Event.Basic
import EventNet.Event.Draft
import EventNet.Event.Identity
import EventNet.Event.Naming
import EventNet.Event.Outline
import EventNet.Event.Steps
import EventNet.Event.Tense
import EventNet.Expr.Basic
import EventNet.Expr.Compiled
import EventNet.Expr.Error
import EventNet.Expr.Eval
import EventNet.Expr.Function
import EventNet.Expr.Lexer
import EventNet.Expr.Parser
import EventNet.Expr.Token
import EventNet.Fault.Basic
import EventNet.Fault.Code
import EventNet.Fault.Format
import EventNet.Fault.Report
import EventNet.Json.Basic
import EventNet.Json.Inspect
import EventNet.Json.Reader
import EventNet.Json.Shape
import EventNet.Json.Writer
import EventNet.Machine.Basic
import EventNet.Machine.Fields
import EventNet.Machine.Stream
import EventNet.Net.Definition
import EventNet.Net.Firing
import EventNet.Net.Format
import EventNet.Net.Guard
import EventNet.Net.Marking
import EventNet.Net.Reach
import EventNet.Net.Schema
import EventNet.Net.Steps
import EventNet.Number.Double
import EventNet.Number.Layout
import EventNet.Number.Shortest
import EventNet.Number.Word
import EventNet.Proofs.Dict
import EventNet.Proofs.Engine.Assurance
import EventNet.Proofs.Engine.Caches
import EventNet.Proofs.Engine.Commands
import EventNet.Proofs.Engine.Existence
import EventNet.Proofs.Engine.Grounding
import EventNet.Proofs.Engine.Interleaving
import EventNet.Proofs.Engine.Replay
import EventNet.Proofs.Engine.Retries
import EventNet.Proofs.Engine.Validity
import EventNet.Proofs.Event.Naming
import EventNet.Proofs.Event.Stored
import EventNet.Proofs.Event.Words
import EventNet.Proofs.Expr.Asking
import EventNet.Proofs.Expr.Conditions
import EventNet.Proofs.Expr.Extensional
import EventNet.Proofs.Expr.Grammar
import EventNet.Proofs.Expr.Height
import EventNet.Proofs.Expr.Identifiers
import EventNet.Proofs.Expr.Lexemes
import EventNet.Proofs.Expr.Munching
import EventNet.Proofs.Expr.Parsing
import EventNet.Proofs.Expr.Reading
import EventNet.Proofs.Expr.Selecting
import EventNet.Proofs.Expr.Spelling
import EventNet.Proofs.Expr.Unambiguous
import EventNet.Proofs.Expr.Walking
import EventNet.Proofs.Json.Record
import EventNet.Proofs.Machine.Acts
import EventNet.Proofs.Machine.Firing
import EventNet.Proofs.Machine.Folding
import EventNet.Proofs.Machine.Index
import EventNet.Proofs.Machine.Loading
import EventNet.Proofs.Machine.Replicas
import EventNet.Proofs.Machine.Tokens
import EventNet.Proofs.Net.Absence
import EventNet.Proofs.Net.Agreement
import EventNet.Proofs.Net.Arcs
import EventNet.Proofs.Net.Balance
import EventNet.Proofs.Net.Complete
import EventNet.Proofs.Net.Constraints
import EventNet.Proofs.Net.Counts
import EventNet.Proofs.Net.Effects
import EventNet.Proofs.Net.Firing
import EventNet.Proofs.Net.Format
import EventNet.Proofs.Net.Frame
import EventNet.Proofs.Net.Keys
import EventNet.Proofs.Net.Moves
import EventNet.Proofs.Net.Order
import EventNet.Proofs.Net.Padding
import EventNet.Proofs.Net.Paths
import EventNet.Proofs.Net.Positions
import EventNet.Proofs.Net.Reach
import EventNet.Proofs.Net.Reading
import EventNet.Proofs.Net.Remembering
import EventNet.Proofs.Net.Rollback
import EventNet.Proofs.Net.Schema
import EventNet.Proofs.Net.Solvency
import EventNet.Proofs.Net.Validation
import EventNet.Proofs.Number
import EventNet.Proofs.Number.Exact
import EventNet.Proofs.Number.Sign
import EventNet.Proofs.Number.Whole
import EventNet.Proofs.Number.Zeros
import EventNet.Proofs.Store.Backends
import EventNet.Proofs.Store.Conflicts
import EventNet.Proofs.Store.Delivery
import EventNet.Proofs.Store.Echo
import EventNet.Proofs.Store.Hub
import EventNet.Proofs.Store.Interchange
import EventNet.Proofs.Store.Ledger
import EventNet.Proofs.Store.Listing
import EventNet.Proofs.Store.Paging
import EventNet.Proofs.Store.Selection
import EventNet.Proofs.Store.Streams
import EventNet.Proofs.Store.Summaries
import EventNet.Proofs.Store.Totals
import EventNet.Proofs.Value.Plain
import EventNet.Proofs.Value.RoundTrip
import EventNet.Proofs.Value.Survival
import EventNet.Settings.Basic
import EventNet.Settings.Duration
import EventNet.Settings.Format
import EventNet.Settings.Lenient
import EventNet.Settings.LogFilter
import EventNet.Settings.Source
import EventNet.Store.Address
import EventNet.Store.Basic
import EventNet.Store.Batch
import EventNet.Store.Client
import EventNet.Store.Database
import EventNet.Store.Group
import EventNet.Store.Hub
import EventNet.Store.Memory
import EventNet.Store.Opening
import EventNet.Store.Overwrite
import EventNet.Store.Program
import EventNet.Store.Report
import EventNet.Store.Table
import EventNet.Telemetry.Format
import EventNet.Telemetry.Signal
import EventNet.Telemetry.Summary
import EventNet.Text.Case
import EventNet.Text.CharRanges
import EventNet.Text.Letters
import EventNet.Text.Printable
import EventNet.Text.Quoted
import EventNet.Time.Calendar
import EventNet.Time.Instant
import EventNet.Toml.Reader
import EventNet.Toml.Scalar
import EventNet.Toml.Table
import EventNet.Value.Basic
import EventNet.Value.Json
import EventNet.Value.Text
import EventNet.Proofs.Event.Words
import EventNet.Proofs.Net.Keys
