import DiagramAssist.Address.Basic
import DiagramAssist.Address.Domain.Basic
import DiagramAssist.Address.Domain.Composition
import DiagramAssist.Address.Domain.Direction
import DiagramAssist.Address.Domain.Image
import DiagramAssist.Address.Domain.Joiner
import DiagramAssist.Address.Escape
import DiagramAssist.Address.Host
import DiagramAssist.Address.Ipv6
import DiagramAssist.Address.Path
import DiagramAssist.Address.Punycode
import DiagramAssist.Cell
import DiagramAssist.Client
import DiagramAssist.CommandLine.Arguments
import DiagramAssist.CommandLine.Execute
import DiagramAssist.CommandLine.Settings
import DiagramAssist.Completion
import DiagramAssist.Config
import DiagramAssist.Diagnostic
import DiagramAssist.Disk
import DiagramAssist.DiskSource
import DiagramAssist.Document.Expression
import DiagramAssist.Document.Parse
import DiagramAssist.Document.Printer
import DiagramAssist.Document.Statement
import DiagramAssist.Document.Walk
import DiagramAssist.Engine.Inclusion
import DiagramAssist.Engine.Library
import DiagramAssist.Engine.Load
import DiagramAssist.Engine.Plan
import DiagramAssist.Engine.Schedule
import DiagramAssist.Engine.Task
import DiagramAssist.Engine.World
import DiagramAssist.Error
import DiagramAssist.Grammar.Block
import DiagramAssist.Grammar.Expression
import DiagramAssist.Grammar.Header
import DiagramAssist.Json.Basic
import DiagramAssist.Json.Lexical
import DiagramAssist.Json.Numeral
import DiagramAssist.Json.Pass
import DiagramAssist.Json.Reader
import DiagramAssist.Json.Real
import DiagramAssist.Json.Writer
import DiagramAssist.Line
import DiagramAssist.LineIndex
import DiagramAssist.Main
import DiagramAssist.Message.Decode
import DiagramAssist.Message.Encode
import DiagramAssist.Message.Protocol
import DiagramAssist.Number.Binary64
import DiagramAssist.Number.Shortest
import DiagramAssist.Payload
import DiagramAssist.Proofs.CommandLine.Cursor
import DiagramAssist.Proofs.Document.Extraction
import DiagramAssist.Proofs.Document.Nodes
import DiagramAssist.Proofs.Document.Outline
import DiagramAssist.Proofs.Document.Placement
import DiagramAssist.Proofs.Document.Printable
import DiagramAssist.Proofs.Document.Pruning
import DiagramAssist.Proofs.Document.Routes
import DiagramAssist.Proofs.Document.Shift
import DiagramAssist.Proofs.Document.Summary
import DiagramAssist.Proofs.Engine.Consistency
import DiagramAssist.Proofs.Engine.Fresh
import DiagramAssist.Proofs.Engine.ListedPaths
import DiagramAssist.Proofs.Engine.Listing
import DiagramAssist.Proofs.Engine.Modules
import DiagramAssist.Proofs.Engine.Provenance
import DiagramAssist.Proofs.Engine.Ranges
import DiagramAssist.Proofs.Engine.Refusal
import DiagramAssist.Proofs.Engine.Schedules
import DiagramAssist.Proofs.Engine.Unresolved
import DiagramAssist.Proofs.Grammar.Assembly
import DiagramAssist.Proofs.Grammar.Blame
import DiagramAssist.Proofs.Grammar.Commitment
import DiagramAssist.Proofs.Grammar.Concatenation
import DiagramAssist.Proofs.Grammar.Extent
import DiagramAssist.Proofs.Grammar.Fidelity
import DiagramAssist.Proofs.Grammar.FirstClosing
import DiagramAssist.Proofs.Grammar.Geometry
import DiagramAssist.Proofs.Grammar.LineEndings
import DiagramAssist.Proofs.Grammar.LinePartition
import DiagramAssist.Proofs.Grammar.LineRoles
import DiagramAssist.Proofs.Grammar.Omission
import DiagramAssist.Proofs.Grammar.PassThrough
import DiagramAssist.Proofs.Grammar.RawBlocks
import DiagramAssist.Proofs.Grammar.Readability
import DiagramAssist.Proofs.Grammar.Repair
import DiagramAssist.Proofs.Grammar.Reports
import DiagramAssist.Proofs.Grammar.RoundTrip
import DiagramAssist.Proofs.Grammar.Signatures
import DiagramAssist.Proofs.Grammar.Signs
import DiagramAssist.Proofs.Grammar.Spelling
import DiagramAssist.Proofs.Json.Numerals
import DiagramAssist.Proofs.Json.Reading
import DiagramAssist.Proofs.Json.Strings
import DiagramAssist.Proofs.Json.Values
import DiagramAssist.Proofs.Line.Crlf
import DiagramAssist.Proofs.Line.Split
import DiagramAssist.Proofs.LineIndex.SourceLines
import DiagramAssist.Proofs.Message.Boundary
import DiagramAssist.Proofs.Message.Bounds
import DiagramAssist.Proofs.Message.Records
import DiagramAssist.Proofs.Number.Rounding
import DiagramAssist.Proofs.Number.Shortest
import DiagramAssist.Proofs.Reader.Blame
import DiagramAssist.Proofs.Reader.Decline
import DiagramAssist.Proofs.Reader.Guard
import DiagramAssist.Proofs.Reader.Recognition
import DiagramAssist.Proofs.Reader.Tracking
import DiagramAssist.Proofs.Registry.Attendance
import DiagramAssist.Proofs.Registry.Documents
import DiagramAssist.Proofs.Registry.Exclusion
import DiagramAssist.Proofs.Registry.Identity
import DiagramAssist.Proofs.Registry.Interleaving
import DiagramAssist.Proofs.Registry.Orderly
import DiagramAssist.Proofs.Registry.Sharing
import DiagramAssist.Proofs.Registry.Slots
import DiagramAssist.Proofs.Registry.Stability
import DiagramAssist.Proofs.Registry.Updates
import DiagramAssist.Proofs.Service.Correspondence
import DiagramAssist.Proofs.Service.Handling
import DiagramAssist.Proofs.Service.Lines
import DiagramAssist.Proofs.Service.Serving
import DiagramAssist.Proofs.Store.Agreement
import DiagramAssist.Proofs.Store.Contexts
import DiagramAssist.Proofs.Store.Lookup
import DiagramAssist.Proofs.Store.Preorder
import DiagramAssist.Proofs.Store.Resolution
import DiagramAssist.Proofs.Store.Settled
import DiagramAssist.Proofs.Store.Shadowing
import DiagramAssist.Proofs.Store.Suggestions
import DiagramAssist.Proofs.Store.Walk
import DiagramAssist.Proofs.Text.Base64
import DiagramAssist.Proofs.Text.Utf8
import DiagramAssist.Proofs.Text.Wrapping
import DiagramAssist.Reader.Basic
import DiagramAssist.Reader.Lexical
import DiagramAssist.Registry
import DiagramAssist.Service
import DiagramAssist.Session
import DiagramAssist.Source
import DiagramAssist.Span
import DiagramAssist.Store
import DiagramAssist.Symbols
import DiagramAssist.Text.Alphanumeric
import DiagramAssist.Text.Assigned
import DiagramAssist.Text.Base64
import DiagramAssist.Text.Blank
import DiagramAssist.Text.CodeRange
import DiagramAssist.Text.Mark
import DiagramAssist.Text.Measure
import DiagramAssist.Text.Quoted
import DiagramAssist.Text.Utf8
import DiagramAssist.Toml.Basic
import DiagramAssist.Toml.Reader
import DiagramAssist.Toml.Scalar
