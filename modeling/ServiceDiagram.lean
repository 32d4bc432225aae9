import ServiceDiagram.CommandLine.Options
import ServiceDiagram.CommandLine.Reader
import ServiceDiagram.Decimal.Binary64
import ServiceDiagram.Decimal.Shortest
import ServiceDiagram.Diagram
import ServiceDiagram.Document.Reader
import ServiceDiagram.Document.Writer
import ServiceDiagram.Editor
import ServiceDiagram.Escape.Entity
import ServiceDiagram.Escape.Normal
import ServiceDiagram.Escape.Percent
import ServiceDiagram.Fault
import ServiceDiagram.Generation.Phase
import ServiceDiagram.Generation.Run
import ServiceDiagram.Json.Fault
import ServiceDiagram.Json.Lexeme
import ServiceDiagram.Json.Number
import ServiceDiagram.Json.Record
import ServiceDiagram.Json.Skip
import ServiceDiagram.Json.Write
import ServiceDiagram.Main
import ServiceDiagram.Model.Association
import ServiceDiagram.Model.Context
import ServiceDiagram.Model.Framework
import ServiceDiagram.Payload.Alphabet
import ServiceDiagram.Payload.Link
import ServiceDiagram.Program.Report
import ServiceDiagram.Program.Run
import ServiceDiagram.Proofs.Document.RoundTrip
import ServiceDiagram.Proofs.Document.Schema
import ServiceDiagram.Proofs.Generation.Extended
import ServiceDiagram.Proofs.Json.Bytes
import ServiceDiagram.Proofs.Json.Fields
import ServiceDiagram.Proofs.Json.Grammar
import ServiceDiagram.Proofs.Json.Ignored
import ServiceDiagram.Proofs.Json.Invariants
import ServiceDiagram.Proofs.Json.Numbers
import ServiceDiagram.Proofs.Json.Readers
import ServiceDiagram.Proofs.Json.Records
import ServiceDiagram.Proofs.Json.Strings
import ServiceDiagram.Proofs.Json.Values
import ServiceDiagram.Proofs.Json.Written
import ServiceDiagram.Proofs.Model.Canonical
import ServiceDiagram.Proofs.Model.Edits
import ServiceDiagram.Proofs.Session.Saved
import ServiceDiagram.Proofs.Session.Steps
import ServiceDiagram.Proofs.Storage.Documents
import ServiceDiagram.Proofs.Storage.Faithful
import ServiceDiagram.Proofs.Surroundings.Reaches
import ServiceDiagram.Proofs.Zlib.Bits
import ServiceDiagram.Proofs.Zlib.Codes
import ServiceDiagram.Proofs.Zlib.Copies
import ServiceDiagram.Session.Point
import ServiceDiagram.Session.Run
import ServiceDiagram.Session.Turn
import ServiceDiagram.Settings.Basic
import ServiceDiagram.Settings.Check
import ServiceDiagram.Settings.Placeholder
import ServiceDiagram.Settings.Reader
import ServiceDiagram.Store
import ServiceDiagram.Surroundings.Disk
import ServiceDiagram.Surroundings.Memory
import ServiceDiagram.Surroundings.Path
import ServiceDiagram.Surroundings.Request
import ServiceDiagram.Surroundings.Script
import ServiceDiagram.Surroundings.Server
import ServiceDiagram.Surroundings.Terminal
import ServiceDiagram.Surroundings.World
import ServiceDiagram.Text.Blank
import ServiceDiagram.Text.Front
import ServiceDiagram.Text.Hex
import ServiceDiagram.Text.Hidden
import ServiceDiagram.Text.Lines
import ServiceDiagram.Text.Parts
import ServiceDiagram.Text.Quoted
import ServiceDiagram.Text.Runs
import ServiceDiagram.Text.Upper
import ServiceDiagram.Text.Utf16
import ServiceDiagram.Text.Utf8
import ServiceDiagram.Toml.Lexeme
import ServiceDiagram.Toml.Reader
import ServiceDiagram.Toml.Scalar
import ServiceDiagram.Toml.Value
import ServiceDiagram.Url.Address
import ServiceDiagram.Url.Disallowed
import ServiceDiagram.Url.Domain
import ServiceDiagram.Url.Fault
import ServiceDiagram.Url.Folded
import ServiceDiagram.Url.Punycode
import ServiceDiagram.Url.Reader
import ServiceDiagram.Zlib.Adler
import ServiceDiagram.Zlib.Bits
import ServiceDiagram.Zlib.Fixed
import ServiceDiagram.Zlib.Stream
import ServiceDiagram.Zlib.Token
import ServiceDiagram.Proofs.Zlib.Codes
import ServiceDiagram.Proofs.Zlib.Stream
import ServiceDiagram.Proofs.Payload.Alphabet
import ServiceDiagram.Proofs.Payload.Link
import ServiceDiagram.Proofs.Generation.Files
import ServiceDiagram.Proofs.Model.Names
import ServiceDiagram.Proofs.Session.Choices
import ServiceDiagram.Proofs.Diagram.Drawn
import ServiceDiagram.Proofs.Diagram.Injective
import ServiceDiagram.Proofs.Surroundings.Makes
import ServiceDiagram.Proofs.Surroundings.Questions
import ServiceDiagram.Proofs.Generation.Ends
import ServiceDiagram.Proofs.Surroundings.Answers
import ServiceDiagram.Proofs.Diagram.Itemized
import ServiceDiagram.Proofs.Model.Typed
import ServiceDiagram.Proofs.Session.Typed
import ServiceDiagram.Proofs.Generation.Typed
import ServiceDiagram.Proofs.Generation.Repeated
import ServiceDiagram.Proofs.Generation.Unsaved
import ServiceDiagram.Proofs.Text.Trimmed
import ServiceDiagram.Proofs.Session.Protocol
import ServiceDiagram.Proofs.Storage.Beneath
import ServiceDiagram.Proofs.Generation.Inside
import ServiceDiagram.Proofs.Session.Clearing
import ServiceDiagram.Proofs.Surroundings.Plans
import ServiceDiagram.Proofs.Generation.Writing
import ServiceDiagram.Proofs.Session.Labels
import ServiceDiagram.Proofs.Session.Associating
import ServiceDiagram.Proofs.Editor.Operations
import ServiceDiagram.Proofs.Text.Hex
import ServiceDiagram.Proofs.Text.Utf16
import ServiceDiagram.Proofs.Text.Replaced
import ServiceDiagram.Proofs.Escape.Percent
import ServiceDiagram.Proofs.Escape.Entity
import ServiceDiagram.Proofs.Escape.Normal
import ServiceDiagram.Proofs.Payload.Lossless
import ServiceDiagram.Proofs.Generation.Shown
import ServiceDiagram.Proofs.Settings.Placeholders
import ServiceDiagram.Proofs.Url.Blanks
import ServiceDiagram.Proofs.Url.Authority
import ServiceDiagram.Proofs.Url.Extended
import ServiceDiagram.Proofs.Settings.Linked
import ServiceDiagram.Proofs.Toml.Spacing
import ServiceDiagram.Proofs.Toml.Keys
import ServiceDiagram.Proofs.Toml.Kept
import ServiceDiagram.Proofs.Toml.Assignments
import ServiceDiagram.Proofs.Settings.Variables
import ServiceDiagram.Proofs.Toml.Quotes
