import WireSchemas.Binary64
import WireSchemas.Binary64.Shortest
import WireSchemas.Binary64.Text
import WireSchemas.Calendar
import WireSchemas.Catalog
import WireSchemas.Checksum
import WireSchemas.Checksum.Sha256
import WireSchemas.Codec
import WireSchemas.Codec.Stub
import WireSchemas.CommandLine.Arguments
import WireSchemas.CommandLine.Command
import WireSchemas.CommandLine.Listing
import WireSchemas.CommandLine.Run
import WireSchemas.DataFormat
import WireSchemas.DataFormat.Reader
import WireSchemas.Datum
import WireSchemas.Datum.Place
import WireSchemas.Failure
import WireSchemas.Files
import WireSchemas.Files.Tree
import WireSchemas.Headers
import WireSchemas.Headers.Schema
import WireSchemas.Json
import WireSchemas.Json.Reader
import WireSchemas.Json.Writer
import WireSchemas.Main
import WireSchemas.Message
import WireSchemas.Message.Json
import WireSchemas.Message.Protobuf
import WireSchemas.Message.Shape
import WireSchemas.MessageType
import WireSchemas.Naming.Case
import WireSchemas.Naming.OutputFormat
import WireSchemas.Naming.Strategy
import WireSchemas.Naming.StrategyName
import WireSchemas.Protobuf.Wire
import WireSchemas.RegisteredSchema
import WireSchemas.Registry
import WireSchemas.Registry.Description
import WireSchemas.Remote.Client
import WireSchemas.Remote.Interleaving
import WireSchemas.Remote.Process
import WireSchemas.Remote.Store
import WireSchemas.Resolution
import WireSchemas.Sample
import WireSchemas.SchemaInfo
import WireSchemas.Serializer
import WireSchemas.Settings
import WireSchemas.Settings.Environment
import WireSchemas.Settings.Json
import WireSchemas.Settings.Sources
import WireSchemas.Settings.Toml
import WireSchemas.SortedMap
import WireSchemas.Stream
import WireSchemas.Text.Blank
import WireSchemas.Text.Digit
import WireSchemas.Text.Hex
import WireSchemas.Text.Integer
import WireSchemas.Text.LowerCase
import WireSchemas.Text.LowerCaseTable
import WireSchemas.Text.Quoted
import WireSchemas.Text.UnprintableTable
import WireSchemas.Text.Utf8
import WireSchemas.Timestamp
import WireSchemas.Timestamp.Reader
import WireSchemas.Toml.Blank
import WireSchemas.Toml.Document
import WireSchemas.Toml.Key
import WireSchemas.Toml.Moment
import WireSchemas.Toml.Number
import WireSchemas.Toml.Quoted
import WireSchemas.Toml.Table
import WireSchemas.Toml.Value
import WireSchemas.Toml.Writer
import WireSchemas.TypeCache
import WireSchemas.Proofs.SortedMap
import WireSchemas.Proofs.Text.Utf8
import WireSchemas.Proofs.Text.Order
import WireSchemas.Proofs.Text.Lossy
import WireSchemas.Proofs.Text.LowerCase
import WireSchemas.Proofs.DataFormat
import WireSchemas.Proofs.Json.Grammar
import WireSchemas.Proofs.Json.Text
import WireSchemas.Proofs.Json.Value
import WireSchemas.Proofs.Json.Spelling
import WireSchemas.Proofs.Json.Members
import WireSchemas.Proofs.Headers.Schema
import WireSchemas.Proofs.Headers.Wire
import WireSchemas.Proofs.Headers.Edits
import WireSchemas.Proofs.Headers.Decoding
import WireSchemas.Proofs.Headers.FormerKeys
import WireSchemas.Proofs.Headers.Views
import WireSchemas.Proofs.Headers.Numbers
import WireSchemas.Proofs.TypeCache
import WireSchemas.Proofs.TypeCache.LastBinding
import WireSchemas.Proofs.TypeCache.Commutation
import WireSchemas.Proofs.Remote.Store
import WireSchemas.Proofs.Remote.Guarantee
import WireSchemas.Proofs.Remote.Outcome
import WireSchemas.Proofs.Remote.Heard
import WireSchemas.Proofs.Remote.Confinement
import WireSchemas.Proofs.Message.Protobuf
import WireSchemas.Proofs.Naming.Subject
import WireSchemas.Proofs.Naming.FullName
import WireSchemas.Proofs.Naming.Boundaries
import WireSchemas.Proofs.Registry.Requests
import WireSchemas.Proofs.Resolution.Coherence
import WireSchemas.Proofs.Resolution.Outcome
import WireSchemas.Proofs.Registry.Reachable
import WireSchemas.Proofs.Registry.Revisions
import WireSchemas.Proofs.Resolution.Discovery
import WireSchemas.Proofs.Resolution.Commutation
import WireSchemas.Proofs.Serializer.Outcome
import WireSchemas.Proofs.Serializer.RoundTrip
import WireSchemas.Proofs.Registry.Failures
import WireSchemas.Proofs.Registry.Cancellation
import WireSchemas.Proofs.Registry.Sequence
import WireSchemas.Proofs.Registry.NamedDiscovery
import WireSchemas.Proofs.Registry.Bindings
import WireSchemas.Proofs.Registry.UnnamedDiscovery
import WireSchemas.Proofs.Registry.FullNames
import WireSchemas.Proofs.Serializer.SameSchema
import WireSchemas.Proofs.Serializer.Shortcuts
import WireSchemas.Proofs.Serializer.Kinds
import WireSchemas.Proofs.Registry.Dispatch
import WireSchemas.Proofs.Registry.Registrations
import WireSchemas.Proofs.Registry.Listing
import WireSchemas.Proofs.Resolution.Absence
import WireSchemas.Proofs.Registry.Confinement
import WireSchemas.Proofs.Registry.Unasked
import WireSchemas.Proofs.Registry.BlankSubjects
import WireSchemas.Proofs.Naming.Stability
import WireSchemas.Proofs.Text.Sigma
import WireSchemas.Proofs.Naming.Segments
import WireSchemas.Proofs.Naming.Streams
import WireSchemas.Proofs.Registry.Defaults
import WireSchemas.Proofs.Text.Integer
import WireSchemas.Proofs.Text.Numeral
import WireSchemas.Proofs.Checksum.Fields
import WireSchemas.Proofs.Checksum.Hasher
import WireSchemas.Proofs.Remote.RevisionIds
import WireSchemas.Proofs.Settings.Registry
import WireSchemas.Proofs.Toml.Quoted
import WireSchemas.Proofs.Toml.Value
import WireSchemas.Proofs.Toml.Document
import WireSchemas.Proofs.Settings.Toml
import WireSchemas.Proofs.Datum.Place
import WireSchemas.Proofs.Files.Tree
import WireSchemas.Proofs.Settings.RoundTrip
