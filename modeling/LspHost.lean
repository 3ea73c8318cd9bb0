import LspHost.Client.Basic
import LspHost.Client.Calls
import LspHost.Client.Course
import LspHost.Client.Documents
import LspHost.Client.Handshake
import LspHost.Client.Outgoing
import LspHost.Client.Routing
import LspHost.Client.Stop
import LspHost.Client.Turns
import LspHost.Client.Watching
import LspHost.ClientError
import LspHost.CommandLine.Arguments
import LspHost.CommandLine.Failure
import LspHost.CommandLine.Files
import LspHost.CommandLine.Resolution
import LspHost.Decimal.Double
import LspHost.Decimal.Shortest
import LspHost.Document
import LspHost.FileEvent
import LspHost.FileTree.Basic
import LspHost.FileTree.Edit
import LspHost.FileTree.Program
import LspHost.FileTree.Resolve
import LspHost.FileTree.Walk
import LspHost.Glob.Parser
import LspHost.Glob.Pattern
import LspHost.Glob.Token
import LspHost.Json.Basic
import LspHost.Json.Number
import LspHost.Json.Reader
import LspHost.Json.Shape
import LspHost.Json.Writer
import LspHost.Launch.Activation
import LspHost.Launch.Config
import LspHost.Launch.Executable
import LspHost.Launch.Locator
import LspHost.Launch.Search
import LspHost.Lifecycle
import LspHost.Logging.Directive
import LspHost.Logging.Filter
import LspHost.Logging.Level
import LspHost.Logging.Pattern
import LspHost.Logging.Record
import LspHost.Main
import LspHost.Path.Basic
import LspHost.Path.Normal
import LspHost.Proofs.Client.Basic
import LspHost.Proofs.Client.Start
import LspHost.Proofs.Client.Turn
import LspHost.Proofs.CommandLine.Resolution
import LspHost.Proofs.Course.Conversation
import LspHost.Proofs.Course.Documents
import LspHost.Proofs.Course.Effect
import LspHost.Proofs.Course.Forwarding
import LspHost.Proofs.Course.InTurn
import LspHost.Proofs.Course.Life
import LspHost.Proofs.Course.Phase
import LspHost.Proofs.Course.Refused
import LspHost.Proofs.Course.Starts
import LspHost.Proofs.Course.Stopping
import LspHost.Proofs.Document.Identity
import LspHost.Proofs.Documents.Concern
import LspHost.Proofs.Documents.Opening
import LspHost.Proofs.Documents.Store
import LspHost.Proofs.Documents.Table
import LspHost.Proofs.Documents.TurnEffect
import LspHost.Proofs.Documents.Turns
import LspHost.Proofs.FileEvent.Hearing
import LspHost.Proofs.FileEvent.Merge
import LspHost.Proofs.FileEvent.Order
import LspHost.Proofs.FileEvent.Presence
import LspHost.Proofs.FileEvent.Resumption
import LspHost.Proofs.FileTree.Canonical
import LspHost.Proofs.FileTree.Reach
import LspHost.Proofs.FileTree.Walk
import LspHost.Proofs.Glob.Literal
import LspHost.Proofs.Glob.Matching
import LspHost.Proofs.Json.ReadBack
import LspHost.Proofs.Launch.Activation
import LspHost.Proofs.Launch.Found
import LspHost.Proofs.Path.Below
import LspHost.Proofs.Path.Components
import LspHost.Proofs.Path.Normal
import LspHost.Proofs.Path.Text
import LspHost.Proofs.Path.Tidy
import LspHost.Proofs.Selector.PathPattern
import LspHost.Proofs.Text.Utf8
import LspHost.Proofs.Url.FilePath
import LspHost.Proofs.Watch.Creation
import LspHost.Proofs.Watch.Renaming
import LspHost.Proofs.Watch.Scope
import LspHost.Protocol.Capabilities
import LspHost.Protocol.Document
import LspHost.Protocol.Initialize
import LspHost.Rehearsal.Calls
import LspHost.Rehearsal.Command
import LspHost.Rehearsal.Connection
import LspHost.Rehearsal.Ending
import LspHost.Rehearsal.Exchange
import LspHost.Rehearsal.Log
import LspHost.Rehearsal.Program
import LspHost.Rehearsal.Script
import LspHost.Rehearsal.Server
import LspHost.Rehearsal.Step
import LspHost.Rehearsal.Time
import LspHost.Rehearsal.World
import LspHost.Selector
import LspHost.Text.Alphanumeric
import LspHost.Text.Blank
import LspHost.Text.Cased
import LspHost.Text.CodeSet
import LspHost.Text.Composition
import LspHost.Text.CompositionTable
import LspHost.Text.Digits
import LspHost.Text.LowerCase
import LspHost.Text.Quoted
import LspHost.Text.Seen
import LspHost.Text.Utf8
import LspHost.Trace
import LspHost.Url.Basic
import LspHost.Url.Domain.Direction
import LspHost.Url.Domain.Label
import LspHost.Url.Domain.LabelTable
import LspHost.Url.Domain.Mapping
import LspHost.Url.Domain.MappingTable
import LspHost.Url.Domain.Name
import LspHost.Url.Domain.Punycode
import LspHost.Url.Host
import LspHost.Url.Parser
import LspHost.Url.Percent
import LspHost.Url.Segment
import LspHost.Watch.Forwarder
import LspHost.Watch.Notice
import LspHost.Watch.Observation
import LspHost.Watch.Watcher
import LspHost.Wire.Frame
import LspHost.Wire.Message
