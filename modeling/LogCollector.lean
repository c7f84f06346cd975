import LogCollector.Calendar.Date
import LogCollector.Calendar.Zone
import LogCollector.Catalog
import LogCollector.Checkpoint
import LogCollector.Collector
import LogCollector.CommandLine.Grammar
import LogCollector.CommandLine.Reader
import LogCollector.Config.Basic
import LogCollector.Config.Check
import LogCollector.Config.Document
import LogCollector.Config.Environment
import LogCollector.Connection
import LogCollector.Daemon.Request
import LogCollector.Daemon.Run
import LogCollector.Daemon.Trouble
import LogCollector.Diagnostic
import LogCollector.Duration
import LogCollector.Fault
import LogCollector.Filter.Argument
import LogCollector.Filter.Canonical
import LogCollector.Filter.Compile
import LogCollector.Filter.Operand
import LogCollector.Filter.Rule
import LogCollector.Json.Basic
import LogCollector.Json.ConfigForms
import LogCollector.Json.FaultForms
import LogCollector.Json.Forms
import LogCollector.Json.Parser
import LogCollector.Json.Printer
import LogCollector.Json.RunForms
import LogCollector.Kind
import LogCollector.Line
import LogCollector.Main
import LogCollector.Metric
import LogCollector.Net.Ipv4
import LogCollector.Net.Ipv6
import LogCollector.Net.Listen
import LogCollector.Operator.Answer
import LogCollector.Operator.Report
import LogCollector.Operator.Request
import LogCollector.Plan
import LogCollector.Program
import LogCollector.Proofs.Calendar.ClockChanges
import LogCollector.Proofs.Calendar.DayCount
import LogCollector.Proofs.Calendar.LocalTime
import LogCollector.Proofs.Calendar.Order
import LogCollector.Proofs.Collector.Counting
import LogCollector.Proofs.Collector.Reconnecting
import LogCollector.Proofs.Collector.Reports
import LogCollector.Proofs.Collector.Startup
import LogCollector.Proofs.Collector.Stopping
import LogCollector.Proofs.Collector.Unfinished
import LogCollector.Proofs.Collector.Verdict
import LogCollector.Proofs.Config.Acceptance
import LogCollector.Proofs.Config.Overrides
import LogCollector.Proofs.Fallible
import LogCollector.Proofs.Filter.Arguments
import LogCollector.Proofs.Filter.CanonicalForm
import LogCollector.Proofs.Filter.Grammar
import LogCollector.Proofs.Filter.Items
import LogCollector.Proofs.Filter.Language
import LogCollector.Proofs.Filter.Layout
import LogCollector.Proofs.Filter.Ranges
import LogCollector.Proofs.Filter.SessionRulebase
import LogCollector.Proofs.Filter.Spacing
import LogCollector.Proofs.Filter.TimeOrder
import LogCollector.Proofs.Filter.TimeRoundTrip
import LogCollector.Proofs.Filter.Times
import LogCollector.Proofs.Filter.WellTyped
import LogCollector.Proofs.Filter.WireValues
import LogCollector.Proofs.Line.Masking
import LogCollector.Proofs.Line.ReadingBack
import LogCollector.Proofs.Line.Selection
import LogCollector.Proofs.Net.Octets
import LogCollector.Proofs.Operator.Preview
import LogCollector.Proofs.Replay.Playback
import LogCollector.Proofs.Replay.Reading
import LogCollector.Proofs.Run.Operations
import LogCollector.Proofs.Run.Progress
import LogCollector.Proofs.Run.Readings
import LogCollector.Proofs.Run.Retrying
import LogCollector.Proofs.Run.ServiceCalls
import LogCollector.Proofs.Run.SideBySide
import LogCollector.Proofs.Run.StopRequest
import LogCollector.Proofs.Run.StoredPosition
import LogCollector.Proofs.Run.Tallies
import LogCollector.Proofs.Run.Triple
import LogCollector.Proofs.Run.Waits
import LogCollector.Proofs.Run.WorldStates
import LogCollector.Proofs.Session.Answering
import LogCollector.Proofs.Session.Attribution
import LogCollector.Proofs.Session.Books
import LogCollector.Proofs.Session.Counting
import LogCollector.Proofs.Session.Disconnection
import LogCollector.Proofs.Session.EffectiveSettings
import LogCollector.Proofs.Session.ExactDispatch
import LogCollector.Proofs.Session.FilterFirst
import LogCollector.Proofs.Session.Lifecycle
import LogCollector.Proofs.Session.NoSkippedRecords
import LogCollector.Proofs.Session.PaddedSettings
import LogCollector.Proofs.Session.PostIndependence
import LogCollector.Proofs.Session.Resumption
import LogCollector.Proofs.Session.Rules
import LogCollector.Proofs.Session.StartingPoint
import LogCollector.Proofs.Session.StatusCalls
import LogCollector.Proofs.Sink.KeptLines
import LogCollector.Proofs.Sink.Rotation
import LogCollector.Proofs.Status.DeclaredKeys
import LogCollector.Proofs.Status.LastConnection
import LogCollector.Proofs.Status.PositionMap
import LogCollector.Proofs.Status.StoredDocument
import LogCollector.Proofs.Storage.Tree
import LogCollector.Proofs.Text.LetterCase
import LogCollector.Proofs.Text.Numerals
import LogCollector.Proofs.Text.Padding
import LogCollector.Proofs.Text.Pieces
import LogCollector.Proofs.Text.Splicing
import LogCollector.Record
import LogCollector.Replay.Script
import LogCollector.Replay.Session
import LogCollector.Retry
import LogCollector.Session.Controller
import LogCollector.Session.EndReason
import LogCollector.Session.Event
import LogCollector.Session.Source
import LogCollector.Session.State
import LogCollector.Session.Terms
import LogCollector.Sink.Basic
import LogCollector.Sink.RotatingFile
import LogCollector.Stage.Collaborator
import LogCollector.Stage.Service
import LogCollector.Stage.World
import LogCollector.Status.Command
import LogCollector.Status.Document
import LogCollector.Status.Service
import LogCollector.Storage.Directory
import LogCollector.Surroundings
import LogCollector.Targets
import LogCollector.Text.Blank
import LogCollector.Text.Lowercase
import LogCollector.Text.Lowercase.Table
import LogCollector.Text.Numeral
import LogCollector.Text.Quoted
import LogCollector.Text.Quoted.Table
import LogCollector.Text.Split
import LogCollector.Toml.Assembly
import LogCollector.Toml.Basic
import LogCollector.Toml.Parser
import LogCollector.Toml.Printer
import LogCollector.Toml.Scalar
import LogCollector.Toml.Text
import LogCollector.Value
import LogCollector.World
