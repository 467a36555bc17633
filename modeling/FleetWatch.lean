import FleetWatch.Api.Body
import FleetWatch.Api.Routes
import FleetWatch.Api.Server
import FleetWatch.CommandLine.Arguments
import FleetWatch.CommandLine.Session
import FleetWatch.Config.Document
import FleetWatch.Config.File
import FleetWatch.Config.Schema
import FleetWatch.Config.Store
import FleetWatch.Console.Paint
import FleetWatch.Console.Render
import FleetWatch.Fleet.Board
import FleetWatch.Fleet.Endpoint
import FleetWatch.Fleet.Failure
import FleetWatch.Fleet.Latency
import FleetWatch.Fleet.Poll
import FleetWatch.Fleet.Refresh
import FleetWatch.Fleet.Registry
import FleetWatch.Fleet.Report
import FleetWatch.Fleet.Script
import FleetWatch.Fleet.Setup
import FleetWatch.Fleet.Severity
import FleetWatch.Fleet.Slot
import FleetWatch.Fleet.StatusClient
import FleetWatch.Fleet.Summary
import FleetWatch.Fleet.Timeline
import FleetWatch.Http.Exchange
import FleetWatch.Json.Error
import FleetWatch.Json.Number
import FleetWatch.Json.Reader
import FleetWatch.Json.Text
import FleetWatch.Json.Value
import FleetWatch.Json.Writer
import FleetWatch.Log.Filter
import FleetWatch.Log.Guest
import FleetWatch.Log.Level
import FleetWatch.Log.Logger
import FleetWatch.Log.Record
import FleetWatch.Log.Tag
import FleetWatch.Main
import FleetWatch.Number.Binary64
import FleetWatch.Number.Fixed
import FleetWatch.Number.Positional
import FleetWatch.Number.Rounding
import FleetWatch.Number.Shortest
import FleetWatch.Shutdown
import FleetWatch.Storage.FileTree
import FleetWatch.Text.Blank
import FleetWatch.Text.CodeRange
import FleetWatch.Text.Column
import FleetWatch.Text.InvisibleData
import FleetWatch.Text.Leading
import FleetWatch.Text.Quoted
import FleetWatch.Text.Split
import FleetWatch.Text.Utf8
import FleetWatch.Time.Instant
import FleetWatch.Toml.Decode
import FleetWatch.Toml.Document
import FleetWatch.Toml.Number
import FleetWatch.Toml.Report
import FleetWatch.Toml.Statement
import FleetWatch.Toml.Text
import FleetWatch.Toml.Value
import FleetWatch.Url.Address
import FleetWatch.Url.Error
import FleetWatch.Url.Escape
import FleetWatch.Url.Host
import FleetWatch.Url.Idna.ClassData
import FleetWatch.Url.Idna.Composition
import FleetWatch.Url.Idna.CompositionData
import FleetWatch.Url.Idna.DirectionData
import FleetWatch.Url.Idna.Domain
import FleetWatch.Url.Idna.JoiningData
import FleetWatch.Url.Idna.Label
import FleetWatch.Url.Idna.Mapping
import FleetWatch.Url.Idna.MappingData
import FleetWatch.Url.Idna.MarkData
import FleetWatch.Url.Idna.Punycode
import FleetWatch.Url.Ipv4
import FleetWatch.Url.Ipv6
import FleetWatch.Url.Written
import FleetWatch.Proofs.Refresh.Run
import FleetWatch.Proofs.Refresh.Newest
import FleetWatch.Proofs.Refresh.Transitions
import FleetWatch.Proofs.Board.Blocks
import FleetWatch.Proofs.Poll.Join
import FleetWatch.Proofs.Number.Value
import FleetWatch.Proofs.Report.Fields
import FleetWatch.Proofs.Json.WellFormed
import FleetWatch.Proofs.Refresh.Tracking
import FleetWatch.Proofs.Refresh.Schedule
import FleetWatch.Proofs.Http.Endings
import FleetWatch.Proofs.Refresh.Answers
import FleetWatch.Proofs.Json.Literal
import FleetWatch.Proofs.Json.Spelling
import FleetWatch.Proofs.Json.Grammar
import FleetWatch.Proofs.Json.Exact
import FleetWatch.Proofs.Json.Ends
import FleetWatch.Proofs.Report.Spelled
import FleetWatch.Proofs.Report.Accepted
import FleetWatch.Proofs.Api.Members
import FleetWatch.Proofs.Slot.History
import FleetWatch.Proofs.Api.Hints
import FleetWatch.Proofs.Api.Page
import FleetWatch.Proofs.Url.Authority
import FleetWatch.Proofs.Url.StatusUrl
import FleetWatch.Proofs.Url.Validated
import FleetWatch.Proofs.Shutdown.Wakeup
import FleetWatch.Proofs.Refresh.InFlight
import FleetWatch.Proofs.Toml.WellFormed
import FleetWatch.Proofs.Toml.Spelling
import FleetWatch.Proofs.Toml.Record
import FleetWatch.Proofs.Toml.Sections
import FleetWatch.Proofs.Config.Overlay
import FleetWatch.Proofs.Config.Written
import FleetWatch.Proofs.Registry.Validation
import FleetWatch.Proofs.Text.Split
import FleetWatch.Proofs.Text.Utf8
import FleetWatch.Proofs.Pointwise
import FleetWatch.Proofs.Board.Homomorphism
import FleetWatch.Proofs.Console.Controls
import FleetWatch.Proofs.Number.Digits
import FleetWatch.Proofs.Number.Order
import FleetWatch.Proofs.Number.Shortest
import FleetWatch.Proofs.Json.Magnitude
import FleetWatch.Proofs.Json.Numeral
import FleetWatch.Proofs.Json.Written
import FleetWatch.Proofs.Api.ReadBack
import FleetWatch.Proofs.Config.Loading
import FleetWatch.Proofs.Log.Verbosity
import FleetWatch.Proofs.Number.Fixed
import FleetWatch.Proofs.Latency.Bands
import FleetWatch.Proofs.Console.Colours
import FleetWatch.Proofs.Board.Summary
import FleetWatch.Proofs.Refresh.Summaries
import FleetWatch.Proofs.Console.Columns
import FleetWatch.Proofs.Json.Vanishing
import FleetWatch.Proofs.Json.Places
import FleetWatch.Proofs.Report.Latencies
import FleetWatch.Proofs.CommandLine.Announcement
import FleetWatch.Proofs.Storage.Paths
