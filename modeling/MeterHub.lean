import MeterHub.Bench.HubBench
import MeterHub.Bench.LaneBench
import MeterHub.Bench.PresenceBench
import MeterHub.Bench.Recorder
import MeterHub.Bench.SessionBench
import MeterHub.Config
import MeterHub.Config.Files
import MeterHub.Config.Json
import MeterHub.Discovery
import MeterHub.Discovery.Board
import MeterHub.Distinct
import MeterHub.ErrorCode
import MeterHub.Event
import MeterHub.Expect
import MeterHub.Failure
import MeterHub.FileTree
import MeterHub.FileTree.Path
import MeterHub.Frame
import MeterHub.Frame.Json
import MeterHub.Frame.Samples
import MeterHub.Hub.Assembly
import MeterHub.Hub.Delivery
import MeterHub.Hub.Devices
import MeterHub.Hub.Lifecycle
import MeterHub.Hub.Move
import MeterHub.Hub.Reads
import MeterHub.Hub.Routing
import MeterHub.Hub.Sessions
import MeterHub.Hub.State
import MeterHub.Hub.Subscriptions
import MeterHub.Identifier
import MeterHub.Identifier.Json
import MeterHub.Json.Decode
import MeterHub.Json.Node
import MeterHub.Json.Numeral
import MeterHub.Json.Problem
import MeterHub.Json.Shortest
import MeterHub.Json.Value
import MeterHub.Lanes
import MeterHub.Lanes.Json
import MeterHub.Lanes.Step
import MeterHub.Port
import MeterHub.Port.Json
import MeterHub.Presence
import MeterHub.Presence.Step
import MeterHub.Proofs.Config.Filing
import MeterHub.Proofs.Config.Validity
import MeterHub.Proofs.Config.Writing
import MeterHub.Proofs.Discovery.Resolution
import MeterHub.Proofs.FileTree.Places
import MeterHub.Proofs.FileTree.Storing
import MeterHub.Proofs.Hub.Announcement
import MeterHub.Proofs.Hub.Answering
import MeterHub.Proofs.Hub.Change
import MeterHub.Proofs.Hub.Closing
import MeterHub.Proofs.Hub.Demand
import MeterHub.Proofs.Hub.Departure
import MeterHub.Proofs.Hub.Designation
import MeterHub.Proofs.Hub.Enrolment
import MeterHub.Proofs.Hub.Entries
import MeterHub.Proofs.Hub.Fanout
import MeterHub.Proofs.Hub.Greeting
import MeterHub.Proofs.Hub.Growing
import MeterHub.Proofs.Hub.Halting
import MeterHub.Proofs.Hub.Handing
import MeterHub.Proofs.Hub.Hearing
import MeterHub.Proofs.Hub.Housing
import MeterHub.Proofs.Hub.Leaving
import MeterHub.Proofs.Hub.Ledger
import MeterHub.Proofs.Hub.Leftover
import MeterHub.Proofs.Hub.Notices
import MeterHub.Proofs.Hub.Opening
import MeterHub.Proofs.Hub.Order
import MeterHub.Proofs.Hub.Overlap
import MeterHub.Proofs.Hub.Polling
import MeterHub.Proofs.Hub.Queueing
import MeterHub.Proofs.Hub.Reading
import MeterHub.Proofs.Hub.Refusing
import MeterHub.Proofs.Hub.Releasing
import MeterHub.Proofs.Hub.Repeating
import MeterHub.Proofs.Hub.Replug
import MeterHub.Proofs.Hub.Routing
import MeterHub.Proofs.Hub.Serving
import MeterHub.Proofs.Hub.Silence
import MeterHub.Proofs.Hub.Speaking
import MeterHub.Proofs.Hub.Subscribing
import MeterHub.Proofs.Hub.Telling
import MeterHub.Proofs.Hub.Tending
import MeterHub.Proofs.Hub.Tracking
import MeterHub.Proofs.Hub.Turnover
import MeterHub.Proofs.Hub.Unplugging
import MeterHub.Proofs.Identifier.Agreement
import MeterHub.Proofs.Json.Grammar
import MeterHub.Proofs.Json.Printing
import MeterHub.Proofs.Json.Reading
import MeterHub.Proofs.Json.RoundTrip
import MeterHub.Proofs.Json.Scanning
import MeterHub.Proofs.Lanes.Conservation
import MeterHub.Proofs.Lanes.History
import MeterHub.Proofs.Lanes.Holding
import MeterHub.Proofs.Lanes.Single
import MeterHub.Proofs.Lanes.Spells
import MeterHub.Proofs.Lanes.Turns
import MeterHub.Proofs.Lanes.Weaving
import MeterHub.Proofs.Presence.Changes
import MeterHub.Proofs.Presence.Stream
import MeterHub.Proofs.Registry.Entries
import MeterHub.Proofs.Registry.Interest
import MeterHub.Proofs.Session.Learning
import MeterHub.Proofs.Session.Stopping
import MeterHub.Proofs.Session.Trace
import MeterHub.Proofs.Time.Waiting
import MeterHub.Registry
import MeterHub.Registry.Script
import MeterHub.Session
import MeterHub.Session.Rounds
import MeterHub.Source
import MeterHub.Text.Blank
import MeterHub.Text.Inspect
import MeterHub.Text.Unshown
import MeterHub.Time.Alarm
import MeterHub.Time.Patience
import MeterHub.Time.Span
import MeterHub.Time.Span.Json
import MeterHub.Time.Ticker
