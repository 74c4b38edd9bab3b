import VoipSwitch.Lib.Proc
import VoipSwitch.Lib.OrdMap
import VoipSwitch.Lib.Json
import VoipSwitch.Core.Types
import VoipSwitch.Core.Aggregate
import VoipSwitch.Core.Analysis
import VoipSwitch.Core.Topology
import VoipSwitch.Core.Ownership
import VoipSwitch.Core.Departure
import VoipSwitch.Core.Winner
import VoipSwitch.Call.Dtmf
import VoipSwitch.Call.Event
import VoipSwitch.Call.Model
import VoipSwitch.Call.Compound
import VoipSwitch.Call.Release
import VoipSwitch.Call.Operations
import VoipSwitch.Call.Lifecycle
import VoipSwitch.Call.Collections
import VoipSwitch.Call.Reporting
import VoipSwitch.Call.Outcomes
import VoipSwitch.Call.Closing
import VoipSwitch.Call.Verdict
import VoipSwitch.Call.Termination
import VoipSwitch.Call.Deferral
import VoipSwitch.Call.State
import VoipSwitch.Call.Collect
import VoipSwitch.Call.Attempt
import VoipSwitch.Call.Legs
import VoipSwitch.Lib.Transition
import VoipSwitch.Call.Actor
import VoipSwitch.Call.Control
import VoipSwitch.Call.Effect
import VoipSwitch.Call.Step
import VoipSwitch.Call.Cleanup
import VoipSwitch.Call.Ending
import VoipSwitch.Call.Moves
import VoipSwitch.Call.Replay
import VoipSwitch.Call.Arming
import VoipSwitch.Call.Spent
import VoipSwitch.Call.Invariant
import VoipSwitch.Call.Bridge
import VoipSwitch.Call.Hunt
import VoipSwitch.Call.Desk
import VoipSwitch.Call.Conformance
import VoipSwitch.Lib.FramedLog
import VoipSwitch.Cdr.Spool
import VoipSwitch.Cdr.Replay
import VoipSwitch.Cdr.Queue
import VoipSwitch.Cdr.Durability
import VoipSwitch.Cdr.Checkpoint
import VoipSwitch.Cdr.Conservation
import VoipSwitch.Cdr.Moves
import VoipSwitch.Cdr.Acknowledged
import VoipSwitch.Cdr.Delivery
import VoipSwitch.Cdr.Draining
import VoipSwitch.Cdr.Wakeups
import VoipSwitch.Cdr.Admission
import VoipSwitch.Cdr.Watermarks
import VoipSwitch.Cdr.Fifo
import VoipSwitch.Cdr.RoundTrip
import VoipSwitch.Cdr.Legs
import VoipSwitch.Cdr.Attribution
import VoipSwitch.Session.Index
import VoipSwitch.Session.Handoff
import VoipSwitch.Session.Agreement
import VoipSwitch.Session.Routing
import VoipSwitch.Session.LegEvents
import VoipSwitch.Config.Store
import VoipSwitch.Store.Tables
import VoipSwitch.Lib.Repetition
import VoipSwitch.Lib.Publication
import VoipSwitch.Lib.Editing
import VoipSwitch.Lib.Origin
import VoipSwitch.Lib.Framing
import VoipSwitch.Lib.Schema
import VoipSwitch.Lib.Eviction
import VoipSwitch.Ai.Connector
import VoipSwitch.Ai.Protocol
import VoipSwitch.Ai.Outbox
import VoipSwitch.Ai.Wire
import VoipSwitch.Ai.Identifiers
import VoipSwitch.Ai.JobService
import VoipSwitch.Ai.Submission
import VoipSwitch.Ai.Isolation
import VoipSwitch.Ai.Versions
import VoipSwitch.Config.Route
import VoipSwitch.Config.RouteUpdate
import VoipSwitch.Session.Mirrors
import VoipSwitch.Config.RouteAnalysis
import VoipSwitch.Session.CallSetup
import VoipSwitch.Store.Repetition
import VoipSwitch.Store.Pagination
import VoipSwitch.Store.Retention
import VoipSwitch.Store.Cleanup
import VoipSwitch.Store.Expiry
import VoipSwitch.Store.Trace
import VoipSwitch.Media.Parser
import VoipSwitch.Media.Capability
import VoipSwitch.Media.Generations
import VoipSwitch.Media.FastPath
import VoipSwitch.Media.Exclusion
import VoipSwitch.Media.Rebind
import VoipSwitch.Media.Controller
import VoipSwitch.Lib.Numeral
import VoipSwitch.Lib.IpAddr
import VoipSwitch.Lib.Words
import VoipSwitch.Lib.FirstMatch
import VoipSwitch.Media.Sdp
import VoipSwitch.Media.Sections
import VoipSwitch.Media.Rewrite
import VoipSwitch.Media.Relaying
import VoipSwitch.Media.Locality
import VoipSwitch.Lib.Recall
import VoipSwitch.Call.Arbitration
import VoipSwitch.Media.Presses
import VoipSwitch.Media.Deadlines
import VoipSwitch.Media.Completions
import VoipSwitch.Media.Durations
import VoipSwitch.Lib.Arrivals
import VoipSwitch.Media.ReportOrder
import VoipSwitch.Media.RtpParsers
import VoipSwitch.Media.Leases
import VoipSwitch.Media.LeaseRuns
import VoipSwitch.Media.EventSets
import VoipSwitch.Media.Payloads
import VoipSwitch.Lib.Segments
import VoipSwitch.Media.Companding
import VoipSwitch.Ai.Playback
import VoipSwitch.Call.Forwarding
import VoipSwitch.Call.Gathering
import VoipSwitch.Call.CollectorTimer
import VoipSwitch.Call.Deduper
import VoipSwitch.Ai.MediaFrames
import VoipSwitch.Media.Recorder
import VoipSwitch.Media.RecordingTimeline
import VoipSwitch.Ai.Packetizing
import VoipSwitch.Ai.Playout
import VoipSwitch.Ai.StartFrame
import VoipSwitch.Session.AdapterWriter
