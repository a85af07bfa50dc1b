import AvControl.Capability
import AvControl.Context
import AvControl.Decimal.Binary64
import AvControl.Decimal.Shortest
import AvControl.DeviceState
import AvControl.Driver.Basic
import AvControl.Driver.Cached
import AvControl.Driver.Direct
import AvControl.Driver.Registry
import AvControl.Driver.Scripted
import AvControl.Engine.Opening
import AvControl.Engine.Operation
import AvControl.Engine.Outcome
import AvControl.Engine.Plan
import AvControl.Engine.Run
import AvControl.Engine.Session
import AvControl.Engine.Task
import AvControl.Engine.World
import AvControl.Error
import AvControl.Field
import AvControl.Http.Body
import AvControl.Http.ErrorAnswer
import AvControl.Http.MediaType
import AvControl.Http.Message
import AvControl.Http.Server
import AvControl.Http.Target
import AvControl.Identifier
import AvControl.Json.Decode
import AvControl.Json.Document
import AvControl.Json.Numeral
import AvControl.Json.Render
import AvControl.Json.Value
import AvControl.Proofs.CanonicalOrder
import AvControl.Proofs.Context
import AvControl.Proofs.Driver.Coherence
import AvControl.Proofs.Driver.Delayed
import AvControl.Proofs.Driver.Fates
import AvControl.Proofs.Driver.Recorded
import AvControl.Proofs.Driver.Registration
import AvControl.Proofs.Driver.Registry
import AvControl.Proofs.Driver.Separation
import AvControl.Proofs.Driver.SingleFlight
import AvControl.Proofs.Driver.Timetable
import AvControl.Proofs.Driver.Transcribed
import AvControl.Proofs.Driver.Uses
import AvControl.Proofs.Engine.Accord
import AvControl.Proofs.Engine.Accounting
import AvControl.Proofs.Engine.Alike
import AvControl.Proofs.Engine.Asking
import AvControl.Proofs.Engine.Bookkeeping
import AvControl.Proofs.Engine.Commands
import AvControl.Proofs.Engine.Companions
import AvControl.Proofs.Engine.Completion
import AvControl.Proofs.Engine.Concealment
import AvControl.Proofs.Engine.Deadline
import AvControl.Proofs.Engine.Duration
import AvControl.Proofs.Engine.Excerpt
import AvControl.Proofs.Engine.Follow
import AvControl.Proofs.Engine.Gathering
import AvControl.Proofs.Engine.Happenings
import AvControl.Proofs.Engine.Idleness
import AvControl.Proofs.Engine.Inquiry
import AvControl.Proofs.Engine.Isolation
import AvControl.Proofs.Engine.Journal
import AvControl.Proofs.Engine.Latency
import AvControl.Proofs.Engine.Locality
import AvControl.Proofs.Engine.Moves
import AvControl.Proofs.Engine.Naming
import AvControl.Proofs.Engine.Opening
import AvControl.Proofs.Engine.Preparation
import AvControl.Proofs.Engine.Progress
import AvControl.Proofs.Engine.Punctuality
import AvControl.Proofs.Engine.Recording
import AvControl.Proofs.Engine.Refusal
import AvControl.Proofs.Engine.Reports
import AvControl.Proofs.Engine.Restraint
import AvControl.Proofs.Engine.Schedule
import AvControl.Proofs.Engine.Service
import AvControl.Proofs.Engine.Sessions
import AvControl.Proofs.Engine.Settlement
import AvControl.Proofs.Engine.Solo
import AvControl.Proofs.Engine.Steps
import AvControl.Proofs.Engine.Success
import AvControl.Proofs.Engine.Testimony
import AvControl.Proofs.Engine.Timing
import AvControl.Proofs.Engine.Trace
import AvControl.Proofs.Engine.Transcript
import AvControl.Proofs.Engine.Twins
import AvControl.Proofs.Engine.Unhurried
import AvControl.Proofs.Engine.Viewpoint
import AvControl.Proofs.Engine.Workload
import AvControl.Proofs.Engine.World
import AvControl.Proofs.Field
import AvControl.Proofs.Findings
import AvControl.Proofs.Http.Body
import AvControl.Proofs.Http.Clock
import AvControl.Proofs.Http.Replies
import AvControl.Proofs.Identifier
import AvControl.Proofs.Json.Injectivity
import AvControl.Proofs.Json.Numerals
import AvControl.Proofs.Json.Reading
import AvControl.Proofs.Json.Spelling
import AvControl.Proofs.Overwriting
import AvControl.Proofs.Response
import AvControl.Proofs.Setting
import AvControl.Proofs.Settings.Environment
import AvControl.Proofs.Settings.Rooms
import AvControl.Proofs.Settings.Startup
import AvControl.Proofs.SortedMap
import AvControl.Proofs.Sparse
import AvControl.Proofs.Virtual.Applied
import AvControl.Proofs.Virtual.Bounds
import AvControl.Proofs.Virtual.Configuration
import AvControl.Proofs.Virtual.Deals
import AvControl.Proofs.Virtual.Dialling
import AvControl.Proofs.Virtual.Discretion
import AvControl.Proofs.Virtual.Duty
import AvControl.Proofs.Virtual.Hardware
import AvControl.Proofs.Virtual.Latencies
import AvControl.Proofs.Virtual.Latency
import AvControl.Proofs.Virtual.Lifetime
import AvControl.Proofs.Virtual.Readback
import AvControl.Proofs.Virtual.Readings
import AvControl.Proofs.Virtual.Reopening
import AvControl.Proofs.Virtual.Repetition
import AvControl.Proofs.Virtual.Updates
import AvControl.Proofs.Virtual.Visits
import AvControl.Proofs.Virtual.Wiring
import AvControl.Proofs.Virtual.World
import AvControl.Proofs.Wire.RoundTrip
import AvControl.Response
import AvControl.Room
import AvControl.RoomStore
import AvControl.Settings.Basic
import AvControl.Settings.Environment
import AvControl.Settings.Source
import AvControl.Settings.Startup
import AvControl.SortedMap
import AvControl.Text.Hexadecimal
import AvControl.Text.Quoted
import AvControl.Text.Unprintable
import AvControl.Toml.Datetime
import AvControl.Toml.Document
import AvControl.Toml.Numeral
import AvControl.Toml.Text
import AvControl.Toml.Value
import AvControl.Virtual.Configuration
import AvControl.Virtual.Display
import AvControl.Virtual.Driver
import AvControl.Virtual.Dsp
import AvControl.Virtual.Level
import AvControl.Virtual.Switcher
import AvControl.Wire.Answer
import AvControl.Wire.Response
import AvControl.Wire.Room
import AvControl.Wire.State
