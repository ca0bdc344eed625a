import JobDispatch.Agent.Config
import JobDispatch.Agent.Desk
import JobDispatch.Agent.Dispatch
import JobDispatch.Agent.Enrolment
import JobDispatch.Agent.Heartbeat
import JobDispatch.Agent.Locks
import JobDispatch.Agent.Meter
import JobDispatch.Agent.Pool
import JobDispatch.Agent.PoolCall
import JobDispatch.Agent.Processor
import JobDispatch.Agent.Script
import JobDispatch.Agent.Slot
import JobDispatch.Agent.SlotRow
import JobDispatch.Agent.Station
import JobDispatch.Agent.Supervision
import JobDispatch.Agent.Watch
import JobDispatch.Agent.Worker
import JobDispatch.Client.Basic
import JobDispatch.Client.Call
import JobDispatch.Client.Error
import JobDispatch.Client.Runner
import JobDispatch.Client.Transfer
import JobDispatch.CommandLine.Command
import JobDispatch.CommandLine.Grammar
import JobDispatch.CommandLine.Identifier
import JobDispatch.CommandLine.Report
import JobDispatch.CommandLine.Run
import JobDispatch.CommandLine.Style
import JobDispatch.Entity
import JobDispatch.Http.Form
import JobDispatch.Http.MediaType
import JobDispatch.Http.Message
import JobDispatch.Http.Percent
import JobDispatch.Http.Url
import JobDispatch.Job.Basic
import JobDispatch.Job.Change
import JobDispatch.Job.Request
import JobDispatch.Json.Decoder
import JobDispatch.Json.Draft
import JobDispatch.Json.Number
import JobDispatch.Json.Reader
import JobDispatch.Json.Value
import JobDispatch.Main
import JobDispatch.Page
import JobDispatch.Pattern.Bracket
import JobDispatch.Pattern.Cache
import JobDispatch.Pattern.Competency
import JobDispatch.Pattern.Image
import JobDispatch.Pattern.Item
import JobDispatch.Pattern.Node
import JobDispatch.Pattern.Reader
import JobDispatch.Pattern.Size
import JobDispatch.Pattern.Tree
import JobDispatch.Proofs.Agent.Account
import JobDispatch.Proofs.Agent.Admission
import JobDispatch.Proofs.Agent.Candidates
import JobDispatch.Proofs.Agent.Closing
import JobDispatch.Proofs.Agent.Competence
import JobDispatch.Proofs.Agent.Course
import JobDispatch.Proofs.Agent.Custody
import JobDispatch.Proofs.Agent.Delivery
import JobDispatch.Proofs.Agent.Exclusion
import JobDispatch.Proofs.Agent.Fleet
import JobDispatch.Proofs.Agent.Giving
import JobDispatch.Proofs.Agent.Handling
import JobDispatch.Proofs.Agent.Handoff
import JobDispatch.Proofs.Agent.Inquiry
import JobDispatch.Proofs.Agent.Intake
import JobDispatch.Proofs.Agent.Line
import JobDispatch.Proofs.Agent.Lockset
import JobDispatch.Proofs.Agent.Lookup
import JobDispatch.Proofs.Agent.Metering
import JobDispatch.Proofs.Agent.Opening
import JobDispatch.Proofs.Agent.Oversight
import JobDispatch.Proofs.Agent.Overtaking
import JobDispatch.Proofs.Agent.Poll
import JobDispatch.Proofs.Agent.Post
import JobDispatch.Proofs.Agent.Program
import JobDispatch.Proofs.Agent.Rehearsal
import JobDispatch.Proofs.Agent.Report
import JobDispatch.Proofs.Agent.Round
import JobDispatch.Proofs.Agent.Scene
import JobDispatch.Proofs.Agent.Selection
import JobDispatch.Proofs.Agent.Shift
import JobDispatch.Proofs.Agent.Slot
import JobDispatch.Proofs.Agent.Stranding
import JobDispatch.Proofs.Agent.Vigil
import JobDispatch.Proofs.Agent.Workshop
import JobDispatch.Proofs.Client.Address
import JobDispatch.Proofs.Client.Classification
import JobDispatch.Proofs.Client.Exchange
import JobDispatch.Proofs.Client.Listing
import JobDispatch.Proofs.Client.Transparent
import JobDispatch.Proofs.CommandLine.Resolution
import JobDispatch.Proofs.CommandLine.RunnerList
import JobDispatch.Proofs.Counting
import JobDispatch.Proofs.Http.Form
import JobDispatch.Proofs.Http.Percent
import JobDispatch.Proofs.Http.Segment
import JobDispatch.Proofs.Http.Url
import JobDispatch.Proofs.Job.Change
import JobDispatch.Proofs.Json.Reading
import JobDispatch.Proofs.Json.Spelling
import JobDispatch.Proofs.Pattern.Anchors
import JobDispatch.Proofs.Pattern.Enclosure
import JobDispatch.Proofs.Pattern.Plain
import JobDispatch.Proofs.Pattern.Row
import JobDispatch.Proofs.Pattern.Spans
import JobDispatch.Proofs.Query.Criteria
import JobDispatch.Proofs.Query.Names
import JobDispatch.Proofs.Query.Search
import JobDispatch.Proofs.Registry.Call
import JobDispatch.Proofs.Registry.Cleaning
import JobDispatch.Proofs.Registry.Lifecycle
import JobDispatch.Proofs.Registry.Listing
import JobDispatch.Proofs.Registry.Log
import JobDispatch.Proofs.Registry.Mishaps
import JobDispatch.Proofs.Registry.Passes
import JobDispatch.Proofs.Registry.Patch
import JobDispatch.Proofs.Registry.Progress
import JobDispatch.Proofs.Registry.Record
import JobDispatch.Proofs.Registry.Registration
import JobDispatch.Proofs.Registry.Reservation
import JobDispatch.Proofs.Registry.Roster
import JobDispatch.Proofs.Registry.Router
import JobDispatch.Proofs.Registry.Running
import JobDispatch.Proofs.Registry.Serving
import JobDispatch.Proofs.Registry.Silence
import JobDispatch.Proofs.Registry.Start
import JobDispatch.Proofs.Registry.Traffic
import JobDispatch.Proofs.Registry.Version
import JobDispatch.Proofs.Store.Identity
import JobDispatch.Proofs.Store.OrderedMap
import JobDispatch.Proofs.Store.Refinement
import JobDispatch.Proofs.Store.Repository
import JobDispatch.Proofs.Text.Decimal
import JobDispatch.Proofs.Text.Utf8
import JobDispatch.Proofs.Time.Calendar
import JobDispatch.Proofs.Time.Elapsed
import JobDispatch.Proofs.Time.Notation
import JobDispatch.Proofs.Wire.Entity
import JobDispatch.Proofs.Wire.Faithful
import JobDispatch.Proofs.Wire.Job
import JobDispatch.Proofs.Wire.Kind
import JobDispatch.Proofs.Wire.Runner
import JobDispatch.Query.Filter
import JobDispatch.Query.JobQuery
import JobDispatch.Query.RunnerQuery
import JobDispatch.Registry.Basic
import JobDispatch.Registry.Cleaner
import JobDispatch.Registry.Config
import JobDispatch.Registry.Jobs
import JobDispatch.Registry.Listing
import JobDispatch.Registry.Router
import JobDispatch.Registry.Runners
import JobDispatch.Runner.Basic
import JobDispatch.Runner.Change
import JobDispatch.Runner.Request
import JobDispatch.Shell.Arithmetic
import JobDispatch.Shell.Builtin
import JobDispatch.Shell.Command
import JobDispatch.Shell.Escape
import JobDispatch.Shell.Printf
import JobDispatch.Shell.Run
import JobDispatch.Shell.Session
import JobDispatch.Shell.Token
import JobDispatch.Shell.Utility
import JobDispatch.Store.Basic
import JobDispatch.Store.Repository
import JobDispatch.Text.Blank
import JobDispatch.Text.Decimal
import JobDispatch.Text.Utf8
import JobDispatch.Time.Calendar
import JobDispatch.Time.Instant
import JobDispatch.Time.Notation
import JobDispatch.Unicode.Age
import JobDispatch.Unicode.Break
import JobDispatch.Unicode.Category
import JobDispatch.Unicode.CharSet
import JobDispatch.Unicode.Folding
import JobDispatch.Unicode.Lowercase
import JobDispatch.Unicode.NamedSet
import JobDispatch.Unicode.Property.Emoji
import JobDispatch.Unicode.Property.Graphemes
import JobDispatch.Unicode.Property.Identifiers
import JobDispatch.Unicode.Property.Letters
import JobDispatch.Unicode.Property.Signs
import JobDispatch.Unicode.Query
import JobDispatch.Unicode.Run
import JobDispatch.Unicode.Script
import JobDispatch.Unicode.ScriptExtension
import JobDispatch.Wire.Basic
import JobDispatch.Wire.Entity
import JobDispatch.Wire.Filter
import JobDispatch.Wire.Job
import JobDispatch.Wire.Runner
import JobDispatch.Wire.Verdict
