import SteadyTask.Activity
import SteadyTask.CommandLine
import SteadyTask.Config.Environment
import SteadyTask.Config.KeyPath
import SteadyTask.Config.Load
import SteadyTask.Config.Section
import SteadyTask.Config.Settings
import SteadyTask.Config.Tree
import SteadyTask.Decimal.Binary
import SteadyTask.Decimal.Notation
import SteadyTask.Decimal.Reading
import SteadyTask.Decimal.Shortest
import SteadyTask.Failure
import SteadyTask.Ini
import SteadyTask.Json.Embedded
import SteadyTask.Json.Fault
import SteadyTask.Json.Number
import SteadyTask.Json.Printer
import SteadyTask.Json.Reader
import SteadyTask.Json.Record
import SteadyTask.Json.Value
import SteadyTask.Json5
import SteadyTask.Llm.ApiError
import SteadyTask.Llm.Client
import SteadyTask.Llm.Completion
import SteadyTask.Llm.Message
import SteadyTask.Llm.Selection
import SteadyTask.Llm.Usage
import SteadyTask.Main
import SteadyTask.Metric.Field
import SteadyTask.Metric.Summary
import SteadyTask.Metric.Values
import SteadyTask.Mode.Basic
import SteadyTask.Mode.Ceilings
import SteadyTask.Mode.Controller
import SteadyTask.Mode.Governance
import SteadyTask.Mode.Subscription
import SteadyTask.Monitor.Lifecycle
import SteadyTask.Monitor.Sampler
import SteadyTask.Narrative.Fields
import SteadyTask.Narrative.Label
import SteadyTask.Narrative.Parse
import SteadyTask.Narrative.Schema
import SteadyTask.Proofs.Activity.Attended
import SteadyTask.Proofs.Activity.Marked
import SteadyTask.Proofs.Activity.Runs
import SteadyTask.Proofs.Activity.Timed
import SteadyTask.Proofs.Decimal.Whole
import SteadyTask.Proofs.Json.Crossed
import SteadyTask.Proofs.Json.CrossedRecords
import SteadyTask.Proofs.Json.Mentions
import SteadyTask.Proofs.Json.Numbers
import SteadyTask.Proofs.Json.Records
import SteadyTask.Proofs.Json.Reread
import SteadyTask.Proofs.Json.Results
import SteadyTask.Proofs.Json.RoundTrip
import SteadyTask.Proofs.Json.Sides
import SteadyTask.Proofs.Json.Steps
import SteadyTask.Proofs.Json.Texts
import SteadyTask.Proofs.Json.Wrapping
import SteadyTask.Proofs.Metric.Breaches
import SteadyTask.Proofs.Metric.Comparison
import SteadyTask.Proofs.Mode.Counters
import SteadyTask.Proofs.Mode.Hysteresis
import SteadyTask.Proofs.Mode.Lockdown
import SteadyTask.Proofs.Mode.Publication
import SteadyTask.Proofs.Mode.Steps
import SteadyTask.Proofs.Mode.Triggers
import SteadyTask.Proofs.Monitor.Breaches
import SteadyTask.Proofs.Monitor.Histories
import SteadyTask.Proofs.Monitor.Lifecycle
import SteadyTask.Proofs.Monitor.Pace
import SteadyTask.Proofs.Monitor.Places
import SteadyTask.Proofs.Monitor.Ticks
import SteadyTask.Proofs.Narrative.Collected
import SteadyTask.Proofs.Narrative.Labels
import SteadyTask.Proofs.Narrative.Matching
import SteadyTask.Proofs.Narrative.NormalForms
import SteadyTask.Proofs.Narrative.Passages
import SteadyTask.Proofs.Narrative.Renderings
import SteadyTask.Proofs.Narrative.Sectioning
import SteadyTask.Proofs.Reflection.Accepted
import SteadyTask.Proofs.Reflection.Tiers
import SteadyTask.Proofs.Reflection.TwoWays
import SteadyTask.Proofs.Route.Classification
import SteadyTask.Proofs.Route.RoundTrip
import SteadyTask.Proofs.Route.Wrapped
import SteadyTask.Proofs.Sensor.Accounting
import SteadyTask.Proofs.Sensor.Coherence
import SteadyTask.Proofs.Sensor.Counters
import SteadyTask.Proofs.Sensor.Histories
import SteadyTask.Proofs.Sensor.Lines
import SteadyTask.Proofs.Sensor.Load
import SteadyTask.Proofs.Sensor.SingleFlight
import SteadyTask.Proofs.Simulation.Answers
import SteadyTask.Proofs.Simulation.Background
import SteadyTask.Proofs.Simulation.CachedRuns
import SteadyTask.Proofs.Simulation.Invisible
import SteadyTask.Proofs.Simulation.Readings
import SteadyTask.Proofs.Simulation.Sampling
import SteadyTask.Proofs.Simulation.Scripted
import SteadyTask.Proofs.Simulation.Seats
import SteadyTask.Proofs.Simulation.Turns
import SteadyTask.Proofs.Simulation.Waiting
import SteadyTask.Proofs.Storage.Appends
import SteadyTask.Proofs.Storage.Framing
import SteadyTask.Proofs.Task.Backoff
import SteadyTask.Proofs.Task.Calls
import SteadyTask.Proofs.Task.Evaluations
import SteadyTask.Proofs.Task.Finish
import SteadyTask.Proofs.Task.Gate
import SteadyTask.Proofs.Task.Interleaving
import SteadyTask.Proofs.Task.Limits
import SteadyTask.Proofs.Task.Malformed
import SteadyTask.Proofs.Task.Office
import SteadyTask.Proofs.Task.Panics
import SteadyTask.Proofs.Task.Paths
import SteadyTask.Proofs.Task.Records
import SteadyTask.Proofs.Task.RetryLaw
import SteadyTask.Proofs.Text.Blanks
import SteadyTask.Proofs.Text.Folding
import SteadyTask.Proofs.Text.Occurrence
import SteadyTask.Proofs.Text.Offsets
import SteadyTask.Proofs.Text.Words
import SteadyTask.Recovery
import SteadyTask.Reflection.Backlog
import SteadyTask.Reflection.Entry
import SteadyTask.Reflection.Generate
import SteadyTask.Reflection.Prompt
import SteadyTask.Ron
import SteadyTask.Route.Basic
import SteadyTask.Route.Decode
import SteadyTask.Sensor.Accelerator
import SteadyTask.Sensor.Basic
import SteadyTask.Sensor.Cache
import SteadyTask.Sensor.Host
import SteadyTask.Sensor.Source
import SteadyTask.Severity
import SteadyTask.Simulation.Run
import SteadyTask.Simulation.World
import SteadyTask.Storage.Folder
import SteadyTask.Storage.Path
import SteadyTask.Storage.Records
import SteadyTask.Task.Context
import SteadyTask.Task.Execute
import SteadyTask.Task.Retry
import SteadyTask.Task.State
import SteadyTask.Text.Blank
import SteadyTask.Text.Fold
import SteadyTask.Text.Letter
import SteadyTask.Text.Printable
import SteadyTask.Text.Reader
import SteadyTask.Text.Search
import SteadyTask.Text.Utf8
import SteadyTask.Time
import SteadyTask.Timestamp
import SteadyTask.Toml.Document
import SteadyTask.Toml.Reader
import SteadyTask.Toml.Scalar
import SteadyTask.Tool.Call
import SteadyTask.Tool.Registry
import SteadyTask.Yaml.Block
import SteadyTask.Yaml.Cursor
import SteadyTask.Yaml.Layout
import SteadyTask.Yaml.Node
import SteadyTask.Yaml.Scalar
import SteadyTask.Yaml.Token
import SteadyTask.Yaml.Value
