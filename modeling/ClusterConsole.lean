import ClusterConsole.Text.Blank
import ClusterConsole.Text.Line
import ClusterConsole.Path
import ClusterConsole.SystemError
import ClusterConsole.Service
import ClusterConsole.Roster
import ClusterConsole.Cluster
import ClusterConsole.Image
import ClusterConsole.Overrides
import ClusterConsole.Secret
import ClusterConsole.Readiness
import ClusterConsole.Outcome
import ClusterConsole.Event
import ClusterConsole.Invocation
import ClusterConsole.Text.Width
import ClusterConsole.Number.Binary64
import ClusterConsole.Failure
import ClusterConsole.Toml.Numeral
import ClusterConsole.Toml.Document
import ClusterConsole.Config.Decode
import ClusterConsole.Procedure.Surroundings
import ClusterConsole.Operation.Prerequisites
import ClusterConsole.Operation.Lifecycle
import ClusterConsole.Operation.Deployment
import ClusterConsole.Operation.Observation
import ClusterConsole.Rehearsal.Basic
import ClusterConsole.Diagnostic
import ClusterConsole.Console.Summary
import ClusterConsole.Console.Spinner
import ClusterConsole.CommandLine.Parse
import ClusterConsole.Console.Run
import ClusterConsole.Program.Search
import ClusterConsole.Program.Launch
import ClusterConsole.Main
import ClusterConsole.Proofs.Procedure.Ensures
import ClusterConsole.Proofs.Session.Basic
import ClusterConsole.Proofs.Procedure.AsksOnly
import ClusterConsole.Proofs.Session.Consent
import ClusterConsole.Proofs.Session.GatedOperations
import ClusterConsole.Proofs.Session.FailStop
import ClusterConsole.Proofs.Roster.Resolution
import ClusterConsole.Proofs.Session.Announcement
import ClusterConsole.Proofs.Session.CleanOutcome
import ClusterConsole.Proofs.Secret.Reading
import ClusterConsole.Proofs.Overrides.Parsing
import ClusterConsole.Proofs.Yaml.DoubleQuoted
import ClusterConsole.Proofs.Secret.Scalars
import ClusterConsole.Proofs.Text.Lines
import ClusterConsole.Proofs.Cluster.Listing
import ClusterConsole.Proofs.Procedure.Replies
import ClusterConsole.Proofs.Session.Lifecycle
import ClusterConsole.Proofs.Cluster.Tool
import ClusterConsole.Proofs.Session.ClusterMachine
import ClusterConsole.Proofs.Files.Changes
import ClusterConsole.Proofs.Files.Disk
import ClusterConsole.Proofs.Secret.Writing
import ClusterConsole.Proofs.Session.Steps
import ClusterConsole.Proofs.Session.Freshness
import ClusterConsole.Proofs.Session.BracketedOperations
import ClusterConsole.Proofs.Session.Brackets
import ClusterConsole.Proofs.Session.Prerequisites
import ClusterConsole.Proofs.Console.Commands
import ClusterConsole.Proofs.Console.Execution
import ClusterConsole.Proofs.Roster.LogTargets
import ClusterConsole.Proofs.Session.Frame
import ClusterConsole.Proofs.Json.Reading
import ClusterConsole.Proofs.Console.Speech
import ClusterConsole.Proofs.Console.Presentation
import ClusterConsole.Proofs.Console.ObjectLines
import ClusterConsole.Proofs.Overrides.LastValues
import ClusterConsole.Proofs.Roster.Validation
import ClusterConsole.Proofs.Config.Validation
import ClusterConsole.Proofs.Image.Batch
import ClusterConsole.Proofs.Outcome.Folding
import ClusterConsole.Proofs.Program.Search
import ClusterConsole.Proofs.Console.Interrupts
import ClusterConsole.Proofs.Console.Pauses
import ClusterConsole.Proofs.Console.DisplayLoops
import ClusterConsole.Proofs.Config.Records
import ClusterConsole.Proofs.Toml.DistinctKeys
import ClusterConsole.Proofs.Config.Edits
import ClusterConsole.Proofs.Config.Fields
import ClusterConsole.Proofs.Config.Steadiness
import ClusterConsole.Proofs.Config.KeyByKey
import ClusterConsole.Proofs.Invocation.Reading
import ClusterConsole.Proofs.Shell.Patterns
import ClusterConsole.Proofs.Shell.Fields
import ClusterConsole.Proofs.Shell.Processes
import ClusterConsole.Proofs.Shell.Quotes
import ClusterConsole.Proofs.Shell.Variables
import ClusterConsole.Proofs.Shell.Arithmetic
import ClusterConsole.Proofs.Text.Decoding
import ClusterConsole.Proofs.Program.Launching
import ClusterConsole.Proofs.Shell.Streams
