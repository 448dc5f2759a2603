import SoakRig.Address
import SoakRig.Binary64.Arithmetic
import SoakRig.Binary64.Basic
import SoakRig.Binary64.Literal
import SoakRig.CommandLine.Client
import SoakRig.CommandLine.Daemon
import SoakRig.CommandLine.Grammar
import SoakRig.Decimal.Digits
import SoakRig.Decimal.Fixed
import SoakRig.Decimal.Shortest
import SoakRig.Decimal.Signed
import SoakRig.Duration
import SoakRig.Endpoint
import SoakRig.Environment
import SoakRig.Environment.Reader
import SoakRig.Execution
import SoakRig.FileTree
import SoakRig.Http.Form
import SoakRig.Http.Router
import SoakRig.Http.Uri
import SoakRig.Injector
import SoakRig.Injector.Fleet
import SoakRig.Json
import SoakRig.Json.Reading
import SoakRig.Json.Records
import SoakRig.Log.Directive
import SoakRig.Log.Filter
import SoakRig.Log.Output
import SoakRig.Log.Record
import SoakRig.Log.Settings
import SoakRig.Log.Threshold
import SoakRig.Main
import SoakRig.Masking
import SoakRig.Network
import SoakRig.Outcome
import SoakRig.Path
import SoakRig.Policy
import SoakRig.Powers
import SoakRig.Program.Client
import SoakRig.Program.Daemon
import SoakRig.Program.Ending
import SoakRig.Proofs.Binary64.Finite
import SoakRig.Proofs.Binary64.Order
import SoakRig.Proofs.Binary64.Reading
import SoakRig.Proofs.Binary64.Rounding
import SoakRig.Proofs.CommandLine.Options
import SoakRig.Proofs.CommandLine.Precedence
import SoakRig.Proofs.Decimal.Spelling
import SoakRig.Proofs.Environment.Answers
import SoakRig.Proofs.Environment.Home
import SoakRig.Proofs.FileTree.Growth
import SoakRig.Proofs.FileTree.Ways
import SoakRig.Proofs.Http.Form
import SoakRig.Proofs.Http.Refinement
import SoakRig.Proofs.Http.Symbol
import SoakRig.Proofs.Injector.Cycle
import SoakRig.Proofs.Injector.Interleaving
import SoakRig.Proofs.Injector.Serving
import SoakRig.Proofs.Json.Canonical
import SoakRig.Proofs.Log.Changes
import SoakRig.Proofs.Lookup
import SoakRig.Proofs.Masking.Arguments
import SoakRig.Proofs.Masking.Closed
import SoakRig.Proofs.Masking.Cuts
import SoakRig.Proofs.Masking.Occurrence
import SoakRig.Proofs.Masking.Pass
import SoakRig.Proofs.Masking.Positions
import SoakRig.Proofs.Masking.Secrets
import SoakRig.Proofs.Program.ExitCode
import SoakRig.Proofs.Seconds
import SoakRig.Proofs.Soak.Abreast
import SoakRig.Proofs.Soak.Balance
import SoakRig.Proofs.Soak.Bytes
import SoakRig.Proofs.Soak.Counts
import SoakRig.Proofs.Soak.Course
import SoakRig.Proofs.Soak.Lines
import SoakRig.Proofs.Soak.LogPath
import SoakRig.Proofs.Soak.Logs
import SoakRig.Proofs.Soak.Pacing
import SoakRig.Proofs.Soak.Report
import SoakRig.Proofs.Soak.Writer
import SoakRig.Proofs.Template.Distinct
import SoakRig.Proofs.Template.Substitution
import SoakRig.Proofs.Text.Utf8
import SoakRig.Proofs.Timing.NearestRank
import SoakRig.Proofs.Timing.Percentile
import SoakRig.Regex.Atom
import SoakRig.Regex.CharSet
import SoakRig.Regex.Depth
import SoakRig.Regex.Expression
import SoakRig.Regex.Mode
import SoakRig.Seconds
import SoakRig.Setting
import SoakRig.Shell.Arithmetic
import SoakRig.Shell.Builtin
import SoakRig.Shell.Condition
import SoakRig.Shell.Expansion
import SoakRig.Shell.Lexeme
import SoakRig.Shell.Pattern
import SoakRig.Shell.Printing
import SoakRig.Shell.Reader
import SoakRig.Shell.Redirection
import SoakRig.Shell.Run
import SoakRig.Shell.Script
import SoakRig.Shell.Session
import SoakRig.Shell.Signal
import SoakRig.Shell.Tools
import SoakRig.Soak.Config
import SoakRig.Soak.Error
import SoakRig.Soak.Iteration
import SoakRig.Soak.Run
import SoakRig.Soak.Summary
import SoakRig.SystemError
import SoakRig.Target
import SoakRig.Template
import SoakRig.Text.Alphanumeric
import SoakRig.Text.Alphanumeric.Table
import SoakRig.Text.Blank
import SoakRig.Text.Lowercase
import SoakRig.Text.Lowercase.Table
import SoakRig.Text.Pieces
import SoakRig.Text.Quoted
import SoakRig.Text.Quoted.Table
import SoakRig.Text.Ranges
import SoakRig.Text.Search
import SoakRig.Text.Terminal
import SoakRig.Text.Utf8
import SoakRig.Timestamp
import SoakRig.Timing
import SoakRig.World
