import Stepwise.Run.Message
import Stepwise.Graph.Json
import Stepwise.Instrument.Program
import Stepwise.Analysis.Json
import Stepwise.Debuggee.Action
import Stepwise.Debuggee.Headers
import Stepwise.Run.Basic
import Stepwise.Run.Settle
import Stepwise.Run.Coordinator
import Stepwise.Session.Basic
import Stepwise.Session.Json
import Stepwise.Console.Command
import Stepwise.Console.Render
import Stepwise.Console.Basic
import Stepwise.Toml.Basic
import Stepwise.Toml.Quoted
import Stepwise.Toml.Reader
import Stepwise.Files.Basic
import Stepwise.Toolchain.Settings
import Stepwise.Toolchain.Compile
import Stepwise.CommandLine.Help
import Stepwise.CommandLine.Reader
import Stepwise.Syntax.Json
import Stepwise.CommandLine.Execution
import Stepwise.Console.Transcript
import Stepwise.Main
import Stepwise.Files.Change
import Stepwise.Files.Machine
import Stepwise.Toolchain.Tool.Basic
import Stepwise.Toolchain.Tool.Print
import Stepwise.Toolchain.Tool.Bracket
import Stepwise.Toolchain.Tool.Regex
import Stepwise.Toolchain.Tool.Sed
import Stepwise.Toolchain.Tool.Glob
import Stepwise.Toolchain.Tool.Place
import Stepwise.Toolchain.Tool.Condition
import Stepwise.Toolchain.Shell.Syntax
import Stepwise.Toolchain.Shell.Token
import Stepwise.Toolchain.Shell.Reader
import Stepwise.Toolchain.Shell.Arithmetic
import Stepwise.Toolchain.Shell.State
import Stepwise.Toolchain.Shell.Scope
import Stepwise.Toolchain.Shell.Redirect
import Stepwise.Toolchain.Shell.Expansion
import Stepwise.Toolchain.Program
import Stepwise.Toolchain.Tool.Table
import Stepwise.Toolchain.Shell.Builtin
import Stepwise.Toolchain.Shell.Run
import Stepwise.Toolchain.Programs
import Stepwise.Proofs.Reading
import Stepwise.Proofs.Chunks
import Stepwise.Proofs.Record
import Stepwise.Proofs.Dumps
import Stepwise.Proofs.GraphOfDump
import Stepwise.Proofs.Session
import Stepwise.Proofs.Edits
import Stepwise.Proofs.Splice
import Stepwise.Proofs.Tree
import Stepwise.Proofs.Statements
import Stepwise.Proofs.Insertion
import Stepwise.Proofs.Bodies
import Stepwise.Proofs.Braces
import Stepwise.Proofs.Announcements
import Stepwise.Proofs.Lines
import Stepwise.Proofs.Stepping
import Stepwise.Proofs.Permission
import Stepwise.Proofs.WakeUp
import Stepwise.Proofs.EventGrammar
import Stepwise.Proofs.Isolation
import Stepwise.Proofs.OnePass
import Stepwise.Proofs.Address
import Stepwise.Proofs.Grouping
import Stepwise.Proofs.StatementLevel
import Stepwise.Proofs.Passes
import Stepwise.Proofs.Edges
import Stepwise.Proofs.Release
import Stepwise.Proofs.SentinelLines
import Stepwise.Proofs.Rendering
import Stepwise.Proofs.Tables
import Stepwise.Proofs.Recovery
import Stepwise.Proofs.Report
import Stepwise.Proofs.Skipped
import Stepwise.Proofs.Access
import Stepwise.Proofs.Renderers
import Stepwise.Proofs.Activations
import Stepwise.Proofs.Allocations
import Stepwise.Proofs.Tracers
import Stepwise.Proofs.LineSets
