import Testbed.Bytes
import Testbed.CommandLine.Help
import Testbed.CommandLine.Options
import Testbed.CommandLine.Reader
import Testbed.CommandLine.UsageError
import Testbed.CommandLine.Vocabulary
import Testbed.Discovery
import Testbed.Execution.Action
import Testbed.Execution.Build
import Testbed.Execution.Execute
import Testbed.Execution.Failure
import Testbed.Execution.Sink
import Testbed.Execution.World
import Testbed.FileSystem.Effect
import Testbed.FileSystem.Tool
import Testbed.FileSystem.Tree
import Testbed.FileSystem.Walk
import Testbed.Host.Children
import Testbed.Host.Programs
import Testbed.Host.Search
import Testbed.Host.Site
import Testbed.Host.Work.Basic
import Testbed.Host.Work.Change
import Testbed.Host.Work.Expression
import Testbed.Host.Work.Filter
import Testbed.Host.Work.Lines
import Testbed.Host.Work.Regular
import Testbed.Host.Work.Report
import Testbed.Layout
import Testbed.Log.Directive
import Testbed.Log.Filter
import Testbed.Log.Record
import Testbed.Main
import Testbed.Path
import Testbed.Process.Command
import Testbed.Process.Invocation
import Testbed.Process.Runner
import Testbed.Process.Scripted
import Testbed.Process.WaitStatus
import Testbed.Program
import Testbed.Proofs.CommandLine.Grammar
import Testbed.Proofs.CommandLine.Meaning
import Testbed.Proofs.CommandLine.Reading
import Testbed.Proofs.CommandLine.Spelling
import Testbed.Proofs.CommandLine.WorkerCount
import Testbed.Proofs.Discovery.Exactness
import Testbed.Proofs.Discovery.GroupBinary
import Testbed.Proofs.Discovery.Naming
import Testbed.Proofs.Discovery.Regrouping
import Testbed.Proofs.Execution.Agreement
import Testbed.Proofs.Execution.Announcing
import Testbed.Proofs.Execution.Binary
import Testbed.Proofs.Execution.Building
import Testbed.Proofs.Execution.Calls
import Testbed.Proofs.Execution.Delivery
import Testbed.Proofs.Execution.Echo
import Testbed.Proofs.Execution.Freshness
import Testbed.Proofs.Execution.Ground
import Testbed.Proofs.Execution.Listing
import Testbed.Proofs.Execution.Logging
import Testbed.Proofs.Execution.Output
import Testbed.Proofs.Execution.Permissive
import Testbed.Proofs.Execution.Relevance
import Testbed.Proofs.Execution.Strictness
import Testbed.Proofs.Execution.Transcript
import Testbed.Proofs.Execution.Truncation
import Testbed.Proofs.FileSystem.Effects
import Testbed.Proofs.FileSystem.Leading
import Testbed.Proofs.FileSystem.Standing
import Testbed.Proofs.FileSystem.Walking
import Testbed.Proofs.Process.Ending
import Testbed.Proofs.Process.Rendering
import Testbed.Proofs.Program.Exclusion
import Testbed.Proofs.Program.Status
import Testbed.Proofs.Text.Decoding
import Testbed.Proofs.Text.Numeral
import Testbed.Proofs.Text.Substitution
import Testbed.Shell.Arithmetic
import Testbed.Shell.Builtin
import Testbed.Shell.Call
import Testbed.Shell.Condition
import Testbed.Shell.Duties
import Testbed.Shell.Duties.Arguments
import Testbed.Shell.Duties.Names
import Testbed.Shell.Duties.Places
import Testbed.Shell.Duties.Signals
import Testbed.Shell.Duties.Text
import Testbed.Shell.Duties.Variables
import Testbed.Shell.Escape
import Testbed.Shell.Expansion
import Testbed.Shell.Format
import Testbed.Shell.Glob
import Testbed.Shell.Interpreter
import Testbed.Shell.Machine
import Testbed.Shell.Numeral
import Testbed.Shell.Process
import Testbed.Shell.Reading
import Testbed.Shell.Redirecting
import Testbed.Shell.Script
import Testbed.Shell.Signal
import Testbed.Shell.Surrounding
import Testbed.Shell.Token
import Testbed.SystemError
import Testbed.Text.Blank
import Testbed.Text.CharSet
import Testbed.Text.Letter
import Testbed.Text.Number
import Testbed.Text.Paragraph
import Testbed.Text.Pattern
import Testbed.Text.Pattern.Automaton
import Testbed.Text.Pattern.Reader
import Testbed.Text.Picture
import Testbed.Text.Plain
import Testbed.Text.Quoted
import Testbed.Text.Utf8
import Testbed.Toolchain
import Testbed.Proofs.CommandLine.Stopping
import Testbed.Proofs.CommandLine.Answering
