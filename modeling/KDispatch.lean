import KDispatch.CommandLine.Basic
import KDispatch.CommandLine.Parser
import KDispatch.CoverageLog
import KDispatch.Decimal
import KDispatch.Definition.Basic
import KDispatch.Definition.Decode
import KDispatch.FileSystem.Access
import KDispatch.FileSystem.Basic
import KDispatch.ImportGraph
import KDispatch.Json.Numeral
import KDispatch.Json.Printer
import KDispatch.Json.Reader
import KDispatch.Json.StringLiteral
import KDispatch.Json.Value
import KDispatch.Kast.Document
import KDispatch.Log
import KDispatch.Main
import KDispatch.Ordered
import KDispatch.Printing.Rule
import KDispatch.Printing.SymbolTable
import KDispatch.Program.Run
import KDispatch.Proofs.CommandLine.Options
import KDispatch.Proofs.CommandLine.PassingOn
import KDispatch.Proofs.CommandLine.Provenance
import KDispatch.Proofs.CommandLine.Reading
import KDispatch.Proofs.Condition.Simplification
import KDispatch.Proofs.CoverageLog.Lines
import KDispatch.Proofs.CoverageLog.Paragraphs
import KDispatch.Proofs.CoverageLog.Run
import KDispatch.Proofs.Definition.Encoding
import KDispatch.Proofs.Definition.Lookup
import KDispatch.Proofs.Definition.SourceMap
import KDispatch.Proofs.Dots.Collapse
import KDispatch.Proofs.Dots.Elision
import KDispatch.Proofs.Dots.Folding
import KDispatch.Proofs.FileSystem.Frame
import KDispatch.Proofs.FileSystem.Fresh
import KDispatch.Proofs.FileSystem.Names
import KDispatch.Proofs.FileSystem.Paths
import KDispatch.Proofs.ImportGraph.Dot
import KDispatch.Proofs.Json.Compact
import KDispatch.Proofs.Json.Printer
import KDispatch.Proofs.Json.Reader
import KDispatch.Proofs.Json.Scalar
import KDispatch.Proofs.Json.Value
import KDispatch.Proofs.Kast.Changes
import KDispatch.Proofs.Kast.Document
import KDispatch.Proofs.Kast.Grammar
import KDispatch.Proofs.Kast.Insertion
import KDispatch.Proofs.Kast.ObjectForm
import KDispatch.Proofs.Kast.Replacement
import KDispatch.Proofs.KeyMap
import KDispatch.Proofs.Printing.Arity
import KDispatch.Proofs.Printing.Fragments
import KDispatch.Proofs.Printing.Nesting
import KDispatch.Proofs.Printing.Rule
import KDispatch.Proofs.Printing.SymbolTable
import KDispatch.Proofs.Program.ExitStatus
import KDispatch.Proofs.Rewrites.Changes
import KDispatch.Proofs.Rewrites.Nesting
import KDispatch.Proofs.Rewrites.Projection
import KDispatch.Proofs.Rewrites.Sinking
import KDispatch.Proofs.Rule.AbridgedChanges
import KDispatch.Proofs.Rule.Recovery
import KDispatch.Proofs.Rule.Stages
import KDispatch.Proofs.Rule.Variables
import KDispatch.Proofs.Session.Checks
import KDispatch.Proofs.Session.Course
import KDispatch.Proofs.Session.Frame
import KDispatch.Proofs.Session.Graphs
import KDispatch.Proofs.Session.Ignoring
import KDispatch.Proofs.Session.Inputs
import KDispatch.Proofs.Session.Output
import KDispatch.Proofs.Session.Relay
import KDispatch.Proofs.Session.StandardInput
import KDispatch.Proofs.Session.Tool
import KDispatch.Proofs.Term.Casts
import KDispatch.Proofs.Term.Encoding
import KDispatch.Proofs.Term.Renaming
import KDispatch.Proofs.Term.Subterms
import KDispatch.Proofs.Term.Traversal
import KDispatch.Proofs.Text.Layout
import KDispatch.Proofs.Text.Lines
import KDispatch.Proofs.Text.Utf8
import KDispatch.Rule.Basic
import KDispatch.Rule.CoverageLogger
import KDispatch.Rule.Minimize
import KDispatch.Sample.Document
import KDispatch.Sample.Release
import KDispatch.Session.Basic
import KDispatch.Session.Run
import KDispatch.Shell.Arithmetic
import KDispatch.Shell.Builtin.Output
import KDispatch.Shell.Builtin.Parameters
import KDispatch.Shell.Builtin.Processes
import KDispatch.Shell.Condition
import KDispatch.Shell.Expansion
import KDispatch.Shell.Extended.Arithmetic
import KDispatch.Shell.Extended.Builtin.Declaration
import KDispatch.Shell.Extended.Builtin.Directories
import KDispatch.Shell.Extended.Builtin.Lookup
import KDispatch.Shell.Extended.Builtin.Options
import KDispatch.Shell.Extended.Builtin.Processes
import KDispatch.Shell.Extended.Builtin.Settings
import KDispatch.Shell.Extended.Builtin.Streams
import KDispatch.Shell.Extended.Calling
import KDispatch.Shell.Extended.Condition
import KDispatch.Shell.Extended.Evaluator
import KDispatch.Shell.Extended.Expansion
import KDispatch.Shell.Extended.Format
import KDispatch.Shell.Extended.Interpreter
import KDispatch.Shell.Extended.Parser
import KDispatch.Shell.Extended.Pattern
import KDispatch.Shell.Extended.Printing
import KDispatch.Shell.Extended.Start
import KDispatch.Shell.Extended.State
import KDispatch.Shell.Extended.Syntax
import KDispatch.Shell.Extended.Token
import KDispatch.Shell.Extended.Value
import KDispatch.Shell.Extended.Variable
import KDispatch.Shell.Extended.Words
import KDispatch.Shell.Indented.Builtins
import KDispatch.Shell.Indented.Containers
import KDispatch.Shell.Indented.Core
import KDispatch.Shell.Indented.Evaluation
import KDispatch.Shell.Indented.Finding
import KDispatch.Shell.Indented.Format
import KDispatch.Shell.Indented.Functions
import KDispatch.Shell.Indented.Interpreter
import KDispatch.Shell.Indented.Iteration
import KDispatch.Shell.Indented.Member
import KDispatch.Shell.Indented.Notation
import KDispatch.Shell.Indented.Operation
import KDispatch.Shell.Indented.Parser
import KDispatch.Shell.Indented.Start
import KDispatch.Shell.Indented.State
import KDispatch.Shell.Indented.Streams
import KDispatch.Shell.Indented.Syntax
import KDispatch.Shell.Indented.System
import KDispatch.Shell.Indented.Texts
import KDispatch.Shell.Interpreter
import KDispatch.Shell.Machine
import KDispatch.Shell.Number
import KDispatch.Shell.Parser
import KDispatch.Shell.Pattern
import KDispatch.Shell.Printf
import KDispatch.Shell.Regex
import KDispatch.Shell.Runner
import KDispatch.Shell.Scan.Reader
import KDispatch.Shell.Scan.Search
import KDispatch.Shell.Sigil.Calling
import KDispatch.Shell.Sigil.Calls
import KDispatch.Shell.Sigil.Evaluation
import KDispatch.Shell.Sigil.Finding
import KDispatch.Shell.Sigil.Functions
import KDispatch.Shell.Sigil.Interpreter
import KDispatch.Shell.Sigil.Operation
import KDispatch.Shell.Sigil.Parser
import KDispatch.Shell.Sigil.Start
import KDispatch.Shell.Sigil.State
import KDispatch.Shell.Sigil.Streams
import KDispatch.Shell.Sigil.Syntax
import KDispatch.Shell.Sigil.Value
import KDispatch.Shell.State
import KDispatch.Shell.Syntax
import KDispatch.Shell.Utility.Basic
import KDispatch.Shell.Utility.Calendar
import KDispatch.Shell.Utility.Fields
import KDispatch.Shell.Utility.Files
import KDispatch.Shell.Utility.Find
import KDispatch.Shell.Utility.Find.Query
import KDispatch.Shell.Utility.Grep
import KDispatch.Shell.Utility.Listing
import KDispatch.Shell.Utility.Numbers
import KDispatch.Shell.Utility.Paths
import KDispatch.Shell.Utility.Records
import KDispatch.Shell.Utility.Records.Evaluation
import KDispatch.Shell.Utility.Records.Reader
import KDispatch.Shell.Utility.Records.State
import KDispatch.Shell.Utility.Records.Syntax
import KDispatch.Shell.Utility.Records.Table
import KDispatch.Shell.Utility.Records.Value
import KDispatch.Shell.Utility.Sed
import KDispatch.Shell.Utility.Sed.Editor
import KDispatch.Shell.Utility.Sed.Reader
import KDispatch.Shell.Utility.Sort
import KDispatch.Shell.Utility.Streams
import KDispatch.Shell.Utility.System
import KDispatch.Shell.Utility.Transfer
import KDispatch.Shell.Utility.Translate
import KDispatch.Shell.Words
import KDispatch.Term.Basic
import KDispatch.Term.Decode
import KDispatch.Term.Passes
import KDispatch.Term.Traversal
import KDispatch.Text.Invisible
import KDispatch.Text.Lines
import KDispatch.Text.Utf8
import KDispatch.Toolchain
