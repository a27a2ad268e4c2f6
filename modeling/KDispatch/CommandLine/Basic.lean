import KDispatch.Toolchain

/-!
Requests: a command with the places and formats of its input and output and further settings, as a
command line gives them.
-/

namespace KDispatch

inductive Command where
  | parse
  | run
  | prove
  | graphImports
  | coverageLog
  deriving DecidableEq

namespace Command

def name : Command → String
  | .parse => "parse"
  | .run => "run"
  | .prove => "prove"
  | .graphImports => "graph-imports"
  | .coverageLog => "coverage-log"

def all : List Command := [.parse, .run, .prove, .graphImports, .coverageLog]

def ofName? (name : String) : Option Command := all.find? (·.name = name)

/-- The tool that a command forwards its input to. -/
def tool? : Command → Option Tool
  | .parse => some .kast
  | .run => some .krun
  | .prove => some .kprove
  | .graphImports => none
  | .coverageLog => none

end Command

/-- Formats of terms that the tools understand. -/
inductive TermFormat where
  | pretty
  | json
  | kast
  | binary
  | kore
  deriving DecidableEq

namespace TermFormat

def name : TermFormat → String
  | .pretty => "pretty"
  | .json => "json"
  | .kast => "kast"
  | .binary => "binary"
  | .kore => "kore"

def all : List TermFormat := [.pretty, .json, .kast, .binary, .kore]

def ofName? (name : String) : Option TermFormat := all.find? (·.name = name)

end TermFormat

/-- A standard stream or a file. -/
inductive Place where
  | standard
  | file (path : String)
  deriving DecidableEq

namespace Place

/-- The name of the standard streams. -/
def standardName : String := "-"

def ofString (name : String) : Place := if name = standardName then .standard else .file name

/-- The name that diagnostics use. -/
def name : Place → String
  | .standard => standardName
  | .file path => path

end Place

structure Request where
  command : Command
  definition : Option String
  input : Place
  output : Place
  inputFormat : TermFormat
  outputFormat : TermFormat
  coverageFile : Option String
  release : Option String
  /-- Passed on to the tool as they are. -/
  toolArguments : List String
  deriving DecidableEq

namespace Request

/-- The arguments that tell a tool the formats of its input and output. -/
def formatArguments (request : Request) : List String :=
  ["--input", request.inputFormat.name, "--output", request.outputFormat.name]

/-- The call of a tool for a request, on the input at a path. -/
def call (request : Request) (tool : Tool) (inputPath : String) : Call :=
  Call.ofTool tool request.release request.definition inputPath
    (request.formatArguments ++ request.toolArguments)

end Request

end KDispatch
