import KDispatch.FileSystem.Access
import KDispatch.Text.Lines

/-!
Calls of the K tools as processes. A runner says what a process does to the file system, what it
writes and how it ends; a call that cannot be started leaves everything as it is.
-/

namespace KDispatch

inductive Tool where
  | kast
  | krun
  | kprove
  deriving DecidableEq

namespace Tool

def name : Tool → String
  | .kast => "kast"
  | .krun => "krun"
  | .kprove => "kprove"

/-- The executable of a tool: in the `bin` directory of a release, or else found by its name. -/
def program (tool : Tool) : (release : Option String) → String
  | some release => Path.join (Path.join release "bin") tool.name
  | none => tool.name

end Tool

/-- A program and its arguments. -/
structure Call where
  program : String
  arguments : List String
  deriving DecidableEq

namespace Call

/-- The call of a tool on an input: the definition directory comes first, further arguments last. -/
def ofTool (tool : Tool) (release definition : Option String) (input : String)
    (arguments : List String) : Call where
  program := tool.program release
  arguments :=
    (match definition with
      | some directory => ["--directory", directory]
      | none => []) ++ input :: arguments

def commandLine (call : Call) : List String := call.program :: call.arguments

/-- The command line with a space between its words. -/
def display (call : Call) : String := " ".intercalate call.commandLine

def hasNul (call : Call) : Bool := call.commandLine.any (·.toList.contains '\x00')

end Call

structure Signal where
  number : Nat
  positive : 0 < number
  deriving DecidableEq

/-- How a process ends. -/
inductive Ending where
  | exited (code : UInt8)
  | killed (signal : Signal)
  deriving DecidableEq

/-- The exit code, or the negated number of the signal that killed the process. -/
def Ending.code : Ending → Int
  | .exited code => code.toNat
  | .killed signal => -signal.number

/-- What a process has done once it has ended. -/
structure Process where
  ending : Ending
  stdout : Bytes
  stderr : Bytes
  files : FileSystem
  /-- Where the file that its caller holds open stands now; `none` if it has been removed. -/
  openFile : Option Location

/-- Runs a call without standard input; `openFile` is the file that the caller holds open for writing
meanwhile. -/
abbrev Runner := Call → (openFile : Option Location) → FileSystem → Except SystemError Process

/-- The output of a process as text. -/
structure ToolOutput where
  code : Int
  stdout : Text
  stderr : Text
  deriving DecidableEq

namespace ToolOutput

def ofProcess (process : Process) : ToolOutput where
  code := process.ending.code
  stdout := Utf8.decodeLossy process.stdout
  stderr := Utf8.decodeLossy process.stderr

def success (output : ToolOutput) : Bool := output.code == 0

end ToolOutput

/-- Starts a call, unless an argument cannot be passed on. -/
def Runner.start (run : Runner) (call : Call) (openFile : Option Location) (fs : FileSystem) :
    Except SystemError Process :=
  if call.hasNul then .error .nulInArgument else run call openFile fs

end KDispatch
