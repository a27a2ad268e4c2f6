import KDispatch.CommandLine.Parser
import KDispatch.Log
import KDispatch.Session.Run
import KDispatch.Text.Lines
import KDispatch.Text.Utf8

/-!
The program: its command line, its diagnostics and its exit status.
-/

/-! ## Diagnostics

What goes to standard error: texts as they are, and log records on lines of their own. Where a text
has not ended its line, a record goes on in it.
-/

namespace KDispatch

inductive Diagnostic where
  | text (content : Text)
  | record (record : Log.Record)
  deriving DecidableEq

/-- A line of standard error. -/
inductive DiagnosticLine where
  | text (content : Text)
  | object (value : Json)

namespace Diagnostic

/-- The text of a record in a format, with the end of its line. -/
def recordText (format : Log.Format) (record : Log.Record) : Text :=
  match format with
  | .human => record.toText ++ ['\n']
  | .json => record.toJson.text ++ ['\n']

/-- All diagnostics as one text. -/
def fullText (format : Log.Format) (diagnostics : List Diagnostic) : Text :=
  diagnostics.flatMap fun
    | .text content => content
    | .record r => recordText format r

/-- The lines of a text. -/
def textLines (text : Text) : List DiagnosticLine := (Text.lines text).map .text

/-- What stands behind the last line end of a text. -/
def lastLine (text : Text) : Text := (text.reverse.takeWhile (· ≠ '\n')).reverse

/-- Whether a character may stand before a JSON value. -/
def isJsonBlank (c : Char) : Bool := c = ' ' || c = '\t' || c = '\r'

/-- The lines of the diagnostics after an unfinished line; JSON records are kept as values, and blanks
before them do not count. -/
def linesAfter (format : Log.Format) (unfinished : Text) : List Diagnostic → List DiagnosticLine
  | [] => textLines unfinished
  | .text content :: rest => linesAfter format (unfinished ++ content) rest
  | .record r :: rest =>
    let last := lastLine unfinished
    if format = .json ∧ last.all isJsonBlank then
      let before := unfinished.take (unfinished.length - last.length)
      textLines before ++ .object r.toJson :: linesAfter format [] rest
    else linesAfter format (unfinished ++ recordText format r) rest

def lines (format : Log.Format) (diagnostics : List Diagnostic) : List DiagnosticLine :=
  linesAfter format [] diagnostics

end Diagnostic

/-! ## The run

The whole program: the log format is looked at first, then the command line is read, and then the
request is carried out. The exit status is that of the work, 1 for failures and 2 for usage errors.
-/

namespace Program

/-- The settings that the program is started with. -/
structure Settings where
  /-- The value of the variable that selects the log format. -/
  logFormat : Option Bytes
  /-- The value of the variable that names a release. -/
  release : Option String
  words : List String

/-- The variables that the settings have come from, which the tools inherit. -/
def Settings.inherited (settings : Settings) : List (String × Text) :=
  (settings.release.map fun release =>
      (releaseVariable, (ByteText.ofString release).toList)).toList ++
    (settings.logFormat.map fun format => (Log.formatVariable, ByteText.ofBytes format)).toList

/-- How a run of the program ends. -/
structure Outcome where
  exitCode : Nat
  diagnostics : List Diagnostic

def formatErrorText (e : Log.FormatError) : Text :=
  "failed to initialize logging: ".toList ++ e.message.toList ++ ['\n']

/-- How the program is called. -/
def usageText : Text :=
  ("Usage: krelay [OPTIONS] <parse|run|prove|graph-imports|coverage-log> [K_ARGS]...\n\n" ++
    "  -d, --definition <DIRECTORY>\n  -i, --input <FILE>\n  -o, --output <FILE>\n" ++
    "  -f, --from <pretty|json|kast|binary|kore>\n  -t, --to <pretty|json|kast|binary|kore>\n" ++
    "      --coverage-file <FILE>\n      --k-release <DIRECTORY>\n  -h, --help\n").toList

def usageErrorText : UsageError → Text
  | .help => []
  | .invalidValue => "error: invalid value for an argument\n".toList
  | .unknownArgument => "error: unexpected argument\n".toList
  | .missingArgument => "error: a required argument was not provided\n".toList
  | .repeatedArgument => "error: an argument cannot be used multiple times\n".toList
  | .unexpectedValue => "error: unexpected value for an argument that takes none\n".toList

def errorRecord (error : RequestError) : Log.Record where
  origin := .program
  level := .error
  message := some "command execution failed"
  fields := ("error", .text error.chain) :: (error.code?.map fun c => ("code", Log.Value.text c)).toList

def exitCodeRecord (summary : Summary) : Log.Record where
  origin := .program
  level := .error
  message := some ("Non-zero exit code (" ++ toString summary.exitCode ++ "): " ++ summary.description)
  fields := [("exit_code", .number summary.exitCode), ("command", .quoted summary.command.name)]

/-- What has gone to standard error during the work: its records, and what was written there. -/
def workDiagnostics (s : Session) : List Diagnostic :=
  s.records.map .record ++ [.text (Utf8.decodeLossy s.stderr)]

/-- The outcome of a request; standard error of a tool comes after that of the work. -/
def outcome (s : Session) : Except RequestError Summary → Outcome
  | .error error => ⟨1, workDiagnostics s ++ [.record (errorRecord error)]⟩
  | .ok summary =>
    let relayed := workDiagnostics s ++ [.text summary.stderr]
    if summary.success then ⟨0, relayed⟩
    else ⟨summary.processExitCode, relayed ++ [.record (exitCodeRecord summary)]⟩

/-- Runs the program. -/
def run (host : Host) (settings : Settings) (s : Session) : Outcome × Session :=
  match Log.Format.ofVariable settings.logFormat with
  | .error e => (⟨1, [.text (formatErrorText e)]⟩, s)
  | .ok _ =>
    match Request.ofWords settings.release settings.words with
    | .error .help => (⟨0, []⟩, { s with stdout := s.stdout ++ Utf8.encode usageText })
    | .error e => (⟨e.exitCode, [.text (usageErrorText e)]⟩, s)
    | .ok request =>
      let (result, s) := request.run host s
      (outcome s result, s)

end Program

end KDispatch
