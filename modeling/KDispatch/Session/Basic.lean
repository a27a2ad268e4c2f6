import KDispatch.CommandLine.Basic
import KDispatch.Kast.Document
import KDispatch.Log

/-!
Sessions and their steps, and what a request comes to.
-/

/-! ## Errors and summaries

Why a request fails, and how a request that has been carried out is summed up.
-/

namespace KDispatch

inductive RequestError where
  /-- The input, the output or the coverage file cannot be used. -/
  | inputOutput (path : String) (cause : SystemError)
  | missingDefinition (command : Command)
  | missingCoverageFile
  | kast (error : KastError)
  /-- A tool cannot be started. -/
  | spawn (program : String) (cause : SystemError)
  deriving DecidableEq

namespace RequestError

/-- The stable code of errors of documents and tools. -/
def code? : RequestError → Option String
  | .kast error => some error.code
  | .spawn _ _ => some "TOOLCHAIN_SPAWN_FAILED"
  | .inputOutput _ _ => none
  | .missingDefinition _ => none
  | .missingCoverageFile => none

def message : RequestError → String
  | .inputOutput path cause => "I/O failed on `" ++ path ++ "`: " ++ cause.message
  | .missingDefinition command =>
    "`" ++ command.name ++ "` requires a definition directory (--definition)"
  | .missingCoverageFile => "`coverage-log` requires --coverage-file"
  | .kast error => error.message
  | .spawn program cause => "failed to start `" ++ program ++ "`: " ++ cause.message

/-- The text of the underlying error. -/
def cause? : RequestError → Option String
  | .inputOutput _ cause => some cause.message
  | .missingDefinition _ => none
  | .missingCoverageFile => none
  | .kast error => error.cause?
  | .spawn _ cause => some cause.message

/-- The message with the underlying error after it, as a failed run reports it. -/
def chain (error : RequestError) : String :=
  "failed to execute command: " ++ error.message ++
    (match error.cause? with
      | some cause => ": " ++ cause
      | none => "")

end RequestError

/-- What carrying out a request comes to. -/
structure Summary where
  command : Command
  /-- The work that was done, for the report of a failure. -/
  description : String
  exitCode : Int
  stdout : Text
  stderr : Text
  deriving DecidableEq

namespace Summary

def success (summary : Summary) : Bool := summary.exitCode == 0

/-- The status of the whole run: codes that a process cannot exit with become 1. -/
def processExitCode (summary : Summary) : Nat :=
  if 0 ≤ summary.exitCode ∧ summary.exitCode ≤ 255 then summary.exitCode.toNat else 1

end Summary

/-! ## Sessions

Sessions: what a request can see and change, that is files, the standard streams, processes and log
records. A step of the work gives a result and the session after it.
-/

/-- How processes behave, and where temporary files are put. -/
structure Host where
  run : Runner
  temporaryDirectory : String
  temporaryName : String

/-- The path of the temporary file. -/
def Host.temporaryPath (host : Host) : String :=
  Path.join host.temporaryDirectory host.temporaryName

structure Session where
  files : FileSystem
  /-- Standard input that has not been read yet. -/
  stdin : Bytes
  /-- Standard output so far. -/
  stdout : Bytes
  /-- What has been written to standard error as a file so far. -/
  stderr : Bytes
  /-- The processes started so far. -/
  calls : List Call
  /-- The log records so far. -/
  records : List Log.Record

/-- An opened output. -/
inductive Sink where
  | standard
  | errors
  /-- A file, with the offset of the next write. -/
  | file (location : Location) (offset : Nat)
  /-- A file without a place, or a device that takes everything. -/
  | nowhere
  /-- A device that takes nothing. Bytes are held back before they are refused. -/
  | refusing (cause : SystemError) (held : Nat)
  deriving DecidableEq

namespace Sink

/-- The location of a file that is open for writing. -/
def location? : Sink → Option Location
  | .file location _ => some location
  | .standard | .errors | .nowhere | .refusing _ _ => none

/-- The sink after its file has been moved, or removed. -/
def relocate (openFile : Option Location) : Sink → Sink
  | .file _ offset =>
    match openFile with
    | some location => .file location offset
    | none => .nowhere
  | sink => sink

/-- How many bytes a file may hold back before they are written. -/
def capacity : Nat := 8192

/-- How many bytes are held back once `length` more have come, unless some have to be written: a piece
that does not fit pushes the ones before it out, and one of full size is not held back at all. -/
def hold? (held length : Nat) : Option Nat :=
  if held + length ≤ capacity ∧ length < capacity then some (held + length) else none

/-- The sink that an opened location is. -/
def ofLocation (files : FileSystem) (location : Location) : Sink :=
  match files.node? location with
  | some (.device .full) => .refusing .noSpace 0
  | some (.device (.report _)) => .refusing .inputOutput 0
  | some (.device (.descriptor 1)) => .standard
  | some (.device (.descriptor 2)) => .errors
  | some (.device _) => .nowhere
  | _ => .file location 0

end Sink

namespace Session

/-- A session in which nothing has happened yet. -/
def start (files : FileSystem) (stdin : Bytes) : Session := ⟨files, stdin, [], [], [], []⟩

def log (s : Session) (level : Log.Level) (message : String) (fields : List (String × Log.Value)) :
    Session :=
  { s with records := s.records ++ [⟨.step, level, some message, fields⟩] }

/-- Records that a step has failed. -/
def report (s : Session) (message : String) : Session :=
  { s with records := s.records ++ [⟨.step, .error, none, [("error", .text message)]⟩] }

/-- Opens an output; a file is created, or emptied. -/
def openSink (s : Session) : Place → Except RequestError (Sink × Session)
  | .standard => .ok (.standard, s)
  | .file path =>
    match s.files.create path with
    | .error cause => .error (.inputOutput path cause)
    | .ok (location, files) => .ok (Sink.ofLocation files location, { s with files })

/-- Writes bytes to an opened output. -/
def write (s : Session) (bytes : Bytes) : Sink → Except SystemError Sink × Session
  | .standard => (.ok .standard, { s with stdout := s.stdout ++ bytes })
  | .errors => (.ok .errors, { s with stderr := s.stderr ++ bytes })
  | .file location offset =>
    (.ok (.file location (offset + bytes.length)),
      { s with files := s.files.writeAt location offset bytes })
  | .nowhere => (.ok .nowhere, s)
  | .refusing cause held =>
    match Sink.hold? held bytes.length with
    | some held => (.ok (.refusing cause held), s)
    | none => (.error cause, s)

/-- Writes texts one after the other, up to the first that is refused. -/
def writeAll (s : Session) : List Text → Sink → Except SystemError Sink × Session
  | [], sink => (.ok sink, s)
  | text :: texts, sink =>
    match s.write (Utf8.encode text) sink with
    | (.error cause, s) => (.error cause, s)
    | (.ok sink, s) => s.writeAll texts sink

/-- Writes the last bytes and all that are still held back. -/
def finish (s : Session) (bytes : Bytes) (sink : Sink) : Except SystemError Unit × Session :=
  match s.write bytes sink with
  | (.error cause, s) => (.error cause, s)
  | (.ok (.refusing cause (_ + 1)), s) => (.error cause, s)
  | (.ok _, s) => (.ok (), s)

/-- Reads what has been opened at a location; reading standard input uses it up. -/
def readAt (s : Session) (location : Location) : Except SystemError Bytes × Session :=
  match s.files.node? location with
  | some (.device (.descriptor 0)) => (.ok s.stdin, { s with stdin := [] })
  | _ => (s.files.readAt location, s)

/-- Reads the envelope of a document. -/
def readEnvelope (s : Session) (path : String) : Except KastError Envelope × Session :=
  match Document.read s.files path with
  | .error e => (.error e, s.report e.message)
  | .ok envelope =>
    (.ok envelope,
      s.log .debug "decoded KAST envelope"
        (("format", .text (envelope.format.getD "<unset>")) ::
          (envelope.version.map fun n => ("version", Log.Value.number n)).toList))

/-- Reads the definition in a document. -/
def readDefinition (s : Session) (path : String) : Except KastError Definition × Session :=
  match s.readEnvelope path with
  | (.error e, s) => (.error e, s.report e.message)
  | (.ok envelope, s) =>
    match Document.definition path envelope.term with
    | .error e => (.error e, s.report e.message)
    | .ok definition => (.ok definition, s)

end Session

/-- A part of the work on a request. -/
abbrev Step (α : Type) := Session → Except RequestError α × Session

/-- A step whose failure is recorded. -/
def Step.reporting {α : Type} (step : Step α) : Step α := fun s =>
  match step s with
  | (.error e, s) => (.error e, s.report e.message)
  | (.ok value, s) => (.ok value, s)

end KDispatch
