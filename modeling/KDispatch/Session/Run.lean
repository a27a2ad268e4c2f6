import KDispatch.CoverageLog
import KDispatch.ImportGraph
import KDispatch.Session.Basic

/-!
Carrying out a request: a coverage log, the import graphs of a compiled definition, or a call of a tool. The
input and the coverage file are opened first, then the output is created, and only then the work begins; at its
end the standard output of the work goes to the output.
-/

namespace KDispatch

/-- A coverage file that has been opened. -/
structure CoverageFile where
  path : String
  location : Location
  deriving DecidableEq

/-- The error of a coverage file that a log stops at. -/
def CoverageFailure.toError (path : String) : CoverageFailure → RequestError
  | .invalidText => .inputOutput path .invalidText
  | .unknownRule id => .kast (.ruleNotFound id)

namespace Session

/-- Writes the log of a coverage file to an output; entries before a failing line are kept. -/
def writeLog (request : Request) (definition : Definition) (coverage : CoverageFile)
    (sink : Sink) : Step (Summary × Sink) := fun s =>
  match s.readAt coverage.location with
  | (.error cause, s) => (.error (.inputOutput coverage.path cause), s)
  | (.ok content, s) =>
    let log := CoverageLog.ofContent definition content
    match s.writeAll (log.entries.flatMap CoverageEntry.pieces) sink with
    | (.error cause, s) => (.error (.inputOutput request.output.name cause), s)
    | (.ok sink, s) =>
      match log.failure with
      | some failure => (.error (failure.toError coverage.path), s)
      | none =>
        (.ok (⟨request.command, "coverage-log " ++ coverage.path, 0, [], []⟩, sink),
          s.log .info "coverage log written" [("rules", .number log.entries.length)])

/-- Writes the coverage log that a request asks for. -/
def logCoverage (request : Request) (coverage : Option CoverageFile) (sink : Sink) :
    Step (Summary × Sink) :=
  Step.reporting fun s =>
    match request.definition, coverage with
    | none, _ => (.error (.missingDefinition request.command), s)
    | some _, none => (.error .missingCoverageFile, s)
    | some directory, some coverage =>
      match s.readDefinition (Path.join directory "compiled.json") with
      | (.error e, s) => (.error (.kast e), s)
      | (.ok definition, s) => writeLog request definition coverage sink s

end Session

/-!
Import graphs of a compiled definition: for each stage of the compilation, in order, the graph of the
document is written beside it. The first stage that fails ends the work.
-/

/-- The documents of a definition directory that have graphs. -/
def graphStages : List String := ["parsed", "compiled"]

namespace Session

/-- Writes the import graph of `base.json` to `base.dot`. -/
def writeGraph (s : Session) (base : String) : Except KastError String × Session :=
  match s.readDefinition (Path.withExtension base "json") with
  | (.error e, s) => (.error e, s.report e.message)
  | (.ok definition, s) =>
    let graph := ImportGraph.ofDefinition definition
    let target := Path.withExtension base "dot"
    match s.files.write target (Utf8.encode graph.dotText) with
    | .error cause =>
      let e := KastError.inaccessible target cause
      (.error e, s.report e.message)
    | .ok files =>
      (.ok target,
        { s with files }.log .info "wrote import graph"
          [("path", .text target), ("modules", .number graph.nodes.length),
            ("imports", .number graph.edges.length)])

/-- Writes the graphs of stages up to the first one that fails; tells whether none has. -/
def writeGraphs (directory : String) : List String → Session → Bool × Session
  | [], s => (true, s)
  | stage :: stages, s =>
    let base := Path.join directory stage
    match s.writeGraph base with
    | (.ok _, s) => writeGraphs directory stages s
    | (.error e, s) =>
      (false,
        s.log .warn "import graph generation failed"
          [("base", .text base), ("error", .text e.message), ("code", .text e.code)])

/-- Writes the import graphs of the definition that a request names. -/
def renderGraphs (request : Request) : Step Summary := Step.reporting fun s =>
  match request.definition with
  | none => (.error (.missingDefinition request.command), s)
  | some directory =>
    let (written, s) := writeGraphs directory graphStages s
    (.ok ⟨request.command, "graph-imports " ++ directory, if written then 0 else 1, [], []⟩, s)

end Session

/-!
Forwarding the input of a request to a tool. The tool gets the input as a file: standard input is
copied into a temporary one, which is taken away when the tool has ended.
-/

/-- The input as a file, and the location of the temporary file if it is one. -/
structure InputFile where
  path : String
  temporary : Option Location
  deriving DecidableEq

namespace Session

/-- Provides the input as a file. -/
def provideInput (host : Host) (input : Place) : Step InputFile := Step.reporting fun s =>
  match input with
  | .file path => (.ok ⟨path, none⟩, s)
  | .standard =>
    match s.files.create host.temporaryPath with
    | .error cause => (.error (.inputOutput host.temporaryDirectory cause), s)
    | .ok (location, files) =>
      let copied := { s with files := files.writeAt location 0 s.stdin, stdin := [] }
      (.ok ⟨host.temporaryPath, some location⟩,
        copied.log .debug "copied stdin to temporary file"
          [("bytes", .number s.stdin.length), ("path", .text host.temporaryPath)])

/-- Takes a temporary input away. -/
def releaseInput (s : Session) (input : InputFile) : Session :=
  match input.temporary with
  | none => s
  | some location => { s with files := s.files.remove location }

/-- Runs a call to its end while `sink` is open; gives the sink after it too, as the call may have
moved or removed its file. -/
def runCall (host : Host) (sink : Sink) (call : Call) : Step (ToolOutput × Sink) :=
  Step.reporting fun s =>
    let s := s.log .info "running toolchain" [("command", .text call.display)]
    match host.run.start call sink.location? s.files with
    | .error cause => (.error (.spawn call.program cause), s)
    | .ok process =>
      let output := ToolOutput.ofProcess process
      (.ok (output, sink.relocate process.openFile),
        { s with files := process.files, calls := s.calls ++ [call] }.log .debug
          "toolchain finished"
          [("code", .number output.code),
            ("stdout_bytes", .number (Utf8.encode output.stdout).length),
            ("stderr_bytes", .number (Utf8.encode output.stderr).length)])

/-- Runs a tool on the input of a request. -/
def runTool (host : Host) (request : Request) (sink : Sink) (tool : Tool) :
    Step (Summary × Sink) :=
  Step.reporting fun s =>
    match provideInput host request.input s with
    | (.error e, s) => (.error e, s)
    | (.ok input, s) =>
      let call := request.call tool input.path
      match runCall host sink call s with
      | (.error e, s) => (.error e, s.releaseInput input)
      | (.ok (output, sink), s) =>
        (.ok (⟨request.command, call.display, output.code, output.stdout, output.stderr⟩, sink),
          s.releaseInput input)

end Session

/-!
Carrying out a request. The input and the coverage file are opened first, then the output is created,
and only then the work begins; at its end the standard output of the work goes to the output.
-/

/-- Checks that a file can be opened for reading. -/
def openToRead (fs : FileSystem) (path : String) : Except RequestError Location :=
  match fs.openToRead path with
  | .error cause => .error (.inputOutput path cause)
  | .ok location => .ok location

namespace Place

/-- Checks that an input can be opened. -/
def checkReadable (fs : FileSystem) : Place → Except RequestError Unit
  | .standard => .ok ()
  | .file path => (openToRead fs path).map fun _ => ()

end Place

namespace Request

/-- Opens the coverage file if there is one. -/
def openCoverage (request : Request) (fs : FileSystem) :
    Except RequestError (Option CoverageFile) :=
  match request.coverageFile with
  | none => .ok none
  | some path => (openToRead fs path).map fun location => some ⟨path, location⟩

/-- Opens the files that a request reads. -/
def openInputs (request : Request) (fs : FileSystem) :
    Except RequestError (Option CoverageFile) :=
  match request.input.checkReadable fs with
  | .error e => .error e
  | .ok () => request.openCoverage fs

/-- Does the work of a request with its output opened. -/
def perform (host : Host) (request : Request) (coverage : Option CoverageFile) (sink : Sink) :
    Step (Summary × Sink) := fun s =>
  match request.command with
  | .graphImports =>
    match s.renderGraphs request with
    | (.error e, s) => (.error e, s)
    | (.ok summary, s) => (.ok (summary, sink), s)
  | .coverageLog => s.logCoverage request coverage sink
  | .parse => s.runTool host request sink .kast
  | .run => s.runTool host request sink .krun
  | .prove => s.runTool host request sink .kprove

/-- Carries out a request. -/
def run (host : Host) (request : Request) : Step Summary := Step.reporting fun s =>
  let s := s.log .info "parsed arguments" []
  match request.openInputs s.files with
  | .error e => (.error e, s)
  | .ok coverage =>
    match s.openSink request.output with
    | .error e => (.error e, s)
    | .ok (sink, s) =>
      match request.perform host coverage sink s with
      | (.error e, s) => (.error e, s)
      | (.ok (summary, sink), s) =>
        match s.finish (Utf8.encode summary.stdout) sink with
        | (.error cause, s) => (.error (.inputOutput request.output.name cause), s)
        | (.ok (), s) => (.ok summary, s)

end Request

end KDispatch
