import KDispatch.Program.Run
import KDispatch.Shell.Runner

/-!
The command line of the program. The files that a request can touch are loaded, the program is run on
them as a value, and what has changed is written back.
-/

open KDispatch

/-- The location of an absolute path. -/
def locationOf (path : String) : Location := (Path.names path).filter (· ≠ "")

def pathOf (location : Location) : String := "/" ++ "/".intercalate location

/-- What stands at a location on disk below an existing directory; scripts count as executable. -/
def loadNode (location : Location) : IO (Option Node) := do
  try
    let content ← IO.FS.readBinFile (pathOf location)
    let bytes := content.toList
    return some (.file bytes (bytes.take 2 == [0x23, 0x21]))
  catch
    | .inappropriateType .. => return some .directory
    | _ => return none

/-- Loads the directories on the way to a location, and what stands there. -/
def loadPath (fs : FileSystem) (location : Location) : IO FileSystem := do
  let mut files := fs
  for length in List.range location.length do
    let part := location.take (length + 1)
    if files.node? part = none ∧ files.node? part.dropLast = some .directory then
      match ← loadNode part with
      | some node => files := files.put part node
      | none => pure ()
  return files

/-- The paths that a request can touch. -/
def pathsOf (host : Host) (request : Request) : List String :=
  let place : Place → List String
    | .file path => [path]
    | .standard => []
  let stages := graphStages.flatMap fun stage =>
    match request.definition with
    | some directory =>
      let base := Path.join directory stage
      [Path.withExtension base "json", Path.withExtension base "dot"]
    | none => []
  let programs := request.command.tool?.toList.map (·.program request.release)
  host.temporaryDirectory :: place request.input ++ place request.output ++
    request.coverageFile.toList ++ stages ++ programs ++ request.toolArguments

/-- The file system as far as a request can touch it. -/
def loadFiles (host : Host) (request : Request) : IO FileSystem := do
  let directory := locationOf ((← IO.getEnv "PWD").getD "/")
  let mut files := Shell.Installation.files directory
  files ← loadPath files directory
  for path in pathsOf host request do
    let location := locationOf path
    files ← loadPath files (if Path.isAbsolute path then location else directory ++ location)
  return files

/-- Writes back the nodes that differ. -/
def storeFiles (before after : FileSystem) : IO Unit := do
  for (location, node) in after.nodes.reverse do
    if before.node? location ≠ some node then
      match node with
      | .directory => IO.FS.createDirAll (pathOf location)
      | .file content _ => IO.FS.writeBinFile (pathOf location) (ByteArray.mk content.toArray)
      | .link _ | .fifo | .device _ => pure ()
  for (location, node) in before.nodes do
    if after.node? location = none then
      match node with
      | .file _ _ => IO.FS.removeFile (pathOf location)
      | _ => pure ()

/-- Whether a record is shown: those for debugging are not. -/
def isShown : Diagnostic → Bool
  | .record r => r.level ≠ .debug
  | .text _ => true

def main (arguments : List String) : IO UInt32 := do
  let settings : Program.Settings := {
    logFormat := (← IO.getEnv Log.formatVariable).map utf8
    release := ← IO.getEnv releaseVariable
    words := arguments }
  let run := Shell.runnerWith settings.inherited
  let host : Host := ⟨run, "/tmp", ".krelay-" ++ toString (← IO.monoNanosNow)⟩
  let request := Request.ofWords settings.release settings.words
  let before ←
    match request with
    | .ok request => loadFiles host request
    | .error _ => pure (FileSystem.ofNodes [] [])
  let stdin ←
    match request with
    | .ok request =>
      if request.input = .standard ∧ request.command.tool?.isSome then
        (← IO.getStdin).readBinToEnd
      else pure ByteArray.empty
    | .error _ => pure ByteArray.empty
  let (outcome, session) := Program.run host settings (Session.start before stdin.toList)
  storeFiles before session.files
  (← IO.getStdout).write (ByteArray.mk session.stdout.toArray)
  let format := (Log.Format.ofVariable settings.logFormat).toOption.getD .human
  let text := Diagnostic.fullText format (outcome.diagnostics.filter isShown)
  (← IO.getStderr).putStr (String.ofList text)
  return outcome.exitCode.toUInt32
