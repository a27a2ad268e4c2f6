import KDispatch.Shell.Builtin.Processes
import KDispatch.Shell.Expansion
import KDispatch.Shell.Indented.Finding
import KDispatch.Shell.Utility.Find
import KDispatch.Shell.Utility.Listing
import KDispatch.Shell.Utility.Paths

/-!
Files and other programs: the parts of paths, what is known about the files that they lead to, changes of them,
and programs that are run to their ends.
-/

namespace KDispatch.Shell.Indented

namespace Paths

def joined (a b : Text) : Text :=
  if b.head? = some '/' then b
  else if a.isEmpty || a.getLast? = some '/' then a ++ b
  else a ++ '/' :: b

def base (path : Text) : Text := (path.reverse.takeWhile (· ≠ '/')).reverse

def directory (path : Text) : Text :=
  let head := path.take (path.length - (base path).length)
  if head.all (· = '/') then head else (head.reverse.dropWhile (· = '/')).reverse

/-- A path without its extension, and the extension. -/
def extension (path : Text) : Text × Text :=
  let name := base path
  let dots := name.takeWhile (· = '.')
  let rest := name.drop dots.length
  if rest.contains '.' then
    let ending := '.' :: (rest.reverse.takeWhile (· ≠ '.')).reverse
    (path.take (path.length - ending.length), ending)
  else (path, [])

/-- A path without steps that lead nowhere. -/
def plain (path : Text) : Text :=
  let isAbsolute := path.head? = some '/'
  let names := (path.splitOn '/').filter fun n => !n.isEmpty && n ≠ ['.']
  let kept := names.foldl (fun (kept : List Text) n =>
    if n = ['.', '.'] then
      match kept with
      | last :: rest => if last = ['.', '.'] then n :: kept else rest
      | [] => if isAbsolute then [] else [n]
    else n :: kept) []
  let start : Text := if isAbsolute then ['/'] else []
  let all := start ++ ['/'].intercalate kept.reverse
  if all.isEmpty then ['.'] else all

end Paths

namespace Work

/-- The working directory. -/
def directoryNow : Work Text := do
  return decoded (Task.ofLocation (← get).machine.files.workingDirectory)

def absolute (path : Text) : Work Text := do return Paths.plain (Paths.joined (← directoryNow) path)

/-- Changes the files of the machine by something that the system may refuse. -/
def changeFiles (path : Text) (change : FileSystem → Except SystemError FileSystem) : Work Unit := do
  match change (← get).machine.files with
  | .ok files => task (modify fun m => { m with files })
  | .error e => failSystem e (some path)

def nodeAt? (follows : Bool) (path : Text) : Work (Option (Location × Node)) := do
  if path.isEmpty then return none
  else return (← task (Task.nodeWith follows (pathOf path))).toOption

def makeDirectory (path : Text) (mode : Nat) : Work Unit := do
  changeFiles path fun files => files.makeDirectory (Task.path (pathOf path))
  let mask := (← get).machine.mask
  task (Utility.setDirectoryMode (pathOf path) (Utility.withoutBits mode mask))

/-- Makes a directory and those around it. -/
def makeDirectories (isThereOk : Bool) : (fuel : Nat) → Text → Work Unit
  | 0, _ => return
  | fuel + 1, path => do
    let path := if path.getLast? = some '/' && 1 < path.length then path.dropLast else path
    let outer := Paths.directory path
    if !outer.isEmpty && (← nodeAt? true outer).isNone then makeDirectories true fuel outer
    match ← nodeAt? true path with
    | some (_, .directory) => if isThereOk then return else failSystem .alreadyExists (some path)
    | _ => makeDirectory path 0o777

def removeFile (path : Text) : Work Unit := do
  match ← task (Task.entry (pathOf path)) with
  | .error e => failSystem e (some path)
  | .ok (_, .directory) => failSystem .isADirectory (some path)
  | .ok (location, _) => task (Task.removeAt location)

def removeDirectory (path : Text) : Work Unit := do
  match ← task (Task.entry (pathOf path)) with
  | .error e => failSystem e (some path)
  | .ok (location, .directory) => do
    if ((← get).machine.files.entries location).isEmpty then task (Task.removeAt location)
    else failSystem .directoryNotEmpty (some path)
  | .ok _ => failSystem .notADirectory (some path)

def removeTree (path : Text) (ignores : Bool) : Work Unit := do
  match ← task (Task.entry (pathOf path)) with
  | .error e => if ignores then return else failSystem e (some path)
  | .ok (location, .directory) => task (Task.removeAt location)
  | .ok _ => if ignores then return else failSystem .notADirectory (some path)

/-- Fails as the system has failed with two files. -/
def failWithBoth {α : Type} (e : SystemError) (source target : Text) : Work α := do
  let number : Value := .integer ((e.number?.getD 5 : Nat) : Int)
  let reason : Value := .text e.reason.toList
  raise (← new (.record (.kind (kindOfError e))
    [("args", .tuple [number, reason]), ("errno", number), ("strerror", reason), ("filename", .text source),
      ("filename2", .text target)]))

def rename (source target : Text) : Work Unit := do
  let (from_, to_) := (pathOf source, pathOf target)
  match ← task (Task.entry from_), (← get).machine.files.locateEntry (Task.path to_) with
  | .error e, _ | _, .error e => failWithBoth e source target
  | .ok (old, node), .ok location =>
    match (← get).machine.files.node? location, node with
    | some .directory, .directory =>
      if ((← get).machine.files.entries location).isEmpty then task (Task.moveTo old location)
      else failWithBoth .directoryNotEmpty source target
    | some .directory, _ => failWithBoth .isADirectory source target
    | some _, .directory => failWithBoth .notADirectory source target
    | _, _ => task (Task.moveTo old location)

/-- The names in a directory. -/
def namesIn (path : Text) : Work (List Text) := do
  match ← task (Task.node (pathOf path)) with
  | .error e => failSystem e (some path)
  | .ok (location, .directory) =>
    return ((← get).machine.files.entries location).map fun n => decoded (Task.ofPath n)
  | .ok _ => failSystem .notADirectory (some path)

/-- Copies the content of a file. -/
def copyFile (source target : Text) : Work Text := do
  let target ← match ← nodeAt? true target with
    | some (_, .directory) => pure (Paths.joined target (Paths.base source))
    | _ => pure target
  match ← task (Task.readFile (pathOf source)) with
  | .error e => failSystem e (some source)
  | .ok content => do
    match ← openFile target ['w', 'b'] with
    | .object address => do
      writeBytes address content
      closeFile address
      match ← nodeAt? true source, ← nodeAt? true target with
      | some (a, _), some (b, _) =>
        task (modify fun m => { m with files := m.files.setMode b (m.files.modeOf a) })
        return target
      | _, _ => return target
    | _ => return target

/-- What the system tells about a file. -/
def status (follows : Bool) (path : Text) : Work Value := do
  match ← task (Task.nodeWith follows (pathOf path)) with
  | .error e => failSystem e (some path)
  | .ok (location, node) => do
    let files := (← get).machine.files
    let kind := match Utility.Find.kindOf node with
      | 'd' => 0o40000
      | 'l' => 0o120000
      | 'p' => 0o10000
      | 'c' => 0o20000
      | _ => 0o100000
    let time := Numeric.ratio (files.timeOf location) 1000000000
    let number (n : Nat) : Value := .integer (n : Int)
    new (.record (.kind "os.stat_result") [("st_mode", number (kind + files.modeOf location)),
      ("st_ino", number (Utility.Listing.index files location)), ("st_dev", number 1),
      ("st_nlink", number (Utility.Listing.links files location)), ("st_uid", number 0), ("st_gid", number 0),
      ("st_size", number (Utility.Listing.size (some node))), ("st_atime", .real time), ("st_mtime", .real time),
      ("st_ctime", .real time), ("st_mtime_ns", .integer (files.timeOf location))])

/-- The directories below a path, each with the names of directories and of files in it. -/
def walked : (fuel : Nat) → Text → Work (List Value)
  | 0, _ => return []
  | fuel + 1, path => do
    match ← nodeAt? true path with
    | some (_, .directory) => do
      let names ← namesIn path
      let isInner (n : Text) : Work Bool := do
        match ← nodeAt? true (Paths.joined path n) with
        | some (_, .directory) => return true
        | _ => return false
      let inner ← names.filterM isInner
      let files ← names.filterM fun n => do return !(← isInner n)
      let rest ← inner.mapM fun n => walked fuel (Paths.joined path n)
      let own := Value.tuple
        [.text path, ← newList (inner.map .text), ← newList (files.map .text)]
      return own :: rest.flatten
    | _ => return []

/-- The paths that a pattern matches. -/
def matching (pattern : Text) : Work (List Text) := do
  let files := (← get).machine.files
  let word := pathOf pattern
  let isPattern := word.any fun c => c = '*' || c = '?' || c = '['
  let paths := Glyph.paths files (Glyph.ofText false word)
  let found := if paths = [word] && (isPattern || !Paths.isThere files word) &&
      (← nodeAt? true pattern).isNone then [] else paths
  return found.map decoded

end Work

namespace Core

open Work

/-- The text of a path, which may be an object that stands for one. -/
def pathText (core : Core) (value : Value) : Work Text := do
  match value with
  | .text t => return t
  | .bytes t => return decoded t
  | value =>
    match ← memberOfRecord value "__path__" with
    | .text t => return t
    | _ =>
      match ← core.special? value "__fspath__" [] with
      | some (.text t) => return t
      | _ => refuse ("expected str, bytes or os.PathLike object, not " ++ (← kindNameOf value))

/-- What a function for paths gives. -/
def pathFunction (core : Core) (name : String) (arguments : Arguments) : Work Value := do
  let path : Work Text := core.pathText arguments.first
  let isKind (letters : List Char) (follows : Bool) : Work Value := do
    match ← nodeAt? follows (← path) with
    | some (_, node) => ofBool (letters.contains (Utility.Find.kindOf node))
    | none => ofBool false
  match name with
  | "join" => do
    let texts ← arguments.plain.mapM core.pathText
    match texts with
    | [] => refuse "join() missing 1 required positional argument: 'a'"
    | first :: rest => return .text (rest.foldl Paths.joined first)
  | "basename" => return .text (Paths.base (← path))
  | "dirname" => return .text (Paths.directory (← path))
  | "split" => do
    let t ← path
    return .tuple [.text (Paths.directory t), .text (Paths.base t)]
  | "splitext" => do
    let (a, b) := Paths.extension (← path)
    return .tuple [.text a, .text b]
  | "normpath" => return .text (Paths.plain (← path))
  | "abspath" => return .text (← absolute (← path))
  | "realpath" => do
    let t ← path
    match (← get).machine.files.locate (Task.path (pathOf t)) with
    | .ok location => return .text (decoded (Task.ofLocation location))
    | .error _ => return .text (← absolute t)
  | "isabs" => ofBool ((← path).head? = some '/')
  | "exists" => ofBool (← nodeAt? true (← path)).isSome
  | "lexists" => ofBool (← nodeAt? false (← path)).isSome
  | "isfile" => isKind ['f'] true
  | "isdir" => isKind ['d'] true
  | "islink" => isKind ['l'] false
  | "getsize" => memberOfRecord (← status true (← path)) "st_size"
  | "getmtime" | "getctime" | "getatime" => memberOfRecord (← status true (← path)) "st_mtime"
  | "expanduser" => do
    let t ← path
    match t with
    | '~' :: rest =>
      if rest.isEmpty || rest.head? = some '/' then
        let home := ((← get).machine.environment.lookup "HOME").getD "/root".toList
        return .text (decoded home ++ rest)
      else return .text t
    | t => return .text t
  | "expandvars" => return .text (← path)
  | "relpath" => do
    let target ← absolute (← path)
    let start ← match arguments.at? 1 "start" with
      | some v => absolute (← core.pathText v)
      | none => directoryNow
    let names (t : Text) : List String := ((t.splitOn '/').filter (!·.isEmpty)).map String.ofList
    return .text (Utility.relativePath (names start) (names target))
  | "samefile" => do
    match ← nodeAt? true (← path), ← nodeAt? true (← core.pathText arguments.second) with
    | some (a, _), some (b, _) => ofBool (a = b)
    | _, _ => failSystem .notFound (some (← path))
  | "commonprefix" => do
    let texts ← (← core.items arguments.first).mapM core.pathText
    let common (a b : Text) : Text := ((a.zip b).takeWhile fun (x, y) => x = y).map (·.1)
    match texts with
    | [] => return .text []
    | first :: rest => return .text (rest.foldl common first)
  | _ => refuseMember (.module "posixpath") name

/-- What a function for files and the process gives, if it is one. -/
def systemFunction (core : Core) (name : String) (arguments : Arguments) : Work Value := do
  let path : Work Text := core.pathText arguments.first
  let orHere : Work Text := match arguments.first with
    | .nothing => return ['.']
    | v => core.pathText v
  match name with
  | "getcwd" => return .text (← directoryNow)
  | "chdir" => do
    let t ← path
    match ← task (Task.node (pathOf t)) with
    | .error e => failSystem e (some t)
    | .ok (location, .directory) => do
      task (modify fun m => { m with files := { m.files with workingDirectory := location } })
      return .nothing
    | .ok _ => failSystem .notADirectory (some t)
  | "listdir" => newList ((← namesIn (← orHere)).map .text)
  | "mkdir" => do
    makeDirectory (← path) (arguments.whole 1 "mode" 0o777).toNat
    return .nothing
  | "makedirs" => do
    let isThereOk ← core.truth ((arguments.at? 2 "exist_ok").getD .nothing)
    let t ← path
    makeDirectories isThereOk (t.length + 1) t
    return .nothing
  | "remove" | "unlink" => do
    removeFile (← path)
    return .nothing
  | "rmdir" | "removedirs" => do
    removeDirectory (← path)
    return .nothing
  | "rename" | "replace" | "renames" => do
    rename (← path) (← core.pathText arguments.second)
    return .nothing
  | "symlink" => do
    let target ← core.pathText arguments.second
    match (← get).machine.files.locateEntry (Task.path (pathOf target)) with
    | .error e => failWithBoth e (← path) target
    | .ok location =>
      if ((← get).machine.files.node? location).isSome then failWithBoth .alreadyExists (← path) target
      else
        let source := Task.path (pathOf (← path))
        task (modify fun m => { m with files := m.files.put location (.link source) })
        return .nothing
  | "readlink" => do
    match ← nodeAt? false (← path) with
    | some (_, .link target) => return .text (decoded (Task.ofPath target))
    | some _ => failSystem .invalidArgument (some (← path))
    | none => failSystem .notFound (some (← path))
  | "chmod" => do
    match ← nodeAt? true (← path) with
    | some (location, _) => do
      let mode := (arguments.whole 1 "mode" 0).toNat
      task (modify fun m => { m with files := m.files.setMode location mode })
      return .nothing
    | none => failSystem .notFound (some (← path))
  | "stat" => status true (← path)
  | "lstat" => status false (← path)
  | "access" => do
    match ← nodeAt? true (← path) with
    | some (location, node) =>
      let mode := (← get).machine.files.modeOf location
      let runs := node = .directory || mode &&& 0o111 ≠ 0
      ofBool ((arguments.whole 1 "mode" 0).toNat % 2 = 0 || runs)
    | none => ofBool false
  | "walk" => do new (.steps "generator" (← walked 100 (← path)))
  | "getenv" => do
    match ← memberOfModule? "os" "environ" with
    | some (.object address) =>
      match ← core.entryPlace? arguments.first (← entriesAt address) with
      | some place => return ((← entriesAt address).getD place default).2
      | none => return arguments.second
    | _ => return arguments.second
  | "putenv" => do
    match ← memberOfModule? "os" "environ" with
    | some environment => core.putSubscript environment arguments.first arguments.second
    | none => pure ()
    return .nothing
  | "getpid" => return .integer ((← get).machine.process : Int)
  | "getppid" => return .integer (((← get).machine.parents.headD 1 : Nat) : Int)
  | "getuid" | "geteuid" | "getgid" | "getegid" => return .integer 0
  | "cpu_count" => return .integer 1
  | "umask" => do
    let old := (← get).machine.mask
    let mask := (arguments.whole 0 "mask" 0).toNat
    task (modify fun m => { m with mask })
    return .integer (old : Int)
  | "abort" => throw (.halt (.killed 6))
  | "fsencode" => return .bytes (encoded (← path))
  | "fsdecode" => return .text (← path)
  | "isatty" => return .boolean false
  | "getlogin" => return .text "root".toList
  | "getpgrp" => return .integer ((← get).machine.process : Int)
  | "get_terminal_size" => fail "OSError" "[Errno 25] Inappropriate ioctl for device".toList
  | "uname" =>
    new (.record (.kind "posix.uname_result") ([("sysname", "Linux"), ("nodename", "localhost"),
      ("release", "6.1.0"), ("version", "#1 SMP"), ("machine", "x86_64")].map fun (n, t) =>
        (n, Value.text (String.toList t))))
  | "read" => do
    let count := (arguments.whole 1 "length" 0).toNat
    match ← task (Task.readWith (arguments.whole 0 "fd" 0).toNat (·.take count)) with
    | .ok t => return .bytes t
    | .error e => failSystem e none
  | "close" => do
    task (Task.closeDescriptor (arguments.whole 0 "fd" 0).toNat)
    return .nothing
  | "fspath" => return .text (← path)
  | "urandom" => return .bytes (List.replicate (arguments.whole 0 "size" 0).toNat 'x')
  | "_exit" => do throw (.halt (.exit ((arguments.whole 0 "status" 0).emod 256).toNat))
  | "write" => do
    match arguments.second with
    | .bytes t =>
      match ← task (Task.write (arguments.whole 0 "fd" 1).toNat t) with
      | .ok () => return ofNat t.length
      | .error e => failSystem e none
    | v => refuse ("a bytes-like object is required, not '" ++ (← kindNameOf v) ++ "'")
  | "kill" => do
    let m := (← get).machine
    let (process, signal) := (arguments.whole 0 "pid" 0, (arguments.whole 1 "sig" 0).toNat)
    if process = (m.process : Int) then
      if signal = 0 || SignalName.isHarmless signal || m.ignored.contains signal then return .nothing
      else throw (.halt (.killed signal))
    else
      task (modify fun m => { m with pending := m.pending ++ [(process.toNat, signal)] })
      return .nothing
  | _ => refuseMember (.module "os") name

/-- What a function that copies or removes several files at once gives. -/
def transferFunction (core : Core) (name : String) (arguments : Arguments) : Work Value := do
  let path : Work Text := core.pathText arguments.first
  match name with
  | "copy" | "copyfile" | "copy2" => return .text (← copyFile (← path) (← core.pathText arguments.second))
  | "move" => do
    let source ← path
    let target ← core.pathText arguments.second
    let target ← match ← nodeAt? true target with
      | some (_, .directory) => pure (Paths.joined target (Paths.base source))
      | _ => pure target
    rename source target
    return .text target
  | "rmtree" => do
    removeTree (← path) (← core.truth ((arguments.at? 1 "ignore_errors").getD .nothing))
    return .nothing
  | "which" => do
    let files := (← get).machine.files
    let found := (← task (Utility.programs (pathOf (← path)))).find? (Utility.isProgram files)
    return (found.map fun t => Value.text (decoded t)).getD .nothing
  | _ => refuseMember (.module "shutil") name

end Core

end KDispatch.Shell.Indented

/-! Running other programs: where they read and write, and what is told about how they have ended. -/

namespace KDispatch.Shell.Indented.Core

open Work

/-- Where a stream of a program leads to. -/
inductive Target where
  | same
  | pipe
  /-- Where standard output leads to. -/
  | output
  | nowhere
  | description (number : Nat)

def targetOf (value : Value) : Work Target := do
  match value with
  | .integer n =>
    if n = -1 then return .pipe
    else if n = -2 then return .output
    else if n = -3 then return .nowhere
    else
      match (← get).machine.description? n.toNat with
      | some number => return .description number
      | none => return .same
  | .object address => do
    flush address
    match (← fileAt address).description with
    | some number => return .description number
    | none => return .same
  | _ => return .same

/-- How a program is run. -/
structure Run where
  words : List Text
  input : Option Text
  source : Target
  output : Target
  errors : Target
  directory : Option Text
  environment : Option (List (String × Text))

/-- Runs a program; gives how it has ended and what it has written to pipes. -/
def finished (core : Core) (run : Run) : Work (Int × Text × Text) := do
  match run.directory with
  | some path =>
    match ← task (Task.node (pathOf path)) with
    | .error e => failSystem e (some path)
    | .ok (_, .directory) => pure ()
    | .ok _ => failSystem .notADirectory (some path)
  | none => pure ()
  let (outputReading, outputWriting) ← task Task.pipe
  let (errorReading, errorWriting) ← task Task.pipe
  let (inputReading, inputWriting) ← task Task.pipe
  match run.input with
  | some t =>
    let _ ← task (Task.writeTo inputWriting t)
  | none => pure ()
  let nowhere ← task (Task.openFile "/dev/null".toList Task.Opening.readWrite)
  let lead (descriptor : Nat) (target : Target) (piped : Nat) : Task Unit := do
    match target with
    | .same => return
    | .pipe => Task.setDescriptor descriptor piped
    | .output =>
      match (← get).description? 1 with
      | some number => Task.setDescriptor descriptor number
      | none => return
    | .nowhere =>
      match nowhere with
      | .ok number => Task.setDescriptor descriptor number
      | .error _ => return
    | .description number => Task.setDescriptor descriptor number
  let prepare : Task Unit := do
    lead 0 (if run.input.isSome then .pipe else run.source) inputReading
    lead 1 run.output outputWriting
    lead 2 run.errors errorWriting
    match run.environment with
    | some environment => modify fun m => { m with environment }
    | none => pure ()
    match run.directory with
    | some path =>
      match (← get).files.locate (Task.path (Work.pathOf path)) with
      | .ok location => modify fun m => { m with files := { m.files with workingDirectory := location } }
      | .error _ => pure ()
    | none => pure ()
  match ← runProgram core.execute run.words prepare with
  | .error e => failSystem e (some (decoded (run.words.headD [])))
  | .ok halt => do
    let output ← task (pipeContent outputReading)
    let errors ← task (pipeContent errorReading)
    return (haltNumber halt, output, errors)

/-- The words of a command, which the shell may be asked to run. -/
def wordsOf (core : Core) (command : Value) (viaShell : Bool) : Work (List Text) := do
  match command, viaShell with
  | .text t, true => return ["/bin/sh".toList, "-c".toList, encoded t]
  | .text t, false => return [encoded t]
  | command, _ => do
    let words ← (← core.items command).mapM fun v => do
      return encoded (← core.pathText v)
    return if viaShell then ["/bin/sh".toList, "-c".toList] ++ words else words

/-- What the names among arguments tell about running a program. -/
def runOf (core : Core) (command : Value) (named : List (String × Value)) : Work Run := do
  let isTrue (name : String) : Work Bool := core.truth ((named.lookup name).getD .nothing)
  let viaShell ← isTrue "shell"
  let captures ← isTrue "capture_output"
  let stream (name : String) : Work Target := do targetOf ((named.lookup name).getD .nothing)
  let input : Option Text ← match named.lookup "input" with
    | some (.text t) => pure (some (encoded t))
    | some (.bytes t) => pure (some t)
    | _ => pure none
  let directory ← match named.lookup "cwd" with
    | none | some .nothing => pure none
    | some v => pure (some (← core.pathText v))
  let environment ← match named.lookup "env" with
    | some (.object address) => do
      let entries ← (← entriesAt address).toList.mapM fun (k, v) => do
        match k, v with
        | .text k, .text v => return (String.ofList k, encoded v)
        | _, v => refuse ("expected str, bytes or os.PathLike object, not " ++ (← kindNameOf v))
      pure (some entries)
    | _ => pure none
  let written ← stream "stdout"
  let complaints ← stream "stderr"
  return { words := ← core.wordsOf command viaShell, input, source := ← stream "stdin"
           output := if captures then .pipe else written
           errors := if captures then .pipe else complaints, directory, environment }

/-- Whether what programs write is taken as text. -/
def wantsText (core : Core) (named : List (String × Value)) : Work Bool := do
  let names := ["text", "universal_newlines", "encoding", "errors"]
  names.anyM fun name => core.truth ((named.lookup name).getD .nothing)

/-- What a program has written to a stream, as a value. -/
def writtenValue (isText : Bool) (target : Target) (t : Text) : Value :=
  match target with
  | .pipe => if isText then .text (plainLines (decoded t)) else .bytes t
  | _ => .nothing

/-- Fails as a program has failed. -/
def failProgram {α : Type} (core : Core) (command : Value) (status : Int) (output errors : Value) : Work α := do
  let shown ← core.text command
  let ending := if status < 0 then " died with signal ".toList ++ (toString (-status)).toList ++ ['.']
    else " returned non-zero exit status ".toList ++ (toString status).toList ++ ['.']
  raise (← new (.record (.kind "CalledProcessError")
    [("args", .tuple [.integer status, command]), ("__text__", .text ("Command '".toList ++ shown ++ '\'' :: ending)),
      ("returncode", .integer status), ("cmd", command), ("output", output), ("stdout", output), ("stderr", errors)]))

def newRun (command : Value) (status : Int) (output errors : Value) : Work Value := do
  let shown (name : String) (v : Value) : List Value :=
    match v with
    | .nothing => []
    | _ => [.text name.toList]
  let fields := [Value.text "args".toList, .text "returncode".toList] ++ shown "stdout" output ++
    shown "stderr" errors
  new (.record (.kind "CompletedProcess") [("__fields__", .tuple fields), ("args", command),
    ("returncode", .integer status), ("stdout", output), ("stderr", errors)])

/-- A stream of values that have been written to a pipe. -/
def newPipe (isText : Bool) (target : Target) (t : Text) : Work Value := do
  match target with
  | .pipe => new (.file { File.ofText (!isText) (if isText then plainLines (decoded t) else t) with writes := false })
  | _ => return .nothing

/-- Puts another program in place of the running one; what has not been written yet is lost. -/
def become (core : Core) (name : String) (path : Value) (words : List Value) (environment : Option Value) :
    Work Value := do
  let path ← core.pathText path
  let words ← words.mapM fun v => do return encoded (← core.pathText v)
  let entries ← match environment with
    | some (.object address) => do
      let entries ← (← entriesAt address).toList.mapM fun (k, v) => do
        return (String.ofList (← core.pathText k), encoded (← core.pathText v))
      pure (some entries)
    | _ => pure none
  let programs ← if name.toList.contains 'p' then task (Utility.programs (pathOf path)) else pure [pathOf path]
  let found ← task do
    match entries with
    | some environment => modify fun m => { m with environment }
    | none => pure ()
    Utility.executeFirst core.execute words .notFound programs
  match found with
  | .ok status => throw (.halt (.exit status))
  | .error e => failSystem e (if name.toList.contains 'p' then none else some path)

/-- What a function for other programs gives. -/
def processFunction (core : Core) (name : String) (arguments : Arguments) : Work Value := do
  let command := (arguments.at? 0 "args").getD .nothing
  let named := arguments.named
  match name with
  | "run" => do
    let run ← core.runOf command named
    let isText ← core.wantsText named
    let (status, output, errors) ← core.finished run
    let (output, errors) := (writtenValue isText run.output output, writtenValue isText run.errors errors)
    if status ≠ 0 && (← core.truth ((named.lookup "check").getD .nothing)) then
      core.failProgram command status output errors
    else newRun command status output errors
  | "call" | "check_call" => do
    let (status, _, _) ← core.finished (← core.runOf command named)
    if status ≠ 0 && name = "check_call" then core.failProgram command status .nothing .nothing
    else return .integer status
  | "check_output" => do
    let run ← core.runOf command named
    let isText ← core.wantsText named
    let (status, output, _) ← core.finished { run with output := .pipe }
    let output := writtenValue isText .pipe output
    if status ≠ 0 then core.failProgram command status output .nothing else return output
  | "getoutput" | "getstatusoutput" => do
    let words ← core.wordsOf command true
    let (status, output, _) ← core.finished ⟨words, none, .same, .pipe, .output, none, none⟩
    let t := decoded output
    let t := if t.getLast? = some '\n' then t.dropLast else t
    return if name = "getoutput" then .text t else .tuple [.integer status, .text t]
  | "Popen" => do
    let run ← core.runOf command named
    let isText ← core.wantsText named
    let kept := [("args", command), ("__options__", ← newTable (named.map fun (k, v) => (.text k.toList, v)))]
    let process := ("pid", Value.integer ((← get).machine.nextProcess : Int))
    match run.source with
    | .pipe =>
      let stdin ← new (.file { File.ofText (!isText) [] with reads := false })
      new (.record (.kind "Popen") (kept ++ [process, ("returncode", .nothing), ("stdin", stdin),
        ("stdout", .nothing), ("stderr", .nothing)]))
    | _ =>
      let (status, output, errors) ← core.finished run
      new (.record (.kind "Popen") (kept ++ [process, ("returncode", .integer status), ("stdin", .nothing),
        ("stdout", ← newPipe isText run.output output), ("stderr", ← newPipe isText run.errors errors)]))
  | "system" => do
    let words ← core.wordsOf command true
    let (status, _, _) ← core.finished ⟨words, none, .same, .same, .same, none, none⟩
    return .integer (if status < 0 then -status else status * 256)
  | "popen" => do
    let words ← core.wordsOf command true
    let (_, output, _) ← core.finished ⟨words, none, .same, .pipe, .same, none, none⟩
    newPipe true .pipe output
  | _ => refuseMember (.module "subprocess") name

/-- What a method of a program that runs gives. -/
def programMethod (core : Core) (value : Value) (name : String) (arguments : Arguments) : Work Value := do
  match value with
  | .object address => do
    let memberNow (name : String) : Work Value := memberOfRecord value name
    -- A program that waits for its input is run when it has got it.
    let complete : Work Unit := do
      match ← memberNow "returncode", ← memberNow "__options__" with
      | .nothing, .object options => do
        let named := (← entriesAt options).toList.filterMap fun (k, v) =>
          match k with
          | .text k => some (String.ofList k, v)
          | _ => none
        let run ← core.runOf (← memberNow "args") named
        let isText ← core.wantsText named
        let held ← match ← memberNow "stdin" with
          | .object file => do pure (← fileAt file).unwritten.reverse
          | _ => pure []
        let held := if isText then encoded held else held
        let more : Text := match arguments.at? 0 "input" with
          | some (.text t) => encoded t
          | some (.bytes t) => t
          | _ => []
        let (status, output, errors) ← core.finished { run with input := some (held ++ more) }
        let output ← newPipe isText run.output output
        let errors ← newPipe isText run.errors errors
        match ← objectAt address with
        | .record kind members =>
          let members := replaceEntry "returncode" (.integer status) members
          putObject address (.record kind
            (replaceEntry "stdout" output (replaceEntry "stderr" errors members)))
        | _ => pure ()
      | _, _ => pure ()
    match name with
    | "communicate" => do
      complete
      let readOf (v : Value) : Work Value := do
        match v with
        | .object file => readAll file none
        | v => return v
      return .tuple [← readOf (← memberNow "stdout"), ← readOf (← memberNow "stderr")]
    | "wait" | "poll" => do
      complete
      memberNow "returncode"
    | "kill" | "terminate" | "send_signal" => return .nothing
    | "__enter__" => return value
    | "__exit__" => do
      complete
      return .nothing
    | _ => refuseMember value name
  | _ => refuseMember value name

end KDispatch.Shell.Indented.Core
