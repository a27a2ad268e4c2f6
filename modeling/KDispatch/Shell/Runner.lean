import KDispatch.Shell.Extended.Start
import KDispatch.Shell.Indented.Start
import KDispatch.Shell.Sigil.Start
import KDispatch.Shell.Utility.Fields
import KDispatch.Shell.Utility.Find
import KDispatch.Shell.Utility.Grep
import KDispatch.Shell.Utility.Listing
import KDispatch.Shell.Utility.Numbers
import KDispatch.Shell.Utility.Records
import KDispatch.Shell.Utility.Sed
import KDispatch.Shell.Utility.Sort
import KDispatch.Shell.Utility.Streams
import KDispatch.Shell.Utility.System
import KDispatch.Shell.Utility.Transfer
import KDispatch.Shell.Utility.Translate
import KDispatch.Toolchain

/-!
The programs of an installation and the runner of calls.
-/

/-! ## Programs

Executable files: utilities, the shell itself, and scripts whose first line names their interpreter.
-/

namespace KDispatch.Shell

/-- What the file of a utility begins with; the name of the utility follows. -/
def utilityMark : Text := Char.ofNat 127 :: "ELF".toList

/-- The content of the file of a utility. -/
def utilityFile (name : String) : Bytes := ByteText.toBytes (utilityMark ++ name.toList)

namespace Evaluator

/-- The utilities that run no other programs. -/
def plainUtilities : List (String × Utility) :=
  [("[", Utility.bracketTest), ("base32", Utility.coding .base32), ("base64", Utility.coding .base64),
    ("basename", Utility.basename), ("cat", Utility.cat),
    ("chmod", Utility.chmod), ("cmp", Utility.cmp), ("comm", Utility.comm), ("cp", Utility.cp),
    ("cut", Utility.cut), ("date", Utility.date), ("dirname", Utility.dirname),
    ("echo", Utility.echo), ("egrep", Utility.grep), ("expr", Utility.expr),
    ("false", Utility.refuse), ("fgrep", Utility.grep), ("fold", Utility.fold),
    ("grep", Utility.grep), ("head", Utility.head), ("id", Utility.identity),
    ("install", Utility.install), ("link", Utility.link), ("ln", Utility.ln), ("ls", Utility.ls),
    ("mkdir", Utility.mkdir), ("mkfifo", Utility.mkfifo), ("mktemp", Utility.mktemp),
    ("mv", Utility.mv), ("nl", Utility.nl), ("paste", Utility.paste),
    ("printenv", Utility.printenv), ("printf", Utility.printf), ("pwd", Utility.showPath),
    ("readlink", Utility.readlink), ("realpath", Utility.realpath), ("rev", Utility.rev),
    ("rm", Utility.rm), ("rmdir", Utility.rmdir), ("sed", Utility.sed), ("seq", Utility.seq),
    ("sleep", Utility.sleep), ("sort", Utility.sort), ("split", Utility.split), ("stat", Utility.stat),
    ("sync", Utility.succeed), ("tac", Utility.tac), ("tail", Utility.tail), ("tee", Utility.tee),
    ("test", Utility.test), ("touch", Utility.touch), ("tr", Utility.tr),
    ("true", Utility.succeed), ("truncate", Utility.truncate), ("uname", Utility.uname),
    ("uniq", Utility.uniq), ("unlink", Utility.unlink), ("wc", Utility.wc),
    ("which.debianutils", Utility.which), ("whoami", Utility.userName), ("yes", Utility.yes)]

/-- The names of all programs that the system has. -/
def programNames : List String :=
  ["bash", "dash", "env", "find", "mawk", "perl", "python3", "xargs"] ++ plainUtilities.map (·.1)

def defaultPath : Text := "/usr/local/sbin:/usr/local/bin:/usr/sbin:/usr/bin:/sbin:/bin".toList

/-- The shell of a new process. -/
def newShell (machine : Machine) (name : Text) : Shell :=
  let imported := machine.environment.filterMap fun (key, value) =>
    if isName key.toList && key ≠ "IFS" && key ≠ "OPTIND" && key ≠ "PPID" then
      some (key, (⟨some value, true, false⟩ : Variable))
    else none
  let own (key : String) (value : Text) : List (String × Variable) :=
    if (imported.lookup key).isSome then [] else [(key, ⟨some value, false, false⟩)]
  let working := machine.files.workingDirectory
  let directory :=
    match machine.environment.lookup "PWD" with
    | some path =>
      let leadsHere := (machine.files.locate (Task.path path)).toOption = some working
      if path.head? = some '/' && leadsHere then path else Task.ofLocation working
    | none => Task.ofLocation working
  let bindings :=
    imported.filter (·.1 ≠ "PWD") ++ own "PATH" defaultPath ++ own "PS1" "# ".toList ++
      own "PS2" "> ".toList ++ own "PS4" "+ ".toList ++
      [("IFS", ⟨some [' ', '\t', '\n'], false, false⟩), ("OPTIND", ⟨some ['1'], false, false⟩),
        ("PPID", ⟨some (Number.decimal (machine.parents.headD 1)), false, false⟩),
        ("PWD", ⟨some directory, true, false⟩)]
  { machine, name, arguments := [], bindings, functions := [], aliases := [], options := [], traps := [],
    status := 0, outputStatus := 0, line := 0, command := none, loops := 0, locals := [],
    calls := 0, found := [], documents := [], nextDocument := 0, root := machine.process,
    lastJob := none, buffer := [], directory, optionPlace := (1, none) }

/-- Sets the options in the words of the shell; tells whether commands are given, and the words after
the options. -/
def shellOptions : (fuel : Nat) → List Text → Command (Bool × List Text)
  | 0, words => return (false, words)
  | fuel + 1, words => do
    match words with
    | ['-'] :: rest | ['-', '-'] :: rest => return (false, rest)
    | (sign :: c :: letters) :: rest =>
      if sign ≠ '-' && sign ≠ '+' then return (false, words)
      else
        let letters := c :: letters
        let rest ← Builtin.setLetters (sign = '-') (letters.filter (· ≠ 'c')) rest
        let (given, rest) ← shellOptions fuel rest
        return (given || letters.contains 'c', rest)
    | words => return (false, words)

/-- The work of a shell that is given words. -/
def shellWork (ev : Evaluator) (words : List Text) : Command Unit := do
  let (given, words) ← shellOptions (words.length + 1) words
  if given then
    match words with
    | [] => Command.fail "-c requires an argument".toList
    | text :: words =>
      modify fun s => { s with name := words.headD s.name, arguments := words.drop 1 }
      ev.runText false true text
  else
    match words, ← Command.hasOption 's' with
    | file :: arguments, false =>
      match ← Command.task (Task.readFile file) with
      | .error .isADirectory => return
      | .error e =>
        Command.fail
          ("cannot open ".toList ++ file ++ (": " ++ openReason e "No such file").toList)
      | .ok text =>
        modify fun s => { s with name := file, arguments }
        ev.runText true false text
    | arguments, _ =>
      modify fun s => { s with arguments }
      match ← Command.task (Task.readAll 0) with
      | .ok text => ev.runText true false text
      | .error _ => return

/-- The shell as a utility. -/
def shell (ev : Evaluator) : Utility := fun name words machine =>
  match runShell ev (ev.shellWork words) (newShell machine name) with
  | .ok status s => .ok (status % 256) s.machine
  | .error (.halt halt) s => .error halt s.machine
  | .error _ s => .ok s.status s.machine

/-- How deep scripts may be nested. -/
def nestingDepth : Nat := 1000000

/-- What the file of a utility does when it is executed. -/
def utility? (ev : Evaluator) (name : String) : Option Utility :=
  match name with
  | "bash" => some (Extended.Evaluator.ofDepth ev.execute nestingDepth).shell
  | "dash" => some ev.shell
  | "env" => some (Utility.env ev.execute)
  | "find" => some (Utility.find ev.execute)
  | "mawk" => some (Utility.records ev.execute)
  | "perl" => some (Sigil.utility ev.execute)
  | "python3" => some (Indented.utility ev.execute)
  | "xargs" => some (Utility.xargs ev.execute)
  | name => plainUtilities.lookup name

end Evaluator

/-- The line that names an interpreter. -/
structure Interpreter where
  path : Text
  argument : Option Text

namespace Interpreter

/-- How much of a file is looked at for the line. -/
def window : Nat := 256

def isBlank (c : Char) : Bool := c = ' ' || c = '\t'

/-- The interpreter that the first line of a file names; a line that is cut off by the window has to show
the end of the path at least. -/
def ofFile? (content : Text) : Option Interpreter :=
  match content with
  | '#' :: '!' :: _ =>
    let seen := content.take window
    let buffer := seen ++ List.replicate (window - seen.length) '\x00'
    let line? : Option Text :=
      if buffer.contains '\n' then some ((buffer.takeWhile (· ≠ '\n')).drop 2)
      else
        let after := ((buffer.take (window - 1)).drop 2).dropWhile isBlank
        if after.any fun c => isBlank c || c = '\x00' then some ((buffer.take (window - 1)).drop 2)
        else none
    line?.bind fun line =>
      let trimmed := (line.reverse.dropWhile isBlank).reverse.dropWhile isBlank
      let path := trimmed.takeWhile fun c => !isBlank c && c ≠ '\x00'
      let rest := trimmed.drop path.length
      let argument := (rest.dropWhile isBlank).takeWhile (· ≠ '\x00')
      if trimmed.isEmpty then none
      else
        some ⟨path, if rest.head?.any isBlank && !argument.isEmpty then some argument else none⟩
  | _ => none

end Interpreter

namespace Evaluator

/-- Whether a file is open for writing. -/
def isBusy (m : Machine) (location : Location) : Bool :=
  let held := m.descriptions.toList.take 4
  let used := m.descriptors.filterMap fun (_, number) => m.descriptions[number]?
  let names := m.files.namesOf location
  (held.drop 3 ++ used).any fun d =>
    d.writable && names.any fun name => d.stream = .file name

/-- The content of a file that can be executed. -/
def executable (path : Text) : Task (Except SystemError Text) := do
  let m ← get
  match m.files.locate (Task.path path) with
  | .error e => return .error e
  | .ok location =>
    match m.files.node? location with
    | none => return .error .notFound
    | some (.file content isExecutable) =>
      if Path.endsInSlash (Task.path path) then return .error .notADirectory
      else if !isExecutable then return .error .permissionDenied
      else if isBusy m location then return .error .textFileBusy
      else return .ok (ByteText.ofBytes content)
    | some _ => return .error .permissionDenied

/-- Puts a program in place of the running process; scripts are handed to their interpreters. -/
def executeFile (ev : Evaluator) : (depth : Nat) → (path : Text) → (words : List Text) →
    Task (Except SystemError Nat)
  | 0, _, _ => return .error (.other "Too many levels of symbolic links")
  | depth + 1, path, words => do
    match ← executable path with
    | .error e => return .error e
    | .ok content =>
      if utilityMark.isPrefixOf content then
        match ev.utility? (String.ofList (content.drop utilityMark.length)) with
        | some utility =>
          let status ← utility (words.headD []) (words.drop 1)
          return .ok status
        | none => return .error .execFormat
      else
        match Interpreter.ofFile? content with
        | none => return .error .execFormat
        | some ⟨interpreter, argument⟩ =>
          ev.executeFile depth interpreter
            (interpreter :: argument.toList ++ path :: words.drop 1)

/-- The evaluator whose scripts may be nested to a depth. -/
def ofDepth : (depth : Nat) → Evaluator
  | 0 =>
    { run := fun _ _ => Command.fail "nesting too deep".toList
      execute := fun _ _ => return .error .execFormat }
  | depth + 1 =>
    { run := fun script position s => (ofDepth depth).evaluate script position s
      execute := fun path words m => (ofDepth depth).executeFile 6 path words m }

end Evaluator

end KDispatch.Shell

/-! ## The installation

The runner of calls: programs are looked up and executed on a machine that begins with the files of the
caller and with those that every process finds, with nothing to read and with its output collected.
-/

namespace KDispatch.Shell.Installation

def directories : List Location :=
  [["usr"], ["usr", "bin"], ["usr", "sbin"], ["usr", "lib"], ["usr", "share"], ["usr", "local"],
    ["usr", "local", "bin"], ["usr", "local", "lib"], ["usr", "local", "sbin"], ["usr", "local", "share"],
    ["dev"], ["etc"], ["etc", "alternatives"], ["home"], ["root"], ["tmp"], ["var"], ["var", "tmp"], ["var", "log"],
    ["run"], ["opt"], ["mnt"], ["media"], ["srv"], ["boot"], ["sys"], ["proc"], ["proc", "self"],
    ["proc", "self", "fd"], ["proc", "sys"]]

/-- Links that make some directories, devices and programs be found under further names. -/
def links : List (Location × String) :=
  [(["bin"], "usr/bin"), (["sbin"], "usr/sbin"), (["lib"], "usr/lib"), (["var", "run"], "/run"),
    (["dev", "fd"], "/proc/self/fd"), (["dev", "stdin"], "/proc/self/fd/0"),
    (["dev", "stdout"], "/proc/self/fd/1"), (["dev", "stderr"], "/proc/self/fd/2"),
    (["proc", "mounts"], "self/mounts"),
    (["usr", "bin", "sh"], "dash"), (["usr", "bin", "which"], "/etc/alternatives/which"),
    (["etc", "alternatives", "which"], "/usr/bin/which.debianutils"),
    (["usr", "bin", "awk"], "/etc/alternatives/awk"), (["etc", "alternatives", "awk"], "/usr/bin/mawk"),
    (["usr", "bin", "nawk"], "/etc/alternatives/nawk"), (["etc", "alternatives", "nawk"], "/usr/bin/mawk")]

def devices : List (Location × Device) :=
  [(["dev", "null"], .null), (["dev", "full"], .full), (["dev", "zero"], .zeros),
    (["dev", "random"], .noise), (["dev", "urandom"], .noise), (["dev", "tty"], .terminal),
    (["proc", "self", "fd", "0"], .descriptor 0), (["proc", "self", "fd", "1"], .descriptor 1),
    (["proc", "self", "fd", "2"], .descriptor 2)]

/-- Files that tell about the system. -/
def reports : List (Location × String) :=
  [(["version"], "Linux version 6.8.0\n"), (["cpuinfo"], "processor\t: 0\n"),
    (["meminfo"], "MemTotal:       16384000 kB\n"), (["uptime"], "1000.00 1000.00\n"),
    (["loadavg"], "0.00 0.00 0.00 1/100 1000\n"), (["stat"], "cpu  0 0 0 0 0 0 0 0 0 0\n"),
    (["filesystems"], "nodev\ttmpfs\n"), (["cmdline"], "\n"), (["devices"], "Character devices:\n  1 mem\n"),
    (["self", "mounts"], "overlay / overlay rw 0 0\n"), (["self", "status"], "Name:\tsh\n"),
    (["self", "stat"], "1 (sh) R 0\n"), (["self", "cmdline"], "sh"), (["self", "comm"], "sh\n"),
    (["self", "environ"], ""), (["self", "maps"], ""), (["self", "limits"], "Limit\n"),
    (["self", "cgroup"], "0::/\n"), (["self", "mountinfo"], "1 0 0:1 / / rw - overlay overlay rw\n")]

/-- Files with the settings of the system. -/
def settings : List (Location × String) :=
  [(["passwd"], "root:x:0:0:root:/root:/bin/bash\ndaemon:x:1:1:daemon:/usr/sbin:/usr/sbin/nologin\n" ++
      "bin:x:2:2:bin:/bin:/usr/sbin/nologin\nnobody:x:65534:65534:nobody:/nonexistent:/usr/sbin/nologin\n"),
    (["group"], "root:x:0:\ndaemon:x:1:\nbin:x:2:\nnogroup:x:65534:\n"),
    (["hostname"], "localhost\n"), (["hosts"], "127.0.0.1\tlocalhost\n"), (["resolv.conf"], "nameserver 127.0.0.1\n"),
    (["os-release"], "NAME=\"Linux\"\nID=linux\n"), (["shells"], "/bin/sh\n/bin/dash\n/bin/bash\n"),
    (["profile"], ""), (["fstab"], ""), (["nsswitch.conf"], "passwd: files\n"), (["environment"], "")]

def nodes : List (Location × Node) :=
  directories.map (fun location => (location, .directory)) ++
    links.map (fun (location, target) => (location, .link target)) ++
    devices.map (fun (location, device) => (location, .device device)) ++
    reports.map (fun (name, content) => ("proc" :: name, .device (.report content))) ++
    settings.map (fun (name, content) => ("etc" :: name, .file (utf8 content) false)) ++
    Evaluator.programNames.map fun name => (["usr", "bin", name], .file (utilityFile name) true)

/-- The file system without any other files. -/
def files (workingDirectory : Location) : FileSystem := FileSystem.ofNodes workingDirectory nodes

end KDispatch.Shell.Installation

/-! ## The runner -/

namespace KDispatch.Shell

/-- The environment of a call. -/
def callEnvironment : List (String × Text) :=
  [("PATH", Evaluator.defaultPath), ("HOME", "/root".toList)]

/-- The descriptions that a process begins with: nothing to read, the two outputs, and the file that
its caller holds open. -/
def firstDescriptions (openFile : Option Location) : Array Description :=
  let held : List Description :=
    match openFile with
    | some location => [⟨.file location, 0, false, true, false⟩]
    | none => []
  (⟨.null, 0, true, false, false⟩ :: ⟨.output, 0, false, true, false⟩ ::
    ⟨.errors, 0, false, true, false⟩ :: held).toArray

/-- How long it takes to start a process, in nanoseconds. -/
def startDuration : Nat := 20000000

/-- The machine that a call begins on; `inherited` are further variables of its environment. -/
def startMachine (inherited : List (String × Text)) (openFile : Option Location)
    (files : FileSystem) : Machine :=
  { Machine.blank with
    files := { files with clock := files.clock + startDuration }
    descriptions := firstDescriptions openFile
    descriptors := [(0, 0), (1, 1), (2, 2)]
    environment := callEnvironment ++ inherited
    process := Task.firstProcess
    parents := [1]
    nextProcess := Task.firstProcess + 1 }

/-- Where the file that the caller holds open stands at the end. -/
def heldFile (openFile : Option Location) (m : Machine) : Option Location :=
  openFile.bind fun _ =>
    match m.descriptions[3]?.map Description.stream with
    | some (.file location) => some location
    | _ => none

/-- The machine when all jobs have come to their ends. -/
def Machine.afterAll (m : Machine) : Machine :=
  match Task.passTime m with
  | .ok () m => m
  | .error _ m => m

/-- What a process has done. -/
def processOf (openFile : Option Location) (directory : Location) (ending : Ending) (m : Machine) :
    Process where
  ending
  stdout := m.stdout.toList
  stderr := m.stderr.toList
  files := { m.files with workingDirectory := directory }
  openFile := heldFile openFile m

/-- The program that a call names: a path, or the first file of that name in the search path. -/
def callProgram (program : String) (files : FileSystem) : Except SystemError Text :=
  let name := Task.ofPath program
  if name.isEmpty then .error .notFound
  else if name.contains '/' then .ok name
  else
    match Evaluator.candidates files Evaluator.defaultPath name with
    | path :: _ => .ok path
    | [] => .error .notFound

/-- The ending of a process that has been halted. -/
def Halt.ending : Halt → Ending
  | .exit status => .exited (UInt8.ofNat status)
  | .killed signal => if h : 0 < signal then .killed ⟨signal, h⟩ else .exited 0

/-- Runs the program that a call names; it inherits further variables. -/
def runnerWith (inherited : List (String × Text)) : Runner := fun call openFile files =>
  match callProgram call.program files with
  | .error e => .error e
  | .ok path =>
    let words := Task.ofPath call.program :: call.arguments.map Task.ofPath
    let finish := processOf openFile files.workingDirectory
    let machine := startMachine inherited openFile files
    match (Evaluator.ofDepth Evaluator.nestingDepth).execute path words machine with
    | .ok (.error e) _ => .error e
    | .ok (.ok status) m => .ok (finish (.exited (UInt8.ofNat status)) m.afterAll)
    | .error halt m => .ok (finish halt.ending m.afterAll)

/-- Runs the program that a call names. -/
def runner : Runner := runnerWith []

end KDispatch.Shell
