import KDispatch.Shell.Builtin.Output
import KDispatch.Shell.Builtin.Parameters
import KDispatch.Shell.Parser

/-!
The builtins for directories, programs, signals and processes.
-/

namespace KDispatch.Shell

namespace SignalName

def firstNames : List String :=
  ["EXIT", "HUP", "INT", "QUIT", "ILL", "TRAP", "ABRT", "BUS", "FPE", "KILL", "USR1", "SEGV", "USR2",
    "PIPE", "ALRM", "TERM", "16", "CHLD", "CONT", "STOP", "TSTP", "TTIN", "TTOU", "URG", "XCPU",
    "XFSZ", "VTALRM", "PROF", "WINCH", "IO", "PWR", "SYS", "32", "33", "RTMIN"]

/-- The names of all signals, from number 0 on, which stands for the end of the shell. -/
def all : List String :=
  firstNames ++ (List.range 15).map (fun n => "RTMIN+" ++ toString (n + 1)) ++
    (List.range 14).map (fun n => "RTMAX-" ++ toString (14 - n)) ++ ["RTMAX"]

/-- The number of a signal that is given by its name or number. -/
def number? (text : Text) : Option Nat :=
  if !text.isEmpty && text.all Char.isDigit then
    let n := (Number.digits 10 text 0 0).1
    if n < 65 then some n else none
  else all.findIdx? (· = String.ofList (text.map Char.toUpper))

/-- What the system calls a signal that has killed a process. -/
def description (signal : Nat) : String :=
  match signal with
  | 1 => "Hangup"
  | 2 => "Interrupt"
  | 3 => "Quit"
  | 4 => "Illegal instruction"
  | 5 => "Trace/breakpoint trap"
  | 6 => "Aborted"
  | 7 => "Bus error"
  | 8 => "Floating point exception"
  | 9 => "Killed"
  | 10 => "User defined signal 1"
  | 11 => "Segmentation fault"
  | 12 => "User defined signal 2"
  | 13 => "Broken pipe"
  | 14 => "Alarm clock"
  | 15 => "Terminated"
  | 16 => "Stack fault"
  | 24 => "CPU time limit exceeded"
  | 25 => "File size limit exceeded"
  | 26 => "Virtual timer expired"
  | 27 => "Profiling timer expired"
  | 29 => "I/O possible"
  | 30 => "Power failure"
  | 31 => "Bad system call"
  | n => if 34 ≤ n then "Real-time signal " ++ toString (n - 34) else "Unknown signal " ++ toString n

/-- Whether a signal that nobody handles leaves a process alone. -/
def isHarmless (signal : Nat) : Bool := [17, 18, 19, 20, 21, 22, 23, 28].contains signal

def kill : Nat := 9

end SignalName

/-- The status that tells how a process has ended. -/
def Halt.status : Halt → Nat
  | .exit status => status
  | .killed signal => 128 + signal

namespace Builtin

/-- The directories that are searched for programs. -/
def searchPath (path : Text) : List Text := path.splitOn ':'

/-- A name below a directory of the search path; the empty one is the working directory. -/
def below (directory name : Text) : Text :=
  if directory.isEmpty then name else directory ++ '/' :: name

/-- The program that a name stands for in the directories of a search path. -/
def program? (files : FileSystem) (path name : Text) : Option Text :=
  if name.contains '/' then
    if (files.openToRead (Task.path name)).isOk then some name else none
  else
    ((searchPath path).map (below · name)).find? fun candidate =>
      match files.openToRead (Task.path candidate) with
      | .ok location => (files.content? location).isSome
      | .error _ => false

/-- The search path for programs. -/
def path : Command Text := return (← Command.variableValue? "PATH").getD []

/-- The absolute path that a path becomes from a directory on, in which dots are taken out as if no
directory were a link. -/
def logicalPath (directory path : Text) : Text :=
  let base := if directory.getLast? = some '/' then directory else directory ++ ['/']
  let whole := if path.head? = some '/' then path else base ++ path
  let doubled := match whole with
    | '/' :: '/' :: '/' :: _ => false
    | '/' :: '/' :: _ => true
    | _ => false
  let parts := (whole.splitOn '/').foldl (fun (kept : List Text) part =>
    if part.isEmpty || part = ['.'] then kept
    else if part = ['.', '.'] then kept.drop 1
    else part :: kept) []
  (if doubled then ['/'] else []) ++ '/' :: ['/'].intercalate parts.reverse

/-- Goes to a directory; `false` if there is none. -/
def enter (physical : Bool) (target : Text) : Command Bool := do
  let s ← get
  let path := if physical then target else logicalPath s.directory target
  match s.machine.files.locate (Task.path path) with
  | .error _ => return false
  | .ok location =>
    if s.machine.files.node? location ≠ some .directory then return false
    let directory := if physical then Task.ofLocation location else path
    modify fun s =>
      { s with
        directory
        machine :=
          { s.machine with files := { s.machine.files with workingDirectory := location } } }
    Command.setVariable "OLDPWD" (some s.directory) true
    Command.setVariable "PWD" (some directory) true
    return true

/-- Whether the last of the options asks for paths without links. -/
def isPhysical (found : List (Char × Text)) : Bool := found.getLast?.any (·.1 = 'P')

/-- Changes the working directory. -/
def changeDirectory (words : List Text) : Command Nat := do
  let (found, words) ← options "LP" (words.length + 1) words
  let (target, shows) ← match words with
    | [] => pure ((← Command.variableValue? "HOME").getD [], false)
    | ['-'] :: _ => pure ((← Command.variableValue? "OLDPWD").getD [], true)
    | target :: _ => pure (target, false)
  let isDotted := match target with
    | ['.'] | '.' :: '/' :: _ | ['.', '.'] | '.' :: '.' :: '/' :: _ => true
    | _ => false
  let candidates ←
    if target.head? = some '/' || isDotted then pure [(target, false)]
    else
      let name := if target.isEmpty then ['.'] else target
      let search := (← Command.variableValue? "CDPATH").getD []
      pure ((if search.isEmpty then [] else (searchPath search).map fun d =>
        (below d name, !d.isEmpty)) ++ [(name, false)])
  let rec go : List (Text × Bool) → Command Nat
    | [] => Command.fail ("can't cd to ".toList ++ target)
    | (candidate, announced) :: rest => do
      if ← enter (isPhysical found) candidate then
        if shows || announced then Command.printLine (← get).directory
        return 0
      else go rest
  go candidates

def showDirectory (words : List Text) : Command Nat := do
  let (found, _) ← options "LP" (words.length + 1) words
  let s ← get
  Command.printLine
    (if isPhysical found then Task.ofLocation s.machine.files.workingDirectory else s.directory)
  return 0

/-- Sends a signal to a process; `false` if there is none. -/
def send (process signal : Nat) : Command Bool := do
  let s ← get
  let m := s.machine
  if process = m.process then
    let action := s.traps.lookup signal
    if signal = 0 then return true
    else if signal ≠ SignalName.kill && (m.ignored.contains signal || action = some []) then
      return true
    else if signal ≠ SignalName.kill && action.isSome then
      modify fun s =>
        { s with
          machine := { s.machine with pending := s.machine.pending ++ [(process, signal)] } }
      return true
    else if SignalName.isHarmless signal then return true
    else throw (.halt (.killed signal))
  else if m.parents.contains process then
    if signal ≠ 0 then
      modify fun s =>
        { s with
          machine := { s.machine with pending := s.machine.pending ++ [(process, signal)] } }
    return true
  else if m.jobs.any fun job => job.process = process && !job.isOver then
    if signal ≠ 0 && !SignalName.isHarmless signal then
      modify fun s =>
        { s with
          machine :=
            { s.machine with
              jobs := s.machine.jobs.map fun job =>
                if job.process = process then
                  { job with halt := .killed signal, stdout := [], stderr := [] }
                else job } }
    return true
  else return false

def killUsage : String :=
  "Usage: kill [-s sigspec | -signum | -sigspec] [pid | job]... or\nkill -l [exitstatus]"

/-- The jobs of the running shell. -/
def jobs : Command (List Job) := do
  let m := (← get).machine
  return m.jobs.filter (·.parent = m.process)

/-- The job of the running shell that a word stands for: a number after a percent sign, or a process. -/
def job? (word : Text) : Command (Option Job) := do
  match word with
  | '%' :: number =>
    let all ← jobs
    let position? := (Number.integer? (some 10) number).filter (0 < ·)
    match position?.bind fun n => all[n.toNat - 1]? with
    | some job => return some job
    | none => Command.fail ("No such job: ".toList ++ word)
  | word =>
    let process ← Command.number word
    return (← jobs).find? (·.process = process)

/-- Sends signals to processes until all are done; the status tells whether all were there. -/
def sendAll (signal : Nat) : List Text → Command Nat
  | [] => return 0
  | word :: words => do
    let found ←
      if word.head? = some '%' then do
        let _ ← job? word
        pure false
      else send (← Command.number word) signal
    if !found then Command.warn "No such process\n".toList
    let status ← sendAll signal words
    return if found then status else 1

/-- Sends signals, or lists their names. -/
def kill (words : List Text) : Command Nat := do
  let usage : Command Nat := Command.fail killUsage.toList
  match words with
  | [] => usage
  | ('-' :: name) :: rest =>
    match SignalName.number? name with
    | some signal => if rest.isEmpty then usage else sendAll signal rest
    | none =>
      let (found, words) ← options "ls:" (words.length + 1) words
      let lists := found.any (·.1 = 'l')
      let named := (found.filter (·.1 = 's')).getLast?.map (·.2)
      let signal ← match named with
        | none => pure 15
        | some name =>
          match SignalName.number? name with
          | some signal => pure signal
          | none => Command.fail ("invalid signal number or name: ".toList ++ name)
      if lists then
        match words with
        | [] =>
          Command.printLine ['0']
          for name in SignalName.all.drop 1 do Command.printLine name.toList
          return 0
        | word :: _ =>
          let n ← Command.number word
          let n := if 128 < n then n - 128 else n
          if 0 < n && n < 65 then
            Command.printLine (SignalName.all.getD n "").toList
            return 0
          else Command.fail ("invalid signal number or exit status: ".toList ++ word)
      else if words.isEmpty then usage
      else sendAll signal words
  | words => sendAll 15 words

/-- Puts the command for a signal in place, in the order of the numbers. -/
def putTrap (signal : Nat) (action : Option Text) : Command Unit :=
  modify fun s =>
    let others := s.traps.filter (·.1 ≠ signal)
    match action with
    | none => { s with traps := others }
    | some action =>
      { s with
        traps := others.filter (·.1 < signal) ++ (signal, action) :: others.filter (signal < ·.1) }

/-- Sets the commands for signals, or shows them. -/
def trap (words : List Text) : Command Nat := do
  match ← withoutOptions words with
  | [] =>
    for (signal, action) in (← get).traps do
      Command.printLine ("trap -- ".toList ++ singleQuoted action ++ ' ' ::
        (SignalName.all.getD signal "").toList)
    return 0
  | first :: rest =>
    let isReset := rest.isEmpty ||
      (!first.isEmpty && first.all Char.isDigit && (SignalName.number? first).isSome)
    let action := if isReset || first = ['-'] then none else some first
    let rec go : List Text → Command Nat
      | [] => return 0
      | name :: names => do
        match SignalName.number? name with
        | some signal =>
          putTrap signal action
          go names
        | none =>
          let _ ← Command.task
            (Task.write 2 ("trap: ".toList ++ name ++ ": bad trap\n".toList))
          return 1
    go (if isReset then first :: rest else rest)

/-- Tells what has killed a process. -/
def reportKill (halt : Halt) : Command Unit := do
  match halt with
  | .killed signal =>
    if signal ≠ 2 && signal ≠ Task.brokenPipe then
      let _ ← Command.task
        (Task.write 2 ((SignalName.description signal).toList ++ ['\n']))
  | .exit _ => return

/-- Waits for jobs; the status is that of the last one. -/
def wait (words : List Text) : Command Nat := do
  let words ← withoutOptions words
  let mut status := 0
  for word in words do
    match ← job? word with
    | some job =>
      Command.task Task.passTime
      if !job.isOver then reportKill job.halt
      status := job.halt.status
    | none => status := 127
  if words.isEmpty then Command.task Task.passTime
  return status

/-- How a job is doing. -/
def jobState (job : Job) : String :=
  if !job.isOver then "Running"
  else
    match job.halt with
    | .exit 0 => "Done"
    | .exit status => "Done(" ++ toString status ++ ")"
    | .killed signal => SignalName.description signal

/-- Lists the jobs, from the last one on; those that are over are not listed again. -/
def listJobs (_ : List Text) : Command Nat := do
  let all ← jobs
  let last := all.length
  for (job, number) in (all.zipIdx 1).reverse do
    let mark := if number = last then '+' else if number + 1 = last then '-' else ' '
    let text := ("[" ++ toString number ++ "] ").toList ++ mark :: ' ' :: (jobState job).toList
    Command.printLine (text ++ List.replicate (33 - text.length) ' ')
  modify fun s =>
    let jobs := s.machine.jobs.filter fun job =>
      !(job.isOver && job.parent = s.machine.process)
    { s with machine := { s.machine with jobs } }
  return 0

/-- The limits of a process: their names, letters and units. -/
def limitNames : List (String × Char × Nat) :=
  [("time(seconds)", 't', 1), ("file(blocks)", 'f', 512), ("data(kbytes)", 'd', 1024),
    ("stack(kbytes)", 's', 1024), ("coredump(blocks)", 'c', 512), ("memory(kbytes)", 'm', 1024),
    ("locked memory(kbytes)", 'l', 1024), ("process", 'p', 1), ("nofiles", 'n', 1),
    ("vmemory(kbytes)", 'v', 1024), ("locks", 'w', 1), ("rtprio", 'r', 1)]

/-- The limit with a letter. -/
def limit (letter : Char) : Command Limit := do
  return ((← get).machine.limits.lookup letter).getD ⟨none, none⟩

/-- Shows a limit in its unit. -/
def showLimit (highest : Bool) (letter : Char) (unit : Nat) : Command Unit := do
  let limit ← limit letter
  match if highest then limit.highest else limit.current with
  | some n => Command.printLine (Number.decimal (n / unit : Nat))
  | none => Command.printLine "unlimited".toList

/-- Whether a limit is above another one. -/
def isAbove (a b : Option Nat) : Bool :=
  match a, b with
  | some a, some b => b < a
  | none, some _ => true
  | _, none => false

/-- Sets a limit or shows limits. -/
def limits (words : List Text) : Command Nat := do
  let known := "HSa" ++ String.ofList (limitNames.map (·.2.1))
  let (found, words) ← options known (words.length + 1) words
  let all := found.any (·.1 = 'a')
  let kind := (found.filter fun o => o.1 = 'H' || o.1 = 'S').getLast?.map (·.1)
  let letter := ((found.filter fun o => !"HSa".toList.contains o.1).getLast?.map (·.1)).getD 'f'
  let unit := ((limitNames.find? (·.2.1 = letter)).map (·.2.2)).getD 1
  match words with
  | [] =>
    if all then
      for (name, letter, unit) in limitNames do
        Command.print (name.toList ++ List.replicate (21 - name.length) ' ')
        showLimit (kind = some 'H') letter unit
    else showLimit (kind = some 'H') letter unit
  | word :: more =>
    if all || !more.isEmpty then Command.fail "too many arguments".toList
    let value ←
      if word = "unlimited".toList then pure none
      else if word.all Char.isDigit then pure (some ((Number.digits 10 word 0 0).1 * unit))
      else Command.fail "bad number".toList
    let old ← limit letter
    let next : Limit :=
      { current := if kind = some 'H' then old.current else value
        highest := if kind = some 'S' then old.highest else value }
    let refuse (e : SystemError) : Command Unit :=
      Command.fail ("error setting limit (".toList ++ e.reason.toList ++ [')'])
    if isAbove next.current next.highest then refuse .invalidArgument
    if isAbove next.highest old.highest then refuse .notPermitted
    modify fun s =>
      let limits := (letter, next) :: s.machine.limits.filter (·.1 ≠ letter)
      { s with machine := { s.machine with limits } }
  return 0

/-- There are no jobs to go on with. -/
def resume (words : List Text) : Command Nat := do
  let words ← withoutOptions words
  match words with
  | [] => Command.fail "No current job".toList
  | job :: _ => Command.fail ("No such job: ".toList ++ job)

def times (_ : List Text) : Command Nat := do
  Command.printLine "0m0.000000s 0m0.000000s".toList
  Command.printLine "0m0.000000s 0m0.000000s".toList
  return 0

/-- Keeps in mind that a program has been found in the search path. -/
def remember (name : Text) : Command Unit :=
  modify fun s =>
    if name.contains '/' || s.found.contains name then s else { s with found := s.found ++ [name] }

/-- The chain of the table of programs that a name is in. -/
def chain (name : Text) : Nat :=
  (name.foldl (fun sum c => sum + c.toNat) ((name.headD '\x00').toNat * 16)) % 32768 % 31

/-- Looks programs up, or shows those that have been found, chain after chain. -/
def hash (words : List Text) : Command Nat := do
  let (found, words) ← options "r" (words.length + 1) words
  if !found.isEmpty then modify fun s => { s with found := [] }
  else if words.isEmpty then
    let s ← get
    for number in List.range 31 do
      for name in s.found.filter (chain · = number) do
        match program? s.machine.files (← path) name with
        | some path => Command.printLine path
        | none => pure ()
  let mut status := 0
  for word in words do
    if (program? (← get).machine.files (← path) word).isNone then
      Command.warn (word ++ ": not found".toList)
      status := 1
    else remember word
  return status

/-- The builtins that the shell treats as its own words; mistakes in them end it. -/
def isSpecial (name : String) : Bool := specialCommands.contains name

/-- The builtins that run commands or change how commands go on. -/
def controlNames : List String :=
  [".", "break", "command", "continue", "eval", "exec", "exit", "return", "type"]

/-- The builtins that only use the state of the shell. -/
def plain? (name : String) : Option (List Text → Command Nat) :=
  match name with
  | ":" | "true" => some fun _ => return 0
  | "false" => some fun _ => return 1
  | "echo" => some echo
  | "printf" => some printf
  | "test" => some condition
  | "[" => some bracketCondition
  | "export" => some (mark "export".toList false)
  | "readonly" => some (mark "readonly".toList true)
  | "local" => some makeLocal
  | "unset" => some unset
  | "shift" => some shift
  | "set" => some set
  | "read" => some read
  | "getopts" => some getopts
  | "cd" | "chdir" => some changeDirectory
  | "pwd" => some showDirectory
  | "kill" => some kill
  | "trap" => some trap
  | "wait" => some wait
  | "umask" => some umask
  | "ulimit" => some limits
  | "times" => some times
  | "hash" => some hash
  | "alias" => some defineAliases
  | "unalias" => some removeAliases
  | "fg" | "bg" => some resume
  | "jobs" => some listJobs
  | _ => none

def isBuiltin (name : String) : Bool := controlNames.contains name || (plain? name).isSome

/-- The path or the name of the command that a name stands for. -/
def find? (name : Text) : Command (Option Text) := do
  let s ← get
  let key := String.ofList name
  if (s.functions.lookup key).isSome || isBuiltin key then return some name
  else
    let program := program? s.machine.files (← path) name
    if program.isSome then remember name
    return program

/-- Tells what a name stands for. -/
def describe (isKeyword : Bool) (name : Text) : Command Nat := do
  let s ← get
  let key := String.ofList name
  let tell (text : String) : Command Nat := do
    Command.printLine (name ++ text.toList)
    return 0
  if isKeyword then tell " is a shell keyword"
  else if let some text := s.aliases.lookup name then
    Command.printLine (name ++ " is an alias for ".toList ++ text)
    return 0
  else if (s.functions.lookup key).isSome then tell " is a shell function"
  else if isBuiltin key then
    tell (if isSpecial key then " is a special shell builtin" else " is a shell builtin")
  else
    match program? s.machine.files (← path) name with
    | some path =>
      let isKnown := s.found.contains name
      remember name
      tell ((if isKnown then " is a tracked alias for " else " is ") ++ String.ofList path)
    | none =>
      Command.printLine (name ++ ": not found".toList)
      return 127

end Builtin

end KDispatch.Shell
