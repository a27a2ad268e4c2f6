import KDispatch.Shell.Extended.Builtin.Streams
import KDispatch.Shell.Extended.Evaluator

/-!
Redirections, calls of functions and programs, and the builtin commands that run other commands.
-/

/-! ## Redirections

Redirections of commands. They are carried out in turn, each of them after its words have been expanded,
and undone after the command; descriptors whose numbers are kept in variables stay open.
-/

namespace KDispatch.Shell.Extended.Evaluator

/-- The single field that the word of a redirection becomes; others have been reported. -/
def redirectionTarget? (ev : Evaluator) (word : Word) : Command (Option Text) := do
  match ← Expansion.fields ev.runner word with
  | [text] => return some text
  | _ =>
    Command.complain (word.source ++ ": ambiguous redirect".toList)
    return none

/-- The first descriptor from a number on that is not in use. -/
def freeDescriptor (first : Nat) : Command Nat := do
  let used := (← get).machine.descriptors.map (·.1)
  return ((List.range (used.length + 1)).map (first + ·)).find? (fun n => !used.contains n) |>.getD first

/-- Makes a descriptor lead to a description; `false` if its number cannot be kept. -/
def attach (handle : Handle) (description : Nat) : Command Bool := do
  match handle with
  | .number n =>
    Command.task (Task.setDescriptor n description)
    return true
  | .stored target =>
    let n ← freeDescriptor 10
    if (← Assigning.putNamed? target (Number.decimal n)) = some true then
      Command.task (Task.setDescriptor n description)
      return true
    else
      Command.complain (target ++ ": cannot assign fd to variable".toList)
      return false

/-- The number of a descriptor that is to be closed. -/
def closedDescriptor (handle : Handle) : Command (Option Nat) := do
  match handle with
  | .number n => return some n
  | .stored target =>
    let value ← match Holder.ofText? target with
      | some holder => holder.value
      | none => pure .missing
    match Builtin.integer? value.text with
    | some n => return some n.toNat
    | none =>
      Command.complain (target ++ ": ambiguous redirect".toList)
      return none

/-- Opens a file for a redirection. -/
def openTarget (mode : OpenMode) (path : Text) : Command (Option Nat) := do
  let opening : Task.Opening := match mode with
    | .read => .read
    | .readWrite => .readWrite
    | .append => .append
    | .write | .overwrite => .write
  let files := (← get).machine.files
  let isThere := match files.openToRead (Task.path path) with
    | .ok location => (files.content? location).isSome
    | .error _ => false
  if mode = .write && isThere && (← Command.hasOption "noclobber") then
    Command.complain (path ++ ": cannot overwrite existing file".toList)
    return none
  else
    match ← Command.task (Task.openFile path opening) with
    | .ok description => return some description
    | .error e =>
      Command.complain (path ++ (": " ++ e.reason).toList)
      return none

/-- Makes a descriptor lead to a new pipe from which a text can be read. -/
def attachText (handle : Handle) (text : Text) : Command Bool := do
  let (reading, writing) ← Command.task Task.pipe
  let _ ← Command.task (Task.writeTo writing text)
  attach handle reading

/-- Sends both outputs to a file. -/
def attachOutputs (mode : OpenMode) (path : Text) : Command Bool := do
  match ← openTarget mode path with
  | none => return false
  | some description =>
    Command.task (Task.setDescriptor 1 description)
    Command.task (Task.setDescriptor 2 description)
    return true

/-- Makes a descriptor lead where another one does, which is shown as in the source and may be closed
then. -/
def duplicateDescriptor (handle : Handle) (shown : Text) (source : Nat) (moves : Bool) :
    Command Bool := do
  match (← get).machine.description? source with
  | none =>
    Command.complain (shown ++ ": ".toList ++ SystemError.badDescriptor.reason.toList)
    return false
  | some description =>
    let done ← attach handle description
    if moves then Command.task (Task.closeDescriptor source)
    return done

/-- Carries a redirection out; `false` if it has failed, which has been reported then. -/
def redirect (ev : Evaluator) (redirection : Redirection) : Command Bool := do
  match redirection with
  | .file handle mode target =>
    match ← ev.redirectionTarget? target with
    | none => return false
    | some path =>
      match ← openTarget mode path with
      | none => return false
      | some description => attach handle description
  | .outputs appends target =>
    match ← ev.redirectionTarget? target with
    | none => return false
    | some path => attachOutputs (if appends then .append else .write) path
  | .document handle number =>
    match (← get).documents.lookup number with
    | none => attachText handle []
    | some document =>
      let text ←
        if document.expands then Expansion.documentText ev.runner document.parts
        else pure document.source
      attachText handle text
  | .line handle word =>
    let text ← Expansion.text ev.runner .atStart word.parts
    attachText handle (text ++ ['\n'])
  | .duplicate handle writes source =>
    match ← ev.redirectionTarget? source with
    | none => return false
    | some ['-'] =>
      match ← closedDescriptor handle with
      | none => return false
      | some n =>
        Command.task (Task.closeDescriptor n)
        return true
    | some text =>
      let digits := text.takeWhile Char.isDigit
      let rest := text.drop digits.length
      if !digits.isEmpty && (rest.isEmpty || rest = ['-']) then
        duplicateDescriptor handle source.source (Number.digits 10 digits 0 0).1 (!rest.isEmpty)
      else
        match writes, handle with
        | true, .number 1 => attachOutputs .write text
        | _, _ =>
          Command.complain (source.source ++ ": ambiguous redirect".toList)
          return false

/-- Carries redirections out in turn, up to the first that fails. -/
def redirectAll (ev : Evaluator) : List Redirection → Command Bool
  | [] => return true
  | first :: more => do
    if ← ev.redirect first then ev.redirectAll more else return false

/-- The descriptors that a redirection changes. -/
def touched : Redirection → List Nat
  | .outputs _ _ => [1, 2]
  | .duplicate (.number 1) true _ => [1, 2]
  | .file (.number n) _ _ | .duplicate (.number n) _ _ | .document (.number n) _ | .line (.number n) _ =>
    [n]
  | _ => []

/-- Makes descriptors lead again where they led before. -/
def restore (numbers : List Nat) (before : List (Nat × Nat)) : Command Unit :=
  modify fun s =>
    let others := s.machine.descriptors.filter fun entry => !numbers.contains entry.1
    let old := before.filter fun entry => numbers.contains entry.1
    { s with machine := { s.machine with descriptors := old ++ others } }

/-- Carries redirections out; nothing is changed if one fails or is given up. -/
def redirectOrUndo (ev : Evaluator) (redirections : List Redirection) : Command Bool := fun s =>
  let before := s.machine.descriptors
  let undo (s : Shell) : Shell := { s with machine := { s.machine with descriptors := before } }
  match ev.redirectAll redirections s with
  | .ok true s => .ok true s
  | .ok false s => .ok false (undo s)
  | .error jump s => .error jump (undo s)

/-- Does work with redirections, which are undone after it. -/
def redirected (ev : Evaluator) (redirections : List Redirection) (failed work : Command Unit) :
    Command Unit := do
  if redirections.isEmpty then work
  else
    let before := (← get).machine.descriptors
    if ← ev.redirectOrUndo redirections then
      ensuring work (restore (redirections.flatMap touched) before)
    else failed

/-! ## Calls

Calls of functions and programs, and the builtin commands that run other commands or change how commands
go on.
-/

/-- How many functions can run at a time, each called by the one before. -/
def maximalCalls : Nat := 2000

/-- The signal for a process that has used up its memory for calls. -/
def memoryFault : Nat := 11

/-- The commands for events that do not reach into functions. -/
def hiddenTraps (s : Shell) : List (Nat × Text) :=
  s.traps.filter fun (event, _) =>
    (event = Event.failure && !s.options.contains "errtrace") ||
      ((event = Event.debug || event = Event.back) && !s.options.contains "functrace")

/-- Calls a function with variables of its own. -/
def callFunction (ev : Evaluator) (name : Text) (f : Function) (bindings : List (String × Variable))
    (arguments : List Text) (position : Position) : Command Unit := do
  let outer ← get
  if outer.calls.length ≥ maximalCalls then throw (.halt (.killed memoryFault))
  let call : Call :=
    { name, file := f.file, line := outer.line, isFunction := true, arguments }
  let hidden := hiddenTraps outer
  modify fun s =>
    { s with
      arguments, calls := call :: s.calls, loops := 0
      traps := s.traps.filter fun entry => (hidden.lookup entry.1).isNone }
  let body : Command Unit := do
    untilBack (ev.run f.body position.inner)
    ev.runTrap Event.back "return trap" (← get).line
  ensuring (Command.inScope ⟨true, bindings⟩ body) do
    modify fun s =>
      { s with
        arguments := outer.arguments, calls := outer.calls, loops := outer.loops, line := outer.line }
    for (event, action) in hidden do
      if ((← get).traps.lookup event).isNone then Builtin.putTrap event (some action)

/-- A process that has been waited for, with the text of its command. -/
structure Finished where
  process : Nat
  halt : Halt
  text : Text

/-- How a process has ended. -/
def Finished.state (finished : Finished) : Text :=
  match finished.halt with
  | .exit 0 => "Done".toList
  | .exit status => "Exit ".toList ++ Number.decimal status
  | .killed signal => (SignalName.description signal).toList

/-- Tells what has killed the processes of a pipeline, if that one has been killed that counts. -/
def reportKilled (all : List Finished) (counting : Halt) : Command Unit := do
  match counting with
  | .exit _ => return
  | .killed signal =>
    if signal = 15 then
      let _ ← Command.task (Task.write 2 ((SignalName.description signal).toList ++ ['\n']))
    else if signal ≠ 2 && signal ≠ Task.brokenPipe then
      let lines := all.zipIdx.map fun (finished, n) =>
        let number := Number.decimal finished.process
        let start := List.replicate (5 - number.length) ' ' ++ number ++ ' ' ::
          Builtin.padded 24 finished.state
        if n = 0 then start ++ finished.text
        else "     ".toList ++ start ++ "| ".toList ++ finished.text
      Command.complain (['\n'].intercalate lines)

/-- Tells what has killed a process that has been waited for, and sets the status to that of the process. -/
def waitFor (halt : Halt) (process : Nat) (text : Text) : Command Unit := do
  reportKilled [⟨process, halt, text⟩] halt
  Command.setStatus halt.status

/-- Whether a file holds something other than a text. -/
def isBinary (content : Text) : Bool := ((content.take 80).takeWhile (· ≠ '\n')).contains '\x00'

/-- Why a file cannot be run, and the status that tells it. -/
def refusal (files : FileSystem) (path : Text) (e : SystemError) : String × Nat :=
  match files.locate (Task.path path) with
  | .error .notFound => (SystemError.notFound.reason, 127)
  | .error e => (e.reason, 126)
  | .ok location =>
    match files.node? location with
    | none => (SystemError.notFound.reason, 127)
    | some .directory => (SystemError.isADirectory.reason, 126)
    | some _ =>
      match e with
      | .notFound => ("cannot execute: required file not found", 127)
      | e => (e.reason, 126)

/-- Puts the file of a program in place of the shell; one without a known form is run as a script.
Comes back with the status if that fails, which has been reported then. -/
def becomeFile (ev : Evaluator) (path : Text) (words : List Text) : Command Nat := do
  let files := (← get).machine.files
  match ← Command.task (ev.execute path words) with
  | .ok status => throw (.halt (.exit status))
  | .error .execFormat =>
    match ← Command.task (Task.readFile path) with
    | .ok content =>
      if isBinary content then
        Command.complain (path ++ ": cannot execute binary file: Exec format error".toList)
        return 126
      else
        let shell := "/bin/bash".toList
        match ← Command.task (ev.execute shell (shell :: path :: words.drop 1)) with
        | .ok status => throw (.halt (.exit status))
        | .error _ => return 126
    | .error _ => return 126
  | .error e =>
    let (reason, status) := refusal files path e
    Command.complain (path ++ (": " ++ reason).toList)
    return status

/-- Counts the shell no longer among the shells that started each other. -/
def leaveDepth : Command Unit := do
  let depth := ((← Builtin.valueOf? "SHLVL").bind Builtin.integer?).getD 0
  Command.putVariable "SHLVL"
    ⟨.single (some (Number.decimal (max (depth - 1) 0))), { Attributes.none with exported := true }⟩

/-- Makes the process ready for a program; the path is told to the program if there is one. -/
def prepare (path : Option Text) : Command Unit := do
  let environment ← Command.environment
  modify fun s =>
    let environment := environment.filter (·.1 ≠ "_") ++ (path.map ("_", ·)).toList
    { s with machine := { s.machine with environment, ignored := ignoredSignals s ++ s.machine.ignored } }

/-- Puts a program in place of the shell. -/
def becomeProgram (ev : Evaluator) (words : List Text) : Command Nat := do
  let name := words.headD []
  let found ← if name.contains '/' then pure (some name) else if name.isEmpty then pure none
    else do
      let known ← Builtin.find? name
      pure (if (← Builtin.path).isEmpty then known.or (some name) else known)
  match found with
  | some path =>
    prepare (some path)
    ev.becomeFile path words
  | none =>
    match (← get).functions.lookup "command_not_found_handle".toList with
    | some f =>
      ev.callFunction "command_not_found_handle".toList f [] words .plain
      return (← get).status
    | none =>
      Command.complain (name ++ ": command not found".toList)
      return 127

/-- Runs a program and waits for it; nothing comes back from one that is the last of its process. -/
def runProgram (ev : Evaluator) (words : List Text) (position : Position) : Command Unit := do
  let name := words.headD []
  if !name.contains '/' && !name.isEmpty then let _ ← Builtin.find? name
  if position.last && (← get).traps.all (·.2.isEmpty) then
    if !(← get).isPiped then leaveDepth
    let status ← ev.becomeProgram words
    throw (.halt (.exit status))
  else
    let s ← get
    let halt ← Command.child do
      modify fun now => { now with subshells := s.subshells, traps := keptTraps now }
      let status ← ev.becomeProgram words
      return status
    waitFor halt s.machine.nextProcess s.commandText
    ev.receiveSignals 100

/-- The words of `exec`. -/
structure ExecRequest where
  /-- Whether the program gets no variables. -/
  clean : Bool
  login : Bool
  name : Option Text
  words : List Text

/-- Reads the words of `exec`. -/
def execRequest (words : List Text) : Builtin.Work ExecRequest := do
  let (found, words) ← Builtin.options "cla:" words
  return ⟨Builtin.has found 'c', Builtin.has found 'l', Builtin.argument? found 'a', words⟩

/-- Puts a program in place of the shell; a shell that cannot do that ends. -/
def exec (ev : Evaluator) (words : List Text) : Builtin.Work Nat := do
  let request ← execRequest words
  match request.words with
  | [] => return 0
  | name :: rest =>
    let leave (status : Nat) : Builtin.Work Nat := do
      if ← Command.hasSetting "execfail" then return status
      else
        Command.setStatus status
        throw (m := Command) Jump.exit
    let files := (← (get : Command Shell)).machine.files
    let found ← if name.contains '/' then pure (some name)
      else (Builtin.find? name : Command (Option Text))
    match found with
    | none =>
      Command.warn (name ++ ": not found".toList)
      leave 127
    | some path =>
      if !request.clean && !(← (get : Command Shell)).inParentheses then leaveDepth
      prepare none
      if request.clean then
        modify fun s : Shell => { s with machine := { s.machine with environment := [] } }
      let shown := request.name.getD name
      let first := if request.login then '-' :: shown else shown
      let status ← (ev.becomeFile path (first :: rest) : Command Nat)
      if status = 126 && !Builtin.isProgram files path then
        let (reason, _) := refusal files path .permissionDenied
        Command.warn (path ++ (": cannot execute: " ++ reason).toList)
      leave status

/-- The file that a name given to `source` stands for. -/
def sourceFile (name : Text) : Command Text := do
  if name.contains '/' then return name
  else
    let files := (← get).machine.files
    let searched ← if ← Command.hasSetting "sourcepath" then
        pure ((Builtin.filesOf (← Builtin.path) name).find? (Builtin.isFile files))
      else pure none
    return searched.getD name

/-- Runs the commands in a file. -/
def runFile (ev : Evaluator) (words : List Text) (position : Position) : Builtin.Work Nat := do
  match ← Builtin.withoutOptions words with
  | [] =>
    Command.warn "filename argument required".toList
    Builtin.misused
  | name :: arguments =>
    let path ← (sourceFile name : Command Text)
    let read ← (Command.task (Task.readFile path) : Command (Except SystemError Text))
    match read with
    | .error .isADirectory => Builtin.refuse (path ++ ": is a directory".toList)
    | .error e =>
      Command.complain (path ++ (": " ++ e.reason).toList)
      return 1
    | .ok text =>
      let outer ← (get : Command Shell)
      let call : Call :=
        { name := "source".toList, file := path, line := outer.line, isFunction := false, arguments }
      let hidden := outer.traps.filter fun entry => entry.1 = Event.debug && !outer.options.contains "functrace"
      modify fun s : Shell =>
        { s with
          calls := call :: s.calls
          command := none
          arguments := if arguments.isEmpty then s.arguments else arguments
          traps := s.traps.filter fun entry => (hidden.lookup entry.1).isNone }
      let body : Command Unit := do
        untilBack (deeper (ev.runCommands ⟨"", true, position.inner⟩ 1 text))
        ev.runTrap Event.back "return trap" (← get).line
      let finish : Command Unit := do
        modify fun s =>
          { s with
            calls := outer.calls, line := outer.line, command := outer.command
            arguments := if arguments.isEmpty then s.arguments else outer.arguments }
        for (event, action) in hidden do
          if ((← get).traps.lookup event).isNone then Builtin.putTrap event (some action)
      (ensuring body finish : Command Unit)
      return (← (get : Command Shell)).status

/-- Runs its words as commands. -/
def evaluateWords (ev : Evaluator) (words : List Text) (position : Position) : Builtin.Work Nat := do
  let words ← Builtin.withoutOptions words
  let outer ← (get : Command Shell)
  let body : Command Unit := do
    modify fun s => { s with command := none }
    deeper (ev.runCommands ⟨"eval: ", true, position.inner⟩ outer.line ([' '].intercalate words))
  (ensuring body (modify fun s => { s with command := outer.command }) : Command Unit)
  return (← (get : Command Shell)).status

/-- Leaves loops, or goes on with the next round of one. -/
def jumpOut (words : List Text) (leaves : Bool) : Builtin.Work Nat := do
  let loops := (← (get : Command Shell)).loops
  if loops = 0 then
    Command.warn ("only meaningful in a ".toList ++ Builtin.marked "for".toList ++ ", ".toList ++
      Builtin.marked "while".toList ++ ", or ".toList ++ Builtin.marked "until".toList ++ " loop".toList)
    return 0
  else
    match ← Builtin.number? words with
    | none =>
      Command.setStatus 128
      throw (m := Command) Jump.exit
    | some n =>
      if n ≤ 0 then
        Command.warn (Number.decimal n ++ ": loop count out of range".toList)
        Command.setStatus 1
        throw (m := Command) (.leave loops)
      else
        Command.setStatus 0
        let count := min n.toNat loops
        throw (m := Command) (if leaves then .leave count else .again count)

/-- The status that a word gives, or else the last one. -/
def statusOf (words : List Text) : Builtin.Work Nat := do
  let words := if words.head? = some ['-', '-'] then words.drop 1 else words
  match words with
  | [] => return (← (get : Command Shell)).status
  | word :: rest =>
    match Builtin.integer? word with
    | none =>
      Command.warn (word ++ ": numeric argument required".toList)
      return 2
    | some n =>
      if !rest.isEmpty then Builtin.tooMany
      return (n % 256).toNat

/-- Leaves a function or a file of commands. -/
def leaveCall (words : List Text) : Builtin.Work Nat := do
  let s ← (get : Command Shell)
  if s.calls.isEmpty then
    Command.warn ("can only ".toList ++ Builtin.marked "return".toList ++
      " from a function or sourced script".toList)
    return 2
  else
    Command.setStatus (← statusOf words)
    throw (m := Command) Jump.back

/-- The builtins that only use the state of the shell. -/
def plainBuiltin? (ev : Evaluator) (name : String) : Option (List Text → Builtin.Work Nat) :=
  match name with
  | ":" | "true" => some fun _ => return 0
  | "false" => some fun _ => return 1
  | "[" => some Builtin.bracketTest
  | "alias" => some Builtin.defineAliases
  | "bg" | "fg" => some Builtin.resume
  | "bind" | "complete" | "fc" | "help" | "history" => some fun _ => return 0
  | "caller" => some Builtin.caller
  | "cd" => some Builtin.changeDirectory
  | "compgen" => some Builtin.complete
  | "compopt" => some fun _ => Builtin.refuse "not currently executing completion function".toList
  | "declare" | "typeset" => some (Builtin.declaration ev.runner false)
  | "dirs" => some Builtin.dirs
  | "disown" => some Builtin.disown
  | "echo" => some Builtin.echo
  | "enable" => some Builtin.enable
  | "getopts" => some Builtin.getopts
  | "hash" => some Builtin.hash
  | "jobs" => some Builtin.listJobs
  | "kill" => some Builtin.kill
  | "let" => some Builtin.calculate
  | "local" => some (Builtin.declareLocal ev.runner)
  | "logout" => some fun _ =>
      Builtin.refuse ("not login shell: use ".toList ++ Builtin.marked "exit".toList)
  | "popd" => some Builtin.popd
  | "printf" => some Builtin.printf
  | "pushd" => some Builtin.pushd
  | "pwd" => some Builtin.showDirectory
  | "read" => some Builtin.read
  | "set" => some Builtin.set
  | "shift" => some Builtin.shift
  | "shopt" => some Builtin.shopt
  | "suspend" => some Builtin.suspend
  | "test" => some Builtin.test
  | "times" => some Builtin.times
  | "trap" => some Builtin.trap
  | "type" => some Builtin.type
  | "ulimit" => some Builtin.limits
  | "umask" => some Builtin.umask
  | "unalias" => some Builtin.removeAliases
  | "unset" => some Builtin.unset
  | "wait" => some Builtin.wait
  | _ => none

/-- Shows the assignments among the words of `export` and `readonly`. -/
def traceMarked (ev : Evaluator) (words : List Text) : Command Unit := do
  for word in words.dropWhile fun word => word.head? = some '-' do
    match assignmentHead? word with
    | some (_, length) => ev.trace (word.take length ++ Assigning.shownValue (word.drop length))
    | none => pure ()

/-- What a builtin does that runs no other builtin by its name. -/
def ownWork (ev : Evaluator) (name : String) (words : List Text) (position : Position) :
    Builtin.Work Nat := do
  match name with
  | "eval" => ev.evaluateWords words position
  | "." | "source" => ev.runFile words position
  | "break" => jumpOut words true
  | "continue" => jumpOut words false
  | "exit" =>
    Command.setStatus (← statusOf words)
    throw (m := Command) Jump.exit
  | "return" => leaveCall words
  | "exec" => ev.exec words
  | "export" | "readonly" =>
    (ev.traceMarked words : Command Unit)
    Builtin.mark ev.runner (name = "export") words
  | "mapfile" | "readarray" =>
    let run (text : Text) : Command Unit := do
      ev.runText ⟨"", false, .plain⟩ (← get).line text
    Builtin.mapfile run words
  | _ =>
    match ev.plainBuiltin? name with
    | some work => work words
    | none => return 0

/-- What a builtin does; those that run others take the names of these from their words. -/
def builtinWork (ev : Evaluator) : (fuel : Nat) → (name : String) → (words : List Text) → Position →
    Builtin.Work Nat
  | 0, _, _, _ => return 1
  | fuel + 1, name, words, position => do
    let named (name : Text) (words : List Text) : Builtin.Work Nat := do
      modify fun s : Shell => { s with command := some name }
      ev.builtinWork fuel (String.ofList name) words position
    match name with
    | "builtin" =>
      match ← Builtin.withoutOptions words with
      | [] => return 0
      | name :: words =>
        if Builtin.isBuiltin (← (get : Command Shell)) name then named name words
        else Builtin.refuse (name ++ ": not a shell builtin".toList)
    | "command" =>
      let (found, words) ← Builtin.options "pvV" words
      let path ← if Builtin.has found 'p' then pure "/usr/bin:/bin".toList
        else (Builtin.path : Command Text)
      let telling := (found.filter (·.letter ≠ 'p')).getLast?
      match telling, words with
      | _, [] => return 0
      | some ⟨_, 'V', _⟩, words => Builtin.describe .sentence path words
      | some _, words => Builtin.describe .word path words
      | none, name :: rest =>
        if Builtin.isBuiltin (← (get : Command Shell)) name then named name rest
        else
          let command := (← (get : Command Shell)).command
          modify fun s : Shell => { s with command := none }
          (ev.runProgram (name :: rest) position.inner : Command Unit)
          modify fun s : Shell => { s with command }
          return (← (get : Command Shell)).status
    | name => ev.ownWork name words position

/-- Runs a builtin command, and writes what it has to write. -/
def runBuiltin (ev : Evaluator) (name : Text) (words : List Text) (position : Position) :
    Command Unit := do
  let outer := (← get).command
  modify fun s => { s with command := some name, buffer := [] }
  let finish : Command Unit := do
    match ← Command.flush with
    | .ok () => pure ()
    | .error e =>
      Command.warn (("write error: " ++ e.reason).toList)
      Command.setStatus 1
    modify fun s => { s with command := outer }
  ensuring (do Command.setStatus (← (ev.builtinWork 100 (String.ofList name) words position).status)) finish

end KDispatch.Shell.Extended.Evaluator
