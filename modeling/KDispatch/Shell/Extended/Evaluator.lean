import KDispatch.Shell.Extended.Builtin.Lookup
import KDispatch.Shell.Extended.Builtin.Processes
import KDispatch.Shell.Extended.Builtin.Streams
import KDispatch.Shell.Interpreter

/-!
Running texts of commands: one complete command after the other, as processes of their own for the words
that they stand in, and for signals and other events. What runs scripts and programs is handed to each
function as an `Evaluator`, so that every function is a single step.
-/

namespace KDispatch.Shell.Extended

/-- What a step of the work is built on. -/
structure Evaluator where
  /-- Runs a script. -/
  run : Script → Position → Command Unit
  /-- Puts a program in place of the running process; gives the status that it ends with. -/
  execute : (path : Text) → (words : List Text) → Task (Except SystemError Nat)

namespace Evaluator

/-- The end of a command that can be left by a jump. -/
inductive Round where
  | completed
  | left (loops : Nat)
  | again (loops : Nat)

/-- Runs a part of a loop. -/
def round (work : Command Unit) : Command Round := fun s =>
  match work s with
  | .ok () s => .ok .completed s
  | .error (.leave n) s => .ok (.left n) s
  | .error (.again n) s => .ok (.again n) s
  | .error jump s => .error jump s

/-- Runs work and then something more, whatever way the work is left. -/
def ensuring {α : Type} (work : Command α) (more : Command Unit) : Command α := fun s =>
  match work s with
  | .ok value s =>
    match more s with
    | .ok () s => .ok value s
    | .error jump s => .error jump s
  | .error jump s =>
    match more s with
    | .ok () s => .error jump s
    | .error _ s => .error jump s

/-- Runs work that may be left by `return`, which sets the status. -/
def untilBack (work : Command Unit) : Command Unit := fun s =>
  match work s with
  | .error .back s => .ok () s
  | result => result

/-- Runs a complete command. If it is given up, the text that it stands in goes on after it, except in
subshells, which end. -/
def untilDiscard (work : Command Unit) : Command Unit := fun s =>
  let running := s.command
  match work s with
  | .error .discard s =>
    let status := max s.status 1
    let s := { s with command := running, status, pipeStatuses := [status] }
    if 0 < s.subshells then .error .exit s else .ok () s
  | result => result

/-- How a text is run. -/
structure Manner where
  /-- What messages about its syntax begin with. -/
  kind : String
  /-- Whether it is shown as it is read. -/
  shown : Bool
  /-- Where it stands; nothing comes after its last command if nothing comes after the text. -/
  position : Position

/-- Shows a text that has been read if the shell is to show what it reads. -/
def showText (text : Text) : Command Unit := do
  if ← Command.hasOption "verbose" then
    let _ ← Command.task (Task.write 2 text)

/-- A text with an end for its last line; a backslash at the end of the text stands for itself. -/
def completed (text : Text) : Text :=
  if text.isEmpty || text.getLast? = some '\n' then text
  else if (text.reverse.takeWhile (· = '\\')).length % 2 = 1 then text ++ ['\\', '\n']
  else text ++ ['\n']

/-- Runs the commands of a source one after the other, and tells whether there have been any. A mistake in
the syntax ends them. -/
def runSource (ev : Evaluator) (manner : Manner) : (fuel : Nat) → Source → (any : Bool) → Command Bool
  | 0, _, any => return any
  | fuel + 1, source, any => do
    let s ← get
    let started :=
      { source with
        nextDocument := s.nextDocument, documents := [], warnings := []
        aliases := if s.settings.contains "expand_aliases" then s.aliases else []
        alternatives := s.settings.contains "extglob" }
    let report (messages : List (Nat × Text)) : Command Unit := do
      for (line, message) in messages do Command.complainAt line manner.kind.toList message
    match Reader.completeCommand started with
    | .error e =>
      if manner.shown then showText source.rest
      report e.messages
      Command.setStatus e.status
      return true
    | .ok (found, after) =>
      if manner.shown then showText (source.rest.take (source.rest.length - after.rest.length))
      modify fun s =>
        { s with
          nextDocument := after.nextDocument
          documents := after.documents ++ s.documents }
      report after.warnings
      match found with
      | none => return any
      | some script =>
        modify fun s => { s with line := after.place.number }
        let isLast := manner.position.last && (match after.next with
          | some .finish => true
          | _ => after.rest.all fun c => c = ' ' || c = '\t' || c = '\n')
        untilDiscard (ev.run script { manner.position with last := isLast })
        let isNothing := match script with
          | .nothing => true
          | _ => false
        runSource ev manner fuel after (any || !isNothing)

/-- Runs the commands in a text that begins in a line. -/
def runText (ev : Evaluator) (manner : Manner) (line : Nat) (text : Text) : Command Unit := do
  let _ ← runSource ev manner (text.length + 2) (Source.ofText (completed text) line) false

/-- Runs the commands in a text; the status is 0 if there are none. -/
def runCommands (ev : Evaluator) (manner : Manner) (line : Nat) (text : Text) : Command Unit := do
  let any ← runSource ev manner (text.length + 2) (Source.ofText (completed text) line) false
  if !any then Command.setStatus 0

/-- Runs work a level deeper, which shows where commands are shown. -/
def deeper {α : Type} (work : Command α) : Command α := do
  let level := (← get).level
  modify fun s => { s with level := level + 1 }
  ensuring work (modify fun s => { s with level })

/-- Runs the command for a signal or an event, in a line; the status stays as it was. -/
def runTrap (ev : Evaluator) (event : Nat) (kind : String) (line : Nat) : Command Unit := do
  let s ← get
  match s.traps.lookup event with
  | none | some [] => return
  | some action =>
    if s.trapping.contains event then return
    else
      modify fun s => { s with trapping := event :: s.trapping }
      deeper (ensuring (ev.runText ⟨kind ++ ": ", false, .plain⟩ line action) do
        modify fun now => { now with trapping := s.trapping, line := s.line, command := s.command })
      modify fun now => { now with status := s.status, pipeStatuses := s.pipeStatuses }

/-- Runs the commands for signals that have arrived, or ends the shell. -/
def receiveSignals (ev : Evaluator) : (fuel : Nat) → Command Unit
  | 0 => return
  | fuel + 1 => do
    let m := (← get).machine
    match m.pending.find? (·.1 = m.process) with
    | none => return
    | some (process, signal) =>
      modify fun s =>
        { s with machine := { s.machine with pending := s.machine.pending.erase (process, signal) } }
      match (← get).traps.lookup signal with
      | some _ =>
        if signal = SignalName.kill then throw (.halt (.killed signal))
        ev.runTrap signal "trap" 1
      | none =>
        if !(m.ignored.contains signal) && !SignalName.isHarmless signal then
          throw (if signal = SignalName.kill then .halt (.killed signal) else .killed signal)
      receiveSignals ev fuel

/-- Runs work as the whole of a shell; then the command for its end. -/
def runShell (ev : Evaluator) (work : Command Unit) : Command Nat := fun s =>
  let level := s.level
  let ending (s : Shell) : EStateM.Result Jump Shell Nat :=
    match s.traps.lookup 0 with
    | none | some [] => .ok s.status s
    | some action =>
      let status := s.status
      let started :=
        { s with
          traps := s.traps.filter (·.1 ≠ 0), command := none, level, calls := [], loops := 0 }
      match ev.runText ⟨"exit trap: ", false, .plain⟩ 1 action started with
      | .ok () s => .ok status s
      | .error (.halt halt) s => .error (.halt halt) s
      | .error .exit s => .ok s.status s
      | .error _ s => .ok status s
  match work s with
  | .ok () s => ending s
  | .error (.halt halt) s => .error (.halt halt) s
  | .error (.killed signal) s =>
    match ending s with
    | .ok _ s | .error _ s => .error (.halt (.killed signal)) s
  | .error _ s => ending s

/-- The commands for signals and events that a subshell keeps. -/
def keptTraps (s : Shell) : List (Nat × Text) :=
  s.traps.filter fun (event, action) =>
    (event ≠ 0 && event < Event.debug && action.isEmpty) ||
      (event = Event.failure && s.options.contains "errtrace") ||
      ((event = Event.debug || event = Event.back) && s.options.contains "functrace")

/-- The signals that a process ignores for which the command is empty. -/
def ignoredSignals (s : Shell) : List Nat :=
  (s.traps.filter fun (event, action) => action.isEmpty && 0 < event && event < Event.debug).map (·.1)

/-- Runs work as a process of its own. -/
def subshell (ev : Evaluator) (work : Command Unit) : Command Halt := do
  let halt ← Command.child do
    modify fun s =>
      { s with
        traps := keptTraps s
        outerTraps := if s.outerTraps.isEmpty then s.traps else s.outerTraps
        loops := 0
        isPiped := false
        jobTexts := []
        machine := { s.machine with ignored := ignoredSignals s ++ s.machine.ignored } }
    runShell ev work
  ev.receiveSignals 100
  return halt

/-- The file that is read if a text does nothing but read one. -/
def fileOf? (s : Shell) (commands : Text) : Option Word :=
  let source := { Source.ofText commands s.line with alternatives := s.settings.contains "extglob" }
  match Reader.completeCommand source with
  | .ok (some (.simple _ [] [] [.file (.number 0) .read word]), after) =>
    if after.rest.all fun c => c = ' ' || c = '\t' || c = '\n' then some word else none
  | _ => none

/-- All that has been written to a description of a pipe. -/
def pipeContent (s : Shell) (reading : Nat) : Text :=
  match s.machine.descriptions[reading]? with
  | some d => ByteText.ofBytes ((s.machine.readable d.stream 0).toOption.getD [])
  | none => []

mutual

/-- How the commands inside words are run; the fuel bounds how deep words stand inside each other. -/
def runnerAt (ev : Evaluator) : (fuel : Nat) → Runner
  | 0 => ⟨fun _ => return [], fun _ _ => return []⟩
  | fuel + 1 => ⟨ev.outputAt fuel, ev.processAt fuel⟩

/-- The output of commands that run as a process of their own. -/
def outputAt (ev : Evaluator) : (fuel : Nat) → Text → Command Text
  | fuel, commands => do
    let (reading, writing) ← Command.task Task.pipe
    let halt ← subshell ev do
      Command.task (Task.setDescriptor 1 writing)
      if !(← Command.hasSetting "inherit_errexit") then
        modify fun s => { s with options := s.options.filter (· ≠ "errexit") }
      match fileOf? (← get) commands, fuel with
      | some word, fuel + 1 =>
        let path ← Expansion.text (ev.runnerAt fuel) .atStart word.parts
        match ← Command.task (Task.readFile path) with
        | .ok text => let _ ← Command.task (Task.write 1 text)
        | .error e =>
          Command.complain (path ++ (": " ++ e.reason).toList)
          Command.setStatus 1
      | _, _ =>
        let s ← get
        deeper (ev.runText ⟨"command substitution: ", false, { Position.final with tested := s.tested }⟩
          s.line commands)
    modify fun s => { s with outputStatus := halt.status }
    return pipeContent (← get) reading

/-- The path of a pipe to commands. -/
def processAt (ev : Evaluator) : (fuel : Nat) → (reads : Bool) → Text → Command Text
  | _, reads, commands => do
    let (reading, writing) ← Command.task Task.pipe
    let used := (← get).machine.descriptors.map (·.1)
    let free := ((List.range 64).reverse.find? fun n => !used.contains n).getD 63
    let process := (← get).machine.nextProcess
    if reads then
      let _ ← subshell ev do
        Command.task (Task.setDescriptor 1 writing)
        deeper (ev.runText ⟨"process substitution: ", false, .final⟩ (← get).line commands)
      Command.task (Task.setDescriptor free reading)
    else Command.task (Task.setDescriptor free writing)
    let descriptors := (← get).machine.descriptors
    let reader : Option PipeReader :=
      if reads then none else some ⟨commands, reading, writing, descriptors⟩
    modify fun s => { s with lastJob := some process, processes := ⟨free, reader⟩ :: s.processes }
    return "/dev/fd/".toList ++ Number.decimal free

end

/-- How the commands inside words are run. -/
def runner (ev : Evaluator) : Runner := ev.runnerAt Expansion.wordDepth

/-- Lets commands read what has been written to a pipe. -/
def finishReader (ev : Evaluator) (reader : PipeReader) : Command Unit := do
  let _ ← subshell ev do
    modify fun s => { s with machine := { s.machine with descriptors := reader.descriptors } }
    Command.task (Task.setDescriptor 0 reader.reading)
    deeper (ev.runText ⟨"process substitution: ", false, .final⟩ (← get).line reader.commands)

/-- Closes the pipes of words, and lets commands read what has been written to them; commands that write to
the pipe of others come before these. -/
def finishProcesses (ev : Evaluator) (pipes : List ProcessPipe) : Command Unit := do
  for pipe in pipes do Command.task (Task.closeDescriptor pipe.descriptor)
  let readers := pipes.reverse.filterMap (·.reader)
  let (before, after) := readers.partition fun reader =>
    readers.any fun other => reader.descriptors.any (·.2 = other.writing)
  for reader in before.reverse do ev.finishReader reader
  for reader in after do ev.finishReader reader

/-- Runs a command with the pipes of its words. -/
def withProcesses (ev : Evaluator) (work : Command Unit) : Command Unit := do
  let outer := (← get).processes
  modify fun s => { s with processes := [] }
  ensuring work do
    let own := (← get).processes
    modify fun s => { s with processes := outer }
    let status := (← get).status
    ev.finishProcesses own
    Command.setStatus status

/-- What the lines that show commands begin with: the first character of a text is repeated for every
level. -/
def traceStart (ev : Evaluator) : Command Text := do
  let s ← get
  let text := (← Builtin.valueOf? "PS4").getD []
  let start ←
    if text.contains '$' || text.contains (Char.ofNat 0x60) then
      match Reader.wordOf text s.line .document with
      | .ok (word, _) => do
        modify fun s => { s with options := s.options.filter (· ≠ "xtrace") }
        let start ← Expansion.documentText ev.runner word.parts
        modify fun now =>
          { now with options := s.options, status := s.status, outputStatus := s.outputStatus }
        pure start
      | .error _ => pure text
    else pure text
  match start with
  | [] => return []
  | first :: rest => return List.replicate s.level first ++ rest

/-- Shows a command that runs. -/
def trace (ev : Evaluator) (text : Text) : Command Unit := do
  if ← Command.hasOption "xtrace" then
    let start ← ev.traceStart
    let descriptor := ((← Builtin.valueOf? "BASH_XTRACEFD").bind Builtin.integer?).getD 2
    let _ ← Command.task (Task.write descriptor.toNat (start ++ text ++ ['\n']))

/-- The text of a script, as it is shown again. -/
def scriptText (script : Script) : Command Text := do
  let s ← get
  return script.text fun n => s.documents.lookup n

/-- Keeps the text of a command that begins, and runs the command for that. -/
def starting (ev : Evaluator) (line : Nat) (text : Text) : Command Unit := do
  modify fun s => { s with line }
  if (← get).trapping.isEmpty then modify fun s => { s with commandText := text }
  if ((← get).traps.lookup Event.debug).isSome then
    ev.runTrap Event.debug "debug trap" line

/-- Ends the shell if a command has failed that it may not survive, and runs the command for failures. -/
def checkFailure (ev : Evaluator) (position : Position) : Command Unit := do
  if !position.tested && (← get).status ≠ 0 then
    if ((← get).traps.lookup Event.failure).isSome then
      ev.runTrap Event.failure "error trap" (← get).line
    if ← Command.hasOption "errexit" then throw .exit

end Evaluator

end KDispatch.Shell.Extended
