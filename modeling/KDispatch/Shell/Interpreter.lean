import KDispatch.Shell.Builtin.Processes

/-!
Running scripts. What runs nested scripts and programs is handed to each function as an `Evaluator`, so
that every function is a single step; the steps are tied together by `Evaluator.ofDepth`, elsewhere.
-/

namespace KDispatch.Shell

/-- Where a script stands. -/
structure Position where
  /-- Whether its status is tested, so that a failure does not end the shell. -/
  tested : Bool
  /-- Whether nothing comes after it in its process. -/
  last : Bool

namespace Position

def plain : Position := ⟨false, false⟩

def condition : Position := ⟨true, false⟩

def final : Position := ⟨false, true⟩

/-- The position of a script that something comes after. -/
def inner (position : Position) : Position := { position with last := false }

/-- The position of a script with a process of its own. -/
def own (position : Position) : Position := { position with last := true }

end Position

/-- What a step of the work is built on. -/
structure Evaluator where
  /-- Runs a script. -/
  run : Script → Position → Command Unit
  /-- Puts a program in place of the running process; gives the status that it ends with. -/
  execute : (path : Text) → (words : List Text) → Task (Except SystemError Nat)

/-- A bound for the nesting of words. -/
def wordDepth : Nat := 1000000

/-- A bound for the rounds of a loop. -/
def manyRounds : Nat := 1000000000000

namespace Evaluator

/-- The end of a command that can be left by a jump. -/
inductive Round where
  | completed
  | left (loops : Nat)
  | again (loops : Nat)

/-- Runs a part of a loop. -/
def round (work : Command Unit) : Command Round := fun s =>
  match work s with
  | .ok () s => .ok .completed s
  | .error (.leave n) s => .ok (.left n) s
  | .error (.again n) s => .ok (.again n) s
  | .error jump s => .error jump s

/-- Runs work and then something more, whatever way the work is left. -/
def ensuring {α : Type} (work : Command α) (more : Command Unit) : Command α := fun s =>
  match work s with
  | .ok value s =>
    match more s with
    | .ok () s => .ok value s
    | .error jump s => .error jump s
  | .error jump s =>
    match more s with
    | .ok () s => .error jump s
    | .error _ s => .error jump s

/-- Runs work that may be left by `return`, which sets the status. -/
def untilBack (work : Command Nat) : Command Nat := fun s =>
  match work s with
  | .error .back s => .ok s.status s
  | result => result

/-- What a source gives: a command and the source after it. -/
def nextCommand (source : Source) : Except SyntaxError (Option Script × Source) :=
  Reader.completeCommand source

/-- The first lines of a text. -/
def firstLines : (count : Nat) → Text → Text
  | 0, _ => []
  | _ + 1, [] => []
  | count + 1, '\n' :: rest => '\n' :: firstLines count rest
  | count + 1, c :: rest => c :: firstLines (count + 1) rest

/-- Shows a text that has been read if the shell is to show what it reads. -/
def showText (text : Text) : Command Unit := do
  if ← Command.hasOption 'v' then
    let _ ← Command.task (Task.write 2 text)

/-- Runs the commands of a source one after the other, which may be shown as they are read; tells
whether there have been any. Nothing comes after the source if it is the last one. -/
def runSource (ev : Evaluator) (shown last : Bool) : (fuel : Nat) → Source → (any : Bool) →
    Command Bool
  | 0, _, any => return any
  | fuel + 1, source, any => do
    let s ← get
    match nextCommand
      { source with nextDocument := s.nextDocument, documents := [], aliases := s.aliases } with
    | .error e =>
      if shown then showText (firstLines (e.line + 1 - source.line) source.rest)
      modify fun s => { s with line := e.line }
      Command.fail ("Syntax error: ".toList ++ e.message.toList)
    | .ok (none, after) =>
      if shown then showText (source.rest.take (source.rest.length - after.rest.length))
      return any
    | .ok (some script, after) =>
      if shown then showText (source.rest.take (source.rest.length - after.rest.length))
      let source := after
      modify fun s =>
        { s with
          nextDocument := source.nextDocument
          documents := source.documents ++ s.documents }
      let isLast := last && (match after.next with
        | some .finish => true
        | _ => false)
      ev.run script ⟨false, isLast⟩
      let found := match script with
        | .nothing => false
        | _ => true
      runSource ev shown last fuel source (any || found)

/-- Runs the commands in a text. -/
def runText (ev : Evaluator) (shown last : Bool) (text : Text) : Command Unit := do
  let _ ← runSource ev shown last (text.length + 2) (Source.ofText text 1 0) false

/-- Runs the commands in a text; the status is 0 if there are none. -/
def runCommands (ev : Evaluator) (shown : Bool) (text : Text) : Command Nat := do
  let any ← runSource ev shown false (text.length + 2) (Source.ofText text 1 0) false
  let status := (← get).status
  return if any then status else 0

/-- Runs the commands for signals that have arrived, or ends the shell. -/
def receiveSignals (ev : Evaluator) : (fuel : Nat) → Command Unit
  | 0 => return
  | fuel + 1 => do
    let m := (← get).machine
    match m.pending.find? (·.1 = m.process) with
    | none => return
    | some (process, signal) =>
      modify fun s =>
        { s with machine := { s.machine with pending := s.machine.pending.erase (process, signal) } }
      match (← get).traps.lookup signal with
      | some action =>
        if signal = SignalName.kill then throw (.halt (.killed signal))
        if !action.isEmpty then
          let status := (← get).status
          runText ev false false action
          Command.setStatus status
      | none =>
        if !(m.ignored.contains signal) && !SignalName.isHarmless signal then
          throw (.halt (.killed signal))
      receiveSignals ev fuel

/-- Runs work as the whole of a shell; then the command for its end. -/
def runShell (ev : Evaluator) (work : Command Unit) : Command Nat := fun s =>
  let ending (s : Shell) : EStateM.Result Jump Shell Nat :=
    match s.traps.lookup 0 with
    | none | some [] => .ok s.status s
    | some action =>
      let status := s.status
      match runText ev false false action { s with traps := s.traps.filter (·.1 ≠ 0), command := none } with
      | .ok () s => .ok status s
      | .error (.halt halt) s => .error (.halt halt) s
      | .error .exit s | .error .failure s => .ok s.status s
      | .error _ s => .ok status s
  match work s with
  | .ok () s => ending s
  | .error (.halt halt) s => .error (.halt halt) s
  | .error _ s => ending s

/-- Runs work as a process of its own, in which no commands for signals are left. -/
def subshell (ev : Evaluator) (work : Command Unit) : Command Halt := do
  let outer := (← get).traps
  let halt ← Command.child do
    modify fun s =>
      { s with
        traps := outer.filter (·.2.isEmpty)
        machine := { s.machine with
          ignored := (outer.filter (·.2.isEmpty)).map (·.1) ++ s.machine.ignored } }
    runShell ev work
  receiveSignals ev 100
  return halt

/-- Sets the status to that of a process that has been waited for, and tells what has killed it. -/
def waitFor (halt : Halt) : Command Unit := do
  Builtin.reportKill halt
  Command.setStatus halt.status

/-- The output of a script that runs as a process of its own. -/
def output (ev : Evaluator) (script : Script) : Command Text := do
  let (reading, writing) ← Command.task Task.pipe
  let halt ← subshell ev do
    Command.task (Task.setDescriptor 1 writing)
    ev.run script .final
  Builtin.reportKill halt
  modify fun s => { s with outputStatus := halt.status }
  let m := (← get).machine
  match m.descriptions[reading]? with
  | some d => return ByteText.ofBytes ((m.readable d.stream 0).toOption.getD [])
  | none => return []

/-- The fields of a word. -/
def fieldsOf (ev : Evaluator) (word : Word) : Command (List Text) :=
  Expansion.fields ev.output wordDepth word

/-- The text of a word that is not split. -/
def textOf (ev : Evaluator) (tilde : Tilde) (word : Word) : Command Text :=
  Expansion.text ev.output wordDepth tilde word

/-- The fields of words. -/
def fieldsOfAll (ev : Evaluator) : List Word → Command (List Text)
  | [] => return []
  | word :: words => do
    let first ← ev.fieldsOf word
    return first ++ (← ev.fieldsOfAll words)

/-- A redirection whose words have been expanded. -/
inductive Redirect where
  | file (descriptor : Nat) (mode : OpenMode) (path : Text)
  | duplicate (descriptor source : Nat)
  | close (descriptor : Nat)
  | text (descriptor : Nat) (content : Text)

/-- Expands the words of redirections. -/
def expandRedirections (ev : Evaluator) : List Redirection → Command (List Redirect)
  | [] => return []
  | redirection :: more => do
    let first : Redirect ←
      match redirection with
      | .file descriptor mode word => do
        pure (Redirect.file descriptor mode (← ev.textOf .atStart word))
      | .document descriptor number => do
        let word := ((← get).documents.lookup number).getD []
        pure (Redirect.text descriptor (← ev.textOf .never word))
      | .duplicate descriptor word => do
        let text ← ev.textOf .atStart word
        match text with
        | ['-'] => pure (Redirect.close descriptor)
        | [c] =>
          if c.isDigit then pure (Redirect.duplicate descriptor (c.toNat - '0'.toNat))
          else Command.fail "Syntax error: Bad fd number".toList
        | _ => Command.fail "Syntax error: Bad fd number".toList
    return first :: (← ev.expandRedirections more)

/-- Why a file cannot be opened, as the shell words it. -/
def openReason (e : SystemError) (missing : String) : String :=
  match e with
  | .notFound | .notADirectory => missing
  | e => e.reason

/-- Opens what a redirection leads to; `false` if it cannot be, which has been reported then. -/
def redirect : Redirect → Command Bool
  | .close descriptor => do
    Command.task (Task.closeDescriptor descriptor)
    return true
  | .duplicate descriptor source => do
    match (← get).machine.description? source with
    | some number =>
      Command.task (Task.setDescriptor descriptor number)
      return true
    | none =>
      if descriptor ≠ 2 then
        Command.warn
          (Number.decimal source ++ ": ".toList ++ SystemError.badDescriptor.reason.toList)
      return false
  | .text descriptor content => do
    let (reading, writing) ← Command.task Task.pipe
    let _ ← Command.task (Task.writeTo writing content)
    Command.task (Task.setDescriptor descriptor reading)
    return true
  | .file descriptor mode path => do
    let refuse (verb : String) (reason : String) : Command Bool := do
      Command.warn
        (("cannot " ++ verb ++ " ").toList ++ path ++ (": " ++ reason).toList)
      return false
    let opening : Task.Opening := match mode with
      | .read => .read
      | .readWrite => .readWrite
      | .append => .append
      | .write | .overwrite => .write
    let verb := if mode = .read then "open" else "create"
    let files := (← get).machine.files
    let exists_ := match files.openToRead (Task.path path) with
      | .ok location => (files.content? location).isSome
      | .error _ => false
    if mode = .write && exists_ && (← Command.hasOption 'C') then
      refuse verb SystemError.alreadyExists.reason
    else
      match ← Command.task (Task.openFile path opening) with
      | .ok number =>
        Command.task (Task.setDescriptor descriptor number)
        return true
      | .error e =>
        refuse verb (openReason e (if mode = .read then "No such file" else "Directory nonexistent"))

/-- Opens redirections in turn, up to the first that fails. -/
def redirectAll : List Redirect → Command Bool
  | [] => return true
  | first :: more => do
    if ← redirect first then redirectAll more else return false

/-- The descriptors of the running process. -/
def descriptors : Command (List (Nat × Nat)) := return (← get).machine.descriptors

/-- The descriptor that a redirection changes. -/
def Redirect.descriptor : Redirect → Nat
  | .close descriptor | .duplicate descriptor _ | .text descriptor _ | .file descriptor _ _ => descriptor

/-- Makes the descriptors of redirections lead again where they led before. -/
def restoreDescriptors (redirects : List Redirect) (before : List (Nat × Nat)) : Command Unit :=
  modify fun s =>
    let isTouched (entry : Nat × Nat) : Bool := redirects.any (·.descriptor = entry.1)
    let others := s.machine.descriptors.filter (!isTouched ·)
    { s with machine := { s.machine with descriptors := before.filter isTouched ++ others } }

/-- Does work with redirections, which are undone after it. -/
def redirected (ev : Evaluator) (redirections : List Redirection) (failed : Command Unit)
    (work : Command Unit) : Command Unit := do
  if redirections.isEmpty then work
  else
    let redirects ← ev.expandRedirections redirections
    let before ← descriptors
    ensuring (do if ← redirectAll redirects then work else failed)
      (restoreDescriptors redirects before)

/-- What the name of a command stands for. -/
inductive Target where
  | builtin (name : String)
  | function (body : Script)
  | program

/-- Finds out what a name stands for. -/
def target (name : Text) (functions : Bool) : Command Target := do
  let key := String.ofList name
  let known := (← get).functions.lookup key
  match if functions then known else none with
  | some body => return .function body
  | none => return if Builtin.isBuiltin key then .builtin key else .program

/-- The words of a command whose name is known. -/
structure CommandLine where
  target : Target
  /-- The fields so far, from the name on. -/
  fields : List Text
  /-- The fields before the name. -/
  skipped : List Text
  words : List Word
  /-- Whether mistakes in special builtins end the shell. -/
  strict : Bool

/-- Expands words up to the first field, if there is none yet. -/
def needField (ev : Evaluator) : List Text → List Word → Command (List Text × List Word)
  | [], word :: words => do
    let fields ← ev.fieldsOf word
    ev.needField fields words
  | fields, words => return (fields, words)

/-- The fields after the options of `command`, unless it has others than `p` or nothing after it. -/
def afterOptions (ev : Evaluator) : (fuel : Nat) → List Text → List Word → (skipped : List Text) →
    Command (Option (List Text × List Word × List Text) × List Text × List Word)
  | 0, fields, words, _ => return (none, fields, words)
  | fuel + 1, fields, words, skipped => do
    let (fields, words) ← ev.needField fields words
    match fields with
    | [] => return (none, skipped, words)
    | first :: rest =>
      if first = ['-', '-'] then
        let (rest, words) ← ev.needField rest words
        if rest.isEmpty then return (none, skipped ++ first :: rest, words)
        else return (some (rest, words, skipped ++ [first]), [], [])
      else
        match first with
        | '-' :: 'p' :: letters =>
          if letters.all (· = 'p') then
            ev.afterOptions fuel rest words (skipped ++ [first])
          else return (none, skipped ++ fields, words)
        | '-' :: _ :: _ => return (none, skipped ++ fields, words)
        | _ => return (some (fields, words, skipped), [], [])

/-- Finds the command that fields begin with, behind `command` if that stands before it. -/
def commandLine (ev : Evaluator) : (fuel : Nat) → (first : Bool) → List Text → List Word →
    (skipped : List Text) → Command CommandLine
  | 0, _, fields, words, skipped => return ⟨.program, fields, skipped, words, false⟩
  | fuel + 1, first, fields, words, skipped => do
    let name := fields.headD []
    match ← target name first with
    | .builtin "command" =>
      let (found, fields, words) ← ev.afterOptions (fuel + 1) (fields.drop 1) words [name]
      match found with
      | some (fields, words, more) => ev.commandLine fuel false fields words (skipped ++ more)
      | none => return ⟨.builtin "command", fields, skipped, words, false⟩
    | found => return ⟨found, fields, skipped, words, first⟩

/-- Expands the words after the name of a command; assignments that a builtin makes are not split. -/
def arguments (ev : Evaluator) (assigns : Bool) : List Word → Command (List Text)
  | [] => return []
  | word :: words => do
    let first ←
      if assigns && (Reader.assignment? word).isSome then do pure [← ev.textOf .afterEquals word]
      else ev.fieldsOf word
    return first ++ (← ev.arguments assigns words)

/-- Whether a builtin makes assignments of its arguments. -/
def makesAssignments : Target → Bool
  | .builtin name => ["export", "readonly", "local", "alias"].contains name
  | _ => false

/-- Carries out the assignments before a command; gives their words. -/
def assignAll (ev : Evaluator) (isLocal exports : Bool) : List (String × Word) →
    Command (List Text)
  | [] => return []
  | (name, word) :: more => do
    let value ← ev.textOf .inValue word
    if isLocal then Command.saveVariable name
    Command.setVariable name (some value) (isLocal || exports)
    return (name.toList ++ '=' :: value) :: (← ev.assignAll isLocal exports more)

/-- Shows a command before it runs. -/
def trace (ev : Evaluator) (errors : Option Nat) (words : List Text) : Command Unit := do
  if ← Command.hasOption 'x' then
    let text := (← Command.variableValue? "PS4").getD []
    let start ←
      if text.contains '$' || text.contains (Char.ofNat 0x60) then do
        let reader : Reader Word :=
          Reader.text (Inner.ofDepth (2 * text.length + 2)).nested .document
        match reader (Source.ofText text 1 0) with
        | .ok (word, _) =>
          let options := (← get).options
          modify fun s => { s with options := options.filter (· ≠ 'x') }
          let start ← ev.textOf .never word
          modify fun s => { s with options }
          pure start
        | .error _ => pure text
      else pure text
    match errors with
    | some number =>
      let _ ← Command.task (Task.writeTo number (start ++ [' '].intercalate words ++ ['\n']))
    | none => return

/-- Runs a builtin command; its mistakes end the shell if it is `strict`. -/
def runBuiltin (name : String) (strict : Bool) (work : Command Nat) : Command Unit := do
  let outer := (← get).command
  modify fun s => { s with command := some name.toList, buffer := [] }
  let finish : Command Unit := do
    if !(← Command.flush) then
      Command.warn (name ++ ": I/O error").toList
      modify fun s => { s with status := s.status ||| 1 }
    modify fun s => { s with command := outer }
  fun s =>
    match work s with
    | .ok status s => finish { s with status }
    | .error .failure s =>
      match finish s with
      | .ok () s => if strict then .error .failure s else .ok () s
      | .error jump s => .error jump s
    | .error (.halt halt) s => .error (.halt halt) s
    | .error jump s =>
      match finish s with
      | .ok () s => .error jump s
      | .error _ s => .error jump s

/-- How many functions can run at a time, each called by the one before. -/
def maximalCalls : Nat := 1000

/-- Calls a function. -/
def callFunction (ev : Evaluator) (body : Script) (arguments : List Text) (position : Position) :
    Command Unit := do
  let outer ← get
  if outer.calls ≥ maximalCalls then
    Command.fail "Maximum function recursion depth (1000) reached".toList
  let saved := (outer.arguments, outer.optionPlace, outer.loops, outer.calls)
  modify fun s =>
    { s with arguments, optionPlace := (1, none), loops := 0, calls := s.calls + 1 }
  let called : Command Nat := do
    ev.run body position.inner
    return (← get).status
  let status ← ensuring (untilBack called) do
    let (arguments, optionPlace, loops, calls) := saved
    modify fun s => { s with arguments, optionPlace, loops, calls }
  Command.setStatus status

/-- Programs that a name may stand for; a name with a slash is a path. -/
def candidates (files : FileSystem) (path name : Text) : List Text :=
  if name.contains '/' then [name]
  else
    ((Builtin.searchPath path).map (Builtin.below · name)).dropWhile fun candidate =>
      match files.openToRead (Task.path candidate) with
      | .ok location => (files.content? location).isNone
      | .error _ => true

/-- Puts the first program that can be run in place of the process; one without a known form is run as
a script. -/
def executeFirst (ev : Evaluator) (arguments : List Text) (e : SystemError) :
    List Text → Task (Except SystemError Nat)
  | [] => return .error e
  | path :: paths => do
    match ← ev.execute path arguments with
    | .ok status => return .ok status
    | .error .execFormat =>
      ev.execute "/bin/sh".toList ("/bin/sh".toList :: path :: arguments.drop 1)
    | .error .notFound | .error .notADirectory => ev.executeFirst arguments e paths
    | .error e => ev.executeFirst arguments e paths

/-- Puts a program in place of the shell. -/
def becomeProgram (ev : Evaluator) (words : List Text) : Command Unit := do
  let name := words.headD []
  let s ← get
  let environment ← Command.environment
  let ignored := (s.traps.filter (·.2.isEmpty)).map (·.1) ++ s.machine.ignored
  let paths := candidates s.machine.files (← Builtin.path) name
  modify fun s => { s with machine := { s.machine with environment, ignored } }
  match ← Command.task (ev.executeFirst words .notFound paths) with
  | .ok status => throw (.halt (.exit status))
  | .error e =>
    Command.warn (name ++ (": " ++ openReason e "not found").toList)
    Command.exit (match e with
      | .notFound | .notADirectory | .nameTooLong => 127
      | _ => 126)

/-- Runs a program and waits for it. -/
def runProgram (ev : Evaluator) (words : List Text) : Command Unit := do
  let name := words.headD []
  let files := (← get).machine.files
  if (candidates files (← Builtin.path) name).isEmpty then
    Command.warn (name ++ ": not found".toList)
    Command.setStatus 127
  else
    Builtin.remember name
    let halt ← Command.child do
      becomeProgram ev words
      return 0
    waitFor halt
    receiveSignals ev 100

/-- The file that a name given to `.` stands for. -/
def commandFile (name : Text) : Command Text := do
  if name.contains '/' then return name
  else
    match Builtin.program? (← get).machine.files (← Builtin.path) name with
    | some path => return path
    | none => Command.fail (name ++ ": not found".toList)

/-- Runs the commands in a file. -/
def runFile (ev : Evaluator) (words : List Text) : Command Nat := do
  match ← Builtin.withoutOptions words with
  | [] => return 0
  | name :: _ =>
    let path ← commandFile name
    match ← Command.task (Task.readFile path) with
    | .error .isADirectory => return 0
    | .error e =>
      Command.fail
        ("cannot open ".toList ++ path ++ (": " ++ openReason e "No such file").toList)
    | .ok text =>
      modify fun s => { s with command := some path }
      untilBack (ev.runCommands true text)

/-- A number of loops that a builtin is given. -/
def loopCount : List Text → Command Nat
  | [] => return 1
  | word :: _ => do
    let n ← Command.number word
    if n = 0 then Command.fail ("Illegal number: ".toList ++ word) else return n

/-- Leaves loops, or goes on with the next round of one. -/
def jumpOut (words : List Text) (jump : Nat → Jump) : Command Nat := do
  let count ← loopCount words
  let loops := (← get).loops
  if loops = 0 then return 0
  else
    Command.setStatus 0
    throw (jump (min count loops))

/-- Tells what names stand for. -/
def describeAll : List Text → Command Nat
  | [] => return 0
  | name :: names => do
    let status ← Builtin.describe (keywords.contains (String.ofList name)) name
    let more ← describeAll names
    return status ||| more

/-- Looks commands up; with the option `V` it tells what they are. -/
def lookUp (words : List Text) : Command Nat := do
  let (found, words) ← Builtin.options "pvV" (words.length + 1) words
  match found.find? (·.1 ≠ 'p'), words with
  | some ('V', _), name :: _ =>
    Builtin.describe (keywords.contains (String.ofList name)) name
  | some _, name :: _ =>
    if keywords.contains (String.ofList name) then
      Command.printLine name
      return 0
    else if let some text := (← get).aliases.lookup name then
      Command.printLine ("alias ".toList ++ name ++ '=' :: Builtin.singleQuoted text)
      return 0
    else
      match ← Builtin.find? name with
      | some path =>
        Command.printLine path
        return 0
      | none => return 127
  | _, _ => return 0

/-- What a builtin does. -/
def builtinWork (ev : Evaluator) (name : String) (words : List Text) : Command Nat := do
  match name with
  | "eval" =>
    ev.runCommands false ([' '].intercalate words)
  | "." => ev.runFile words
  | "break" => jumpOut words .leave
  | "continue" => jumpOut words .again
  | "exit" =>
    match words with
    | [] => Command.exit (← get).status
    | word :: _ =>
      let n ← Command.number word
      Command.exit (n % 256)
  | "return" =>
    match words with
    | [] => throw .back
    | word :: _ =>
      let n ← Command.number word
      Command.setStatus n
      throw .back
  | "exec" =>
    let words := if words.head? = some ['-', '-'] then words.drop 1 else words
    if !words.isEmpty then ev.becomeProgram words
    return 0
  | "command" => lookUp words
  | "type" => describeAll words
  | _ =>
    match Builtin.plain? name with
    | some work => work words
    | none => return 0

/-- Runs a simple command. -/
def simple (ev : Evaluator) (line : Nat) (assignments : List (String × Word)) (words : List Word)
    (redirections : List Redirection) (position : Position) : Command Unit := do
  modify fun s => { s with line, outputStatus := 0 }
  let (first, rest) ← ev.needField [] words
  let errors := (← get).machine.description? 2
  let before ← descriptors
  if first.isEmpty then
    let redirects ← ev.expandRedirections redirections
    ensuring (do
      if ← redirectAll redirects then
        let assigned ← ev.assignAll false false assignments
        if !assigned.isEmpty then ev.trace errors assigned
        modify fun s => { s with status := s.outputStatus }
      else Command.setStatus 2) (restoreDescriptors redirects before)
  else
    let call ← ev.commandLine 100 true first rest []
    let more ← ev.arguments (makesAssignments call.target) call.words
    let fields := call.fields ++ more
    let special := call.strict && (match call.target with
      | .builtin name => Builtin.isSpecial name
      | _ => false)
    let isExec := match call.target with
      | .builtin name => name = "exec"
      | _ => false
    let redirects ← ev.expandRedirections redirections
    let keepsOpen := isExec && fields.length = 1
    if !special then Command.openScope
    ensuring (do
      if ← redirectAll redirects then
        let assigned ← ev.assignAll (!special) (isExec && 1 < fields.length) assignments
        ev.trace errors (assigned ++ call.skipped ++ fields)
        match call.target with
        | .builtin name => runBuiltin name special (ev.builtinWork name (fields.drop 1))
        | .function body => ev.callFunction body (fields.drop 1) position
        | .program =>
          if position.last && (← get).traps.all (·.2.isEmpty) then ev.becomeProgram fields
          else ev.runProgram fields
        if !keepsOpen then restoreDescriptors redirects before
      else
        restoreDescriptors redirects before
        Command.setStatus 2
        if special then throw .failure) do
      if !special then Command.closeScope
      if !keepsOpen then restoreDescriptors redirects before

/-- Repeats a body while a condition succeeds or fails as given. -/
def repeatWhile (ev : Evaluator) (success : Bool) (condition body : Script) (position : Position) :
    (fuel : Nat) → (status : Nat) → Command Nat
  | 0, status => return status
  | fuel + 1, status => do
    match ← round (ev.run condition .condition) with
    | .left n => if 1 < n then throw (.leave (n - 1)) else return status
    | .again n =>
      if 1 < n then throw (.again (n - 1))
      else ev.repeatWhile success condition body position fuel status
    | .completed =>
      if ((← get).status = 0) ≠ success then return status
      else
        match ← round (ev.run body position.inner) with
        | .left n => if 1 < n then throw (.leave (n - 1)) else return (← get).status
        | .again n =>
          if 1 < n then throw (.again (n - 1))
          else ev.repeatWhile success condition body position fuel (← get).status
        | .completed => ev.repeatWhile success condition body position fuel (← get).status

/-- Runs a body for each of some texts. -/
def repeatFor (ev : Evaluator) (name : String) (body : Script) (position : Position) :
    List Text → (status : Nat) → Command Nat
  | [], status => return status
  | text :: texts, _ => do
    Command.setVariable name (some text) false
    match ← round (ev.run body position.inner) with
    | .left n => if 1 < n then throw (.leave (n - 1)) else return (← get).status
    | .again n =>
      if 1 < n then throw (.again (n - 1))
      else ev.repeatFor name body position texts (← get).status
    | .completed => ev.repeatFor name body position texts (← get).status

/-- Counts a loop while it runs. -/
def inLoop (work : Command Nat) : Command Unit := do
  modify fun s => { s with loops := s.loops + 1 }
  let status ← ensuring work (modify fun s => { s with loops := s.loops - 1 })
  Command.setStatus status

/-- Whether any of the patterns matches. -/
def matchesAny (ev : Evaluator) (text : Text) : List Word → Command Bool
  | [] => return false
  | word :: words => do
    let pattern ← Expansion.pattern ev.output wordDepth word
    if Pattern.isMatch pattern text then return true else ev.matchesAny text words

/-- Runs the first branch with a pattern that matches. -/
def choose (ev : Evaluator) (text : Text) (position : Position) :
    List (List Word × Script) → Command Unit
  | [] => Command.setStatus 0
  | (patterns, body) :: more => do
    if ← ev.matchesAny text patterns then
      match body with
      | .nothing => Command.setStatus 0
      | body => ev.run body position
    else ev.choose text position more

/-- Keeps the programs of a pipeline in mind that are named by plain words. -/
def rememberAll : List Script → Command Unit
  | [] => return
  | .simple _ _ (word :: _) _ :: more => do
    match Word.plain? word with
    | some name =>
      let isProgram := match ← target name true with
        | .program => true
        | _ => false
      if isName name && isProgram then
        if (Builtin.program? (← get).machine.files (← Builtin.path) name).isSome then
          Builtin.remember name
    | none => pure ()
    rememberAll more
  | _ :: more => rememberAll more

/-- Runs the commands of a pipeline in turn, each of them as a process of its own. -/
def runPipeline (ev : Evaluator) (position : Position) (input : Option Nat) : List Script → Command Unit
  | [] => return
  | [last] => do
    let halt ← subshell ev do
      match input with
      | some number => Command.task (Task.setDescriptor 0 number)
      | none => pure ()
      ev.run last position.own
    waitFor halt
  | script :: more => do
    let (reading, writing) ← Command.task Task.pipe
    let halt ← subshell ev do
      match input with
      | some number => Command.task (Task.setDescriptor 0 number)
      | none => pure ()
      Command.task (Task.setDescriptor 1 writing)
      ev.run script position.own
    waitFor halt
    ev.runPipeline position (some reading) more

/-- Does the work of a subshell with its redirections. -/
def redirectedSubshell (ev : Evaluator) (redirections : List Redirection) (work : Command Unit) :
    Command Unit := do
  let redirects ← ev.expandRedirections redirections
  if ← redirectAll redirects then work
  else
    Command.setStatus 2
    throw .failure

/-- Runs a script as a process that goes on beside the shell. -/
def inBackground (ev : Evaluator) (redirections : List Redirection) (body : Script) :
    Command Unit := do
  let before := (← get).machine
  let process := before.nextProcess
  let sizes := (before.stdout.size, before.stderr.size)
  let halt ← subshell ev do
    let _ ← redirect (.file 0 .read "/dev/null".toList)
    ev.redirectedSubshell redirections (ev.run body .final)
  let (stdout, stderr) ← Command.task (Task.takeOutput sizes.1 sizes.2)
  modify fun s =>
    let job : Job := ⟨process, s.machine.process, halt, stdout, stderr, false⟩
    { s with
      lastJob := some process
      machine := { s.machine with jobs := s.machine.jobs ++ [job] } }
  Command.setStatus 0

/-- Ends the shell if a command has failed that it may not survive. -/
def checkFailure (position : Position) : Command Unit := do
  if !position.tested && (← get).status ≠ 0 && (← Command.hasOption 'e') then throw .exit

/-- Runs a script. -/
def evaluate (ev : Evaluator) (script : Script) (position : Position) : Command Unit := do
  if ← Command.hasOption 'n' then return
  receiveSignals ev 100
  match script with
  | .nothing => return
  | .simple line assignments words redirections =>
    ev.simple line assignments words redirections position
    receiveSignals ev 100
    checkFailure position
  | .redirected line body redirections =>
    modify fun s => { s with line }
    ev.redirected redirections (Command.setStatus 2) (ev.run body position.inner)
  | .subshell line body redirections =>
    modify fun s => { s with line }
    if position.last && (← get).traps.all (·.2.isEmpty) then
      ev.redirectedSubshell redirections (ev.run body position)
    else
      let halt ← subshell ev (ev.redirectedSubshell redirections (ev.run body position.own))
      waitFor halt
    checkFailure position
  | .background line body redirections =>
    modify fun s => { s with line := if line = 0 then s.line else line }
    ev.inBackground redirections body
  | .pipeline commands =>
    rememberAll commands
    ev.runPipeline position none commands
    checkFailure position
  | .negation body =>
    ev.run body .condition
    modify fun s => { s with status := if s.status = 0 then 1 else 0 }
  | .sequence first second =>
    ev.run first position.inner
    ev.run second position
  | .both first second =>
    ev.run first .condition
    if (← get).status = 0 then ev.run second position
  | .either first second =>
    ev.run first .condition
    if (← get).status ≠ 0 then ev.run second position
  | .choice condition whenTrue whenFalse =>
    ev.run condition .condition
    if (← get).status = 0 then ev.run whenTrue position
    else
      match whenFalse with
      | .nothing => Command.setStatus 0
      | whenFalse => ev.run whenFalse position
  | .loop success condition body =>
    inLoop (ev.repeatWhile success condition body position manyRounds 0)
  | .each line name words body =>
    modify fun s => { s with line }
    let texts ← ev.fieldsOfAll words
    inLoop (ev.repeatFor name body position texts 0)
  | .select line word branches =>
    modify fun s => { s with line }
    let text ← ev.textOf .atStart word
    ev.choose text position branches
  | .function _ name body =>
    modify fun s => { s with functions := Command.replaceEntry name body s.functions }
    Command.setStatus 0

end Evaluator

end KDispatch.Shell
