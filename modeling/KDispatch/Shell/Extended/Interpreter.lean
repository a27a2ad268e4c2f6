import KDispatch.Shell.Extended.Calling
import KDispatch.Shell.Extended.Condition

/-!
Running scripts of the extended shell. Every function is a single step on an `Evaluator`; the steps are
tied together by `Evaluator.ofDepth`.
-/

namespace KDispatch.Shell.Extended.Evaluator

/-- The builtin among words that declares something, behind those that run other builtins. -/
def declaring : List Text → Option Text
  | [] => none
  | name :: rest =>
    if name = "command".toList || name = "builtin".toList then declaring rest
    else if declarationCommands.contains (String.ofList name) then some name
    else none

/-- The letters of the options among words. -/
def givenLetters (words : List Text) : List Char :=
  words.flatMap fun
    | '-' :: letters => letters
    | _ => []

/-- Sets a list that a declaration is given, and shows that. -/
def declareList (ev : Evaluator) (before : List Text) (a : Assignment) (elements : List Element) :
    Command Unit := do
  let letters := givenLetters before
  let isKeyed := letters.contains 'A' || (← Assigning.isTable a.name)
  let items ← Assigning.items ev.runner isKeyed elements
  ev.trace (Printing.target { a with subscript := none } ++ Assigning.shownItems items)
  match declaring before with
  | none => pure ()
  | some name =>
    let marks := name = "export".toList || name = "readonly".toList
    let request : Builtin.Request :=
      { on := letters.filter fun c => "aAilu".toList.contains c, off := []
        isGlobal := marks || letters.contains 'g', inherits := letters.contains 'I' }
    let isLocal := name = "local".toList
    if isLocal && !Builtin.inFunction (← get) then pure ()
    else
      let outer := (← get).command
      modify fun s => { s with command := some name }
      let result ← (Builtin.declareVariable ev.runner request a.name.toList).run
      modify fun s => { s with command := outer }
      match result with
      | .ok () => pure ()
      | .error status =>
        Command.setStatus status
        throw .discard
  if !(← Assigning.putList a.name a.appends items) then
    Command.setStatus 1
    throw .discard

/-- The word that an assignment becomes as an argument. -/
def assignmentWord (ev : Evaluator) (a : Assignment) (value : Word) : Command Text := do
  let subscript ← match a.subscript with
    | some word => do
      pure ('[' :: (← Expansion.text ev.runner .never word.parts) ++ [']'])
    | none => pure []
  let text ← Expansion.text ev.runner .inValue value.parts
  return a.name.toList ++ subscript ++ (if a.appends then "+=" else "=").toList ++ text

/-- Whether the words name a command that declares variables. -/
def declares : List Argument → Bool
  | .word word :: _ => declarationCommands.contains (String.ofList word.source)
  | _ => false

/-- The fields that arguments become; those of a declaration that look like assignments are not split. -/
def arguments (ev : Evaluator) (declares : Bool) : (done : List Text) → List Argument →
    Command (List Text)
  | done, [] => return done
  | done, argument :: more => do
    let fields ← match argument with
      | .word word =>
        if declares && word.isAssignment then Expansion.assignmentTexts ev.runner word
        else Expansion.fields ev.runner word
      | .assignment a =>
        match a.value with
        | .text value => do pure [← ev.assignmentWord a value]
        | .list _ elements => do
          ev.declareList done a elements
          pure [a.name.toList]
    ev.arguments declares (done ++ fields) more

/-- Carries assignments out that stand alone; one that fails gives up the complete command. -/
def assignAll (ev : Evaluator) : List Assignment → Command Unit
  | [] => return
  | a :: more => do
    if ← Assigning.assign ev.runner ev.trace a then ev.assignAll more
    else
      Command.setStatus 1
      throw .discard

/-- Adds a variable to the innermost scope. -/
def bindHere (name : String) (entry : Variable) : Command Unit :=
  modify fun s =>
    match s.scopes with
    | [] => s
    | scope :: scopes =>
      let bindings := Command.replaceEntry name entry scope.bindings
      Command.noticed name entry.content.value? { s with scopes := { scope with bindings } :: scopes }

/-- Carries the assignments before a command out, in a scope of its own. -/
def bindAll (ev : Evaluator) : List Assignment → Command Unit
  | [] => return
  | a :: more => do
    let name ← Command.target a.name
    let entry := (← Command.binding? name).getD .unset
    let text ← match a.value with
      | .text word => Expansion.text ev.runner .inValue word.parts
      | .list source _ => pure ('(' :: source ++ [')'])
    ev.trace (Printing.target a ++ Assigning.shownValue text)
    if entry.attributes.readOnly then Command.refuseChange name
    else
      let old := if a.appends then entry.content.value? else none
      let value ← Assigning.taken entry.attributes a.appends old text
      bindHere name
        ⟨.single (some (Variable.recased entry.attributes value)),
          { entry.attributes with exported := true }⟩
    ev.bindAll more

/-- Takes the variables out of the innermost scope. -/
def takeBindings : Command (List (String × Variable)) :=
  modifyGet fun s =>
    match s.scopes with
    | [] => ([], s)
    | scope :: scopes => (scope.bindings, { s with scopes := { scope with bindings := [] } :: scopes })

/-- Runs a command whose words have been expanded. -/
def runFields (ev : Evaluator) (hasScope : Bool) (redirections : List Redirection) (name : Text)
    (rest : List Text) (position : Position) : Command Unit := do
  let failed := Command.setStatus 1
  match (← get).functions.lookup name with
  | some f =>
    let bindings ← if hasScope then takeBindings else pure []
    ev.redirected redirections failed (ev.callFunction name f bindings rest position)
  | none =>
    if Builtin.isBuiltin (← get) name then
      let work := ev.runBuiltin name rest position
      if name = "exec".toList then
        if ← ev.redirectOrUndo redirections then work else failed
      else ev.redirected redirections failed work
    else ev.redirected redirections failed (ev.runProgram (name :: rest) position)

/-- Runs a simple command. -/
def simple (ev : Evaluator) (line : Nat) (assignments : List Assignment) (given : List Argument)
    (redirections : List Redirection) (position : Position) : Command Unit := do
  modify fun s => { s with line }
  ev.starting line (← scriptText (.simple line assignments given redirections))
  modify fun s => { s with outputStatus := 0 }
  match ← ev.arguments (declares given) [] given with
  | [] =>
    ev.assignAll assignments
    modify fun s => { s with lastWord := [] }
    ev.redirected redirections (Command.setStatus 1) (modify fun s => { s with status := s.outputStatus })
  | name :: rest =>
    let showIt : Command Unit :=
      ev.trace ([' '].intercalate ((name :: rest).map Quoting.traced))
    if assignments.isEmpty then
      showIt
      ev.runFields false redirections name rest position
    else
      Command.inScope ⟨false, []⟩ do
        ev.bindAll assignments
        showIt
        ev.runFields true redirections name rest position
    modify fun s => { s with lastWord := (name :: rest).getLast?.getD [] }

/-- Repeats a body while a condition succeeds or fails as given. -/
def repeatWhile (ev : Evaluator) (success : Bool) (condition body : Script) (position : Position) :
    (fuel : Nat) → (status : Nat) → Command Nat
  | 0, status => return status
  | fuel + 1, status => do
    match ← round (ev.run condition .condition) with
    | .left n => if 1 < n then throw (.leave (n - 1)) else return (← get).status
    | .again n =>
      if 1 < n then throw (.again (n - 1))
      else ev.repeatWhile success condition body position fuel status
    | .completed =>
      if ((← get).status = 0) ≠ success then return status
      else
        match ← round (ev.run body position.inner) with
        | .left n => if 1 < n then throw (.leave (n - 1)) else return (← get).status
        | .again n =>
          if 1 < n then throw (.again (n - 1))
          else ev.repeatWhile success condition body position fuel (← get).status
        | .completed => ev.repeatWhile success condition body position fuel (← get).status

/-- Sets the variable of a loop; one that refers to another variable is made to refer to the text. -/
def putLoopVariable (name : String) (text : Text) : Command Bool := do
  match Command.visible? (← get) name with
  | some entry =>
    if entry.attributes.reference then
      Command.putVariable name { entry with content := .single (some text) }
      return true
    else Assigning.put name none false text
  | none => Assigning.put name none false text

/-- Runs a body for each of some texts; `head` is shown before every round. -/
def repeatFor (ev : Evaluator) (line : Nat) (head : Text) (name : String) (body : Script)
    (position : Position) : List Text → (status : Nat) → Command Nat
  | [], status => return status
  | text :: texts, _ => do
    ev.starting line head
    ev.trace head
    if !(← putLoopVariable name text) then return 1
    else
      match ← round (ev.run body position.inner) with
      | .left n => if 1 < n then throw (.leave (n - 1)) else return (← get).status
      | .again n =>
        if 1 < n then throw (.again (n - 1))
        else ev.repeatFor line head name body position texts (← get).status
      | .completed => ev.repeatFor line head name body position texts (← get).status

/-- The value of the expression of an arithmetic command, which is shown; a mistake has been reported. -/
def arithmetic (ev : Evaluator) (line : Nat) (expression : Word) : Command (Option Int) := do
  ev.starting line ("((".toList ++ expression.source ++ "))".toList)
  let outer := (← get).command
  modify fun s => { s with command := some ['(', '('] }
  ensuring (do
    let text ← Expansion.documentText ev.runner expression.parts
    ev.trace ("(( ".toList ++ text ++ " ))".toList)
    Arithmetic.evaluate? text) (modify fun s => { s with command := outer })

/-- Counts a loop by expressions: runs a body as long as a condition holds. -/
def repeatCounting (ev : Evaluator) (line : Nat) (condition step : Word) (body : Script)
    (position : Position) : (fuel : Nat) → (status : Nat) → Command Nat
  | 0, status => return status
  | fuel + 1, status => do
    let value ← if condition.parts.isEmpty then pure (some 1) else ev.arithmetic line condition
    match value with
    | none => return 1
    | some 0 => return status
    | some _ =>
      let next (status : Nat) : Command Nat := do
        let value ← if step.parts.isEmpty then pure (some 1) else ev.arithmetic line step
        match value with
        | none => return 1
        | some _ => ev.repeatCounting line condition step body position fuel status
      match ← round (ev.run body position.inner) with
      | .left n => if 1 < n then throw (.leave (n - 1)) else return (← get).status
      | .again n => if 1 < n then throw (.again (n - 1)) else next (← get).status
      | .completed => next (← get).status

/-- Counts a loop while it runs. -/
def inLoop (work : Command Nat) : Command Unit := do
  modify fun s => { s with loops := s.loops + 1 }
  let status ← ensuring work (modify fun s => { s with loops := s.loops - 1 })
  Command.setStatus status

/-- Whether any of the patterns matches. -/
def matchesAny (ev : Evaluator) (text : Text) : List Word → Command Bool
  | [] => return false
  | word :: words => do
    let pattern ← Expansion.pattern ev.runner (← Expansion.patternMode) word.parts
    if pattern.isMatch text then return true else ev.matchesAny text words

/-- Runs the branches of a selection; `chosen` tells that the next one runs without a test. Tells whether
any of them has run. -/
def choose (ev : Evaluator) (text : Text) (position : Position) :
    (chosen : Bool) → List (List Word × Script × BranchEnd) → Command Bool
  | _, [] => return false
  | chosen, (patterns, body, ending) :: more => do
    let isChosen ← if chosen then pure true else ev.matchesAny text patterns
    if !isChosen then ev.choose text position false more
    else
      match body with
      | .nothing => Command.setStatus 0
      | body => ev.run body (if ending = .leaves then position else position.inner)
      match ending with
      | .leaves => return true
      | .falls =>
        let _ ← ev.choose text position true more
        return true
      | .tests =>
        let _ ← ev.choose text position false more
        return true

/-- Whether a script is a simple command or a group. -/
def isPlain : Script → Bool
  | .simple _ _ _ _ | .group _ => true
  | _ => false

/-- Runs the commands of a pipeline in turn, each of them as a process of its own. -/
def runPipeline (ev : Evaluator) (position : Position) (input : Option Nat) :
    List Script → Command (List Finished)
  | [] => return []
  | [last] => do
    let read : Command Unit := match input with
      | some number => Command.task (Task.setDescriptor 0 number)
      | none => return
    if ← Command.hasSetting "lastpipe" then
      let before := (← get).machine.descriptors
      read
      ensuring (ev.run last position.inner) (restore [0] before)
      return [⟨(← get).machine.process, .exit (← get).status, []⟩]
    else
      let process := (← get).machine.nextProcess
      let halt ← subshell ev do
        read
        modify fun s => { s with isPiped := isPlain last }
        ev.run last position.own
      return [⟨process, halt, ← scriptText last⟩]
  | script :: more => do
    let (reading, writing) ← Command.task Task.pipe
    let process := (← get).machine.nextProcess
    let halt ← subshell ev do
      match input with
      | some number => Command.task (Task.setDescriptor 0 number)
      | none => pure ()
      Command.task (Task.setDescriptor 1 writing)
      modify fun s => { s with isPiped := isPlain script }
      ev.run script position.own
    let finished : Finished := ⟨process, halt, ← scriptText script⟩
    return finished :: (← ev.runPipeline position (some reading) more)

/-- Runs a script as a process that goes on beside the shell. -/
def inBackground (ev : Evaluator) (body : Script) : Command Unit := do
  let before := (← get).machine
  let process := before.nextProcess
  let sizes := (before.stdout.size, before.stderr.size)
  let halt ← subshell ev do
    match ← Command.task (Task.openFile "/dev/null".toList .read) with
    | .ok description => Command.task (Task.setDescriptor 0 description)
    | .error _ => pure ()
    ev.run body .final
  let (stdout, stderr) ← Command.task (Task.takeOutput sizes.1 sizes.2)
  let text ← scriptText body
  modify fun s =>
    let job : Job := ⟨process, s.machine.process, halt, stdout, stderr, false⟩
    { s with
      lastJob := some process
      jobTexts := s.jobTexts ++ [(process, text)]
      machine := { s.machine with jobs := s.machine.jobs ++ [job] } }
  Command.setStatus 0

/-- Runs a script beside the shell with pipes from it and to it, whose descriptors a variable tells. -/
def besideShell (ev : Evaluator) (name : String) (body : Script) : Command Unit := do
  let (reading, writing) ← Command.task Task.pipe
  let (_, output) ← Command.task Task.pipe
  let process := (← get).machine.nextProcess
  let held ← freeDescriptor 64
  Command.task (Task.setDescriptor held writing)
  ev.inBackground (.redirected (.group body)
    [.duplicate (.number 1) true ⟨[], [.text false (Number.decimal held)]⟩])
  Command.task (Task.closeDescriptor held)
  let first ← freeDescriptor 62
  Command.task (Task.setDescriptor first reading)
  let second ← freeDescriptor 60
  Command.task (Task.setDescriptor second output)
  Command.putVariable name
    ⟨.indexed true [(0, Number.decimal first), (1, Number.decimal second)], .none⟩
  let _ ← Command.store (name ++ "_PID") none (Number.decimal process)

/-- A text up to a column, filled with tabs and blanks. -/
def indentation : (fuel : Nat) → (column target : Nat) → Text
  | 0, _, _ => []
  | fuel + 1, column, target =>
    if target ≤ column then []
    else if column / 8 < target / 8 then '\t' :: indentation fuel (column + 8 - column % 8) target
    else ' ' :: indentation fuel (column + 1) target

/-- The numbered choices of a menu, in columns. -/
def menuText (width : Nat) (texts : List Text) : Text :=
  let count := texts.length
  let digits (n : Nat) : Nat := (toString n).length
  let longest := texts.foldl (fun n text => max n text.length) 0
  let cell := longest + digits count + 4
  let columns := max (width / cell) 1
  let rows := (count + columns - 1) / columns
  let columns := (count + rows - 1) / rows
  let (rows, _) := if rows = 1 then (columns, 1) else (rows, columns)
  let row (r : Nat) : Text :=
    let places := (List.range count).filter fun n => n % rows = r
    (places.zipIdx.map fun (n, column) =>
      let numberWidth := digits (if column = 0 then rows else count)
      let number := Number.decimal (n + 1 : Nat)
      let text := List.replicate (numberWidth - number.length) ' ' ++ number ++ ')' :: ' ' ::
        texts.getD n []
      let isLast := count ≤ n + rows
      let start := column * cell
      if isLast then text
      else text ++ indentation cell (start + text.length) (start + cell)).flatten ++ ['\n']
  (List.range rows).flatMap row

/-- Lets a choice be made from a menu, again and again. -/
def repeatMenu (ev : Evaluator) (name : String) (texts : List Text) (body : Script)
    (position : Position) : (fuel : Nat) → (shows : Bool) → (status : Nat) → Command Nat
  | 0, _, status => return status
  | fuel + 1, shows, status => do
    let tell (text : Text) : Command Unit := do let _ ← Command.task (Task.write 2 text)
    let width := ((← Builtin.valueOf? "COLUMNS").bind Builtin.integer?).getD 80
    if shows then tell (menuText width.toNat texts)
    tell ((← Builtin.valueOf? "PS3").getD "#? ".toList)
    ev.runBuiltin "read".toList ["REPLY".toList] .plain
    if (← get).status ≠ 0 then
      let _ ← Command.task (Task.write 1 ['\n'])
      return 1
    else
      let reply := ((← Builtin.valueOf? "REPLY").getD [])
      if reply.isEmpty then ev.repeatMenu name texts body position fuel true status
      else
        let choice := (Builtin.integer? reply).bind fun n =>
          if 0 < n then texts[n.toNat - 1]? else none
        if !(← putLoopVariable name (choice.getD [])) then return 1
        else
          match ← round (ev.run body position.inner) with
          | .left n => if 1 < n then throw (.leave (n - 1)) else return (← get).status
          | .again n =>
            if 1 < n then throw (.again (n - 1))
            else ev.repeatMenu name texts body position fuel false (← get).status
          | .completed => ev.repeatMenu name texts body position fuel false (← get).status

/-- The texts that a loop goes through. -/
def loopTexts (ev : Evaluator) (words : Option (List Word)) : Command (List Text) := do
  match words with
  | none => return (← get).arguments
  | some words => return (← words.mapM (Expansion.fields ev.runner)).flatten

/-- The first line of a loop over words. -/
def loopHead (keyword : String) (name : Word) (words : Option (List Word)) : Text :=
  keyword.toList ++ ' ' :: name.source ++ " in ".toList ++
    (match words with
      | none => "\"$@\"".toList
      | some words => Printing.words " " words)

/-- Does the work of a loop with a variable, if it can have that name. -/
def withLoopName (name : Word) (work : String → Command Unit) : Command Unit := do
  if isName name.source then work (String.ofList name.source)
  else
    Command.complain (Builtin.invalidName name.source)
    Command.setStatus 1

/-- Defines a function. -/
def define (line : Nat) (name : Text) (body : Script) : Command Unit := do
  let s ← get
  if name.any fun c => c = '$' || c = '"' || c = '\'' || c = '\\' || c.toNat = 0x60 then
    Command.complain (Builtin.invalidName name)
    Command.setStatus 1
  else
    let old := s.functions.lookup name
    if (old.map (·.readOnly)).getD false then
      Command.complain (name ++ ": readonly function".toList)
      Command.setStatus 1
    else
      let file := match s.calls with
        | call :: _ => call.file
        | [] => if s.isScript then s.name else "environment".toList
      let exported := (old.map (·.exported)).getD false || s.options.contains "allexport"
      let f : Function := { body, file, line, exported, readOnly := false }
      modify fun s => { s with functions := s.functions.filter (·.1 ≠ name) ++ [(name, f)] }
      Command.setStatus 0

/-- Shows how much time a command has taken. -/
def showTimes (portable : Bool) : Command Unit := do
  let text := if portable then "real 0.00\nuser 0.00\nsys 0.00\n"
    else "\nreal\t0m0.000s\nuser\t0m0.000s\nsys\t0m0.000s\n"
  let _ ← Command.task (Task.write 2 text.toList)

/-- Ends the step of a command that has a status of its own. -/
def finishCommand (ev : Evaluator) (position : Position) : Command Unit := do
  modify fun s => { s with pipeStatuses := [s.status] }
  ev.receiveSignals 100
  ev.checkFailure position

/-- Runs a script. -/
def evaluate (ev : Evaluator) (script : Script) (position : Position) : Command Unit := do
  if ← Command.hasOption "noexec" then return
  ev.receiveSignals 100
  modify fun s => { s with tested := position.tested }
  match script with
  | .nothing => return
  | .simple line assignments arguments redirections =>
    ev.withProcesses (ev.simple line assignments arguments redirections position)
    ev.finishCommand position
  | .redirected body redirections =>
    let failed : Command Unit := do
      Command.setStatus 1
      ev.finishCommand position
    ev.withProcesses (ev.redirected redirections failed (ev.run body position.inner))
  | .group body => ev.run body position
  | .subshell line body =>
    modify fun s => { s with line }
    let process := (← get).machine.nextProcess
    let halt ← subshell ev do
      modify fun s => { s with inParentheses := true }
      ev.run body position.own
    waitFor halt process (← scriptText script)
    ev.finishCommand position
  | .pipeline commands =>
    let all ← ev.runPipeline position none commands
    let last := (all.getLast?.map (·.halt)).getD (.exit 0)
    let counting ← if ← Command.hasOption "pipefail" then
        pure (((all.map (·.halt)).reverse.find? (·.status ≠ 0)).getD last)
      else pure last
    reportKilled all counting
    modify fun s => { s with status := counting.status, pipeStatuses := all.map (·.halt.status) }
    ev.checkFailure position
  | .negation body =>
    ev.run body .condition
    modify fun s => { s with status := if s.status = 0 then 1 else 0 }
  | .timed portable body =>
    ev.run body position.inner
    showTimes portable
  | .background body => ev.inBackground body
  | .sequence _ first second =>
    ev.run first position.inner
    ev.run second position
  | .both first second =>
    ev.run first .condition
    if (← get).status = 0 then ev.run second position
  | .either first second =>
    ev.run first .condition
    if (← get).status ≠ 0 then ev.run second position
  | .choice condition whenTrue whenFalse =>
    ev.run condition .condition
    if (← get).status = 0 then ev.run whenTrue position
    else
      match whenFalse with
      | none => Command.setStatus 0
      | some whenFalse => ev.run whenFalse position
  | .loop success condition body =>
    inLoop (ev.repeatWhile success condition body position manyRounds 0)
  | .each line name words body =>
    modify fun s => { s with line }
    ev.withProcesses <| withLoopName name fun target => do
      let texts ← ev.loopTexts words
      inLoop (ev.repeatFor line (loopHead "for" name words) target body position texts 0)
  | .menu line name words body =>
    modify fun s => { s with line }
    ev.withProcesses <| withLoopName name fun target => do
      let head := loopHead "select" name words
      ev.starting line head
      ev.trace head
      let texts ← ev.loopTexts words
      if texts.isEmpty then Command.setStatus 0
      else inLoop (ev.repeatMenu target texts body position manyRounds true 0)
  | .count line start condition step body =>
    modify fun s => { s with line }
    let value ← if start.parts.isEmpty then pure (some 1) else ev.arithmetic line start
    match value with
    | none => Command.setStatus 1
    | some _ => inLoop (ev.repeatCounting line condition step body position manyRounds 0)
  | .select line word branches =>
    let head := "case ".toList ++ word.source ++ " in".toList
    ev.starting line (head ++ [' '])
    ev.trace head
    let text ← Expansion.text ev.runner .atStart word.parts
    if !(← ev.choose text position false branches) then Command.setStatus 0
  | .arithmetic line expression =>
    modify fun s => { s with line }
    match ← ev.arithmetic line expression with
    | some n => Command.setStatus (if n = 0 then 1 else 0)
    | none => Command.setStatus 1
    ev.finishCommand position
  | .condition line test =>
    modify fun s => { s with line }
    ev.starting line (← scriptText script)
    let outer := (← get).command
    modify fun s => { s with command := some ['[', '['] }
    let trace (text : Text) : Command Unit := ev.trace ("[[ ".toList ++ text ++ " ]]".toList)
    let status ← ensuring (Condition.evaluate ev.runner trace test false)
      (modify fun s => { s with command := outer })
    Command.setStatus status
    ev.finishCommand position
  | .function line name body => define line name body
  | .companion line name body =>
    modify fun s => { s with line }
    ev.besideShell name body

/-- The evaluator whose scripts may be nested to a depth. -/
def ofDepth (execute : (path : Text) → (words : List Text) → Task (Except SystemError Nat)) :
    (depth : Nat) → Evaluator
  | 0 => ⟨fun _ _ => Command.fail "nesting too deep".toList, execute⟩
  | depth + 1 =>
    ⟨fun script position s => (ofDepth execute depth).evaluate script position s, execute⟩

end KDispatch.Shell.Extended.Evaluator
