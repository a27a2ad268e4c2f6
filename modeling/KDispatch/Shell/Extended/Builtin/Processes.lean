import KDispatch.Shell.Extended.Builtin.Settings

/-!
The builtins of the extended shell for signals and for processes that run beside it.
-/

namespace KDispatch.Shell.Extended

/-- The events that a shell can have commands for besides signals. -/
def Event.debug : Nat := 65

def Event.failure : Nat := 66

def Event.back : Nat := 67

namespace Builtin

/-- The name of a signal, without its usual beginning. -/
def signalName? (n : Nat) : Option Text :=
  if n = 16 then some "STKFLT".toList
  else if n = 32 || n = 33 then none
  else (SignalName.all[n]?).map String.toList

/-- The name of a signal or an event, as it is shown. -/
def eventName (n : Nat) : Text :=
  if n = 0 then "EXIT".toList
  else if n = Event.debug then "DEBUG".toList
  else if n = Event.failure then "ERR".toList
  else if n = Event.back then "RETURN".toList
  else "SIG".toList ++ (signalName? n).getD []

/-- The number of a signal that is given by its name or number. -/
def signalNumber? (text : Text) : Option Nat :=
  if !text.isEmpty && text.all Char.isDigit then
    let n := (Number.digits 10 text 0 0).1
    if n = 0 || (signalName? n).isSome then some n else none
  else
    let name := text.map Char.toUpper
    let short := if "SIG".toList.isPrefixOf name then name.drop 3 else name
    (List.range 65).find? fun n =>
      if n = 0 then name = "EXIT".toList else signalName? n = some short

/-- The number of a signal or an event. -/
def eventNumber? (text : Text) : Option Nat :=
  match String.ofList (text.map Char.toUpper) with
  | "DEBUG" => some Event.debug
  | "ERR" => some Event.failure
  | "RETURN" => some Event.back
  | _ => signalNumber? text

/-- Sends a signal to a process; `false` if there is none. -/
def send (process signal : Nat) : Command Bool := do
  let s ← get
  let m := s.machine
  let post : Command Unit :=
    modify fun s =>
      { s with machine := { s.machine with pending := s.machine.pending ++ [(process, signal)] } }
  if process = m.process then
    let action := s.traps.lookup signal
    if signal = 0 then return true
    else if signal ≠ SignalName.kill && (m.ignored.contains signal || action = some []) then
      return true
    else if signal ≠ SignalName.kill && action.isSome then
      post
      return true
    else if SignalName.isHarmless signal then return true
    else
      Command.setStatus 0
      throw (if signal = SignalName.kill then .halt (.killed signal) else .killed signal)
  else if m.parents.contains process then
    if signal ≠ 0 then post
    return true
  else if m.jobs.any fun job => job.process = process && !job.isOver then
    if signal ≠ 0 && !SignalName.isHarmless signal then
      modify fun s =>
        { s with
          machine :=
            { s.machine with
              jobs := s.machine.jobs.map fun job =>
                if job.process = process then
                  { job with halt := .killed signal, stdout := [], stderr := [] }
                else job } }
    return true
  else return false

/-- The jobs of the running shell. -/
def jobs : Command (List Job) := do
  let m := (← get).machine
  return m.jobs.filter (·.parent = m.process)

/-- The text of the command of a job. -/
def jobText (s : Shell) (job : Job) : Text := (s.jobTexts.lookup job.process).getD []

/-- The job that a word after a percent sign stands for: a number, the last one or the one before it, or
the beginning of a command. -/
def job? (word : Text) : Command (Option Job) := do
  let all ← jobs
  let s ← get
  let name := if word.head? = some '%' then word.drop 1 else word
  match name with
  | [] | ['+'] | ['%'] => return all.getLast?
  | ['-'] => return all[all.length - 2]?
  | '?' :: part => return all.find? fun job => containsText part (jobText s job)
  | name =>
    if name.all Char.isDigit then
      let n := (Number.digits 10 name 0 0).1
      return if n = 0 then none else all[n - 1]?
    else return all.find? fun job => name.isPrefixOf (jobText s job)
where
  containsText (part : Text) : Text → Bool
    | [] => part.isEmpty
    | c :: rest => part.isPrefixOf (c :: rest) || containsText part rest

/-- The names of all signals, five in a line. -/
def signalTable : Text :=
  let cells := ((List.range 65).drop 1).filterMap fun n =>
    (signalName? n).map fun name =>
      let digits := Number.decimal n
      List.replicate (2 - digits.length) ' ' ++ digits ++ ") SIG".toList ++ name
  let rec rows : List Text → (column : Nat) → Text
    | [], 0 => []
    | [], _ => ['\n']
    | cell :: rest, column =>
      if column = 4 then cell ++ '\n' :: rows rest 0 else cell ++ '\t' :: rows rest (column + 1)
  rows cells 0

def invalidSignal (word : Text) : Text := word ++ ": invalid signal specification".toList

/-- Tells the names or the numbers of signals. -/
def listSignals (words : List Text) : Work Nat := do
  if words.isEmpty then
    Command.print signalTable
    return 0
  else
    let mut status := 0
    for word in words do
      match integer? word with
      | some n =>
        let n := n.toNat
        let n := if 128 < n then n - 128 else n
        match if n = 0 then some "EXIT".toList else signalName? n with
        | some name => Command.printLine name
        | none =>
          Command.warn (invalidSignal word)
          status := 1
      | none =>
        match signalNumber? word with
        | some n => Command.printLine (Number.decimal n)
        | none =>
          Command.warn (invalidSignal word)
          status := 1
    return status

/-- What `kill` is given: the signal, if it is one, the word for it, whether signals are listed, and the
words after the options. -/
structure KillRequest where
  signal : Option Nat
  word : Text
  lists : Bool
  words : List Text

/-- Reads the words of `kill`. -/
def killRequest : (fuel : Nat) → (seen : Bool) → KillRequest → Work KillRequest
  | 0, _, request => return request
  | fuel + 1, seen, request => do
    let given (word : Text) (rest : List Text) : KillRequest :=
      { request with signal := signalNumber? word, word, words := rest }
    match request.words with
    | [] => return request
    | word :: rest =>
      match word with
      | ['-', 'l'] | ['-', 'L'] => killRequest fuel seen { request with lists := true, words := rest }
      | ['-', 's'] | ['-', 'n'] =>
        match rest with
        | name :: rest => killRequest fuel seen (given name rest)
        | [] => refuse (word ++ ": option requires an argument".toList)
      | ['-', '-'] => return { request with words := rest }
      | ['-', '?'] => misused
      | '-' :: 's' :: c :: name =>
        if c.isAlpha && !seen && (signalNumber? ('s' :: c :: name)).isNone then
          killRequest fuel seen (given (c :: name) rest)
        else if seen then return request
        else killRequest fuel true (given ('s' :: c :: name) rest)
      | '-' :: 'n' :: c :: digits =>
        if c.isDigit then killRequest fuel seen (given (c :: digits) rest)
        else if seen then return request
        else killRequest fuel true (given ('n' :: c :: digits) rest)
      | '-' :: name => if seen then return request else killRequest fuel true (given name rest)
      | _ => return request

/-- Sends a signal to a process or a job; `false` if there is none, which has been reported then. -/
def killOne (signal : Nat) (word : Text) : Command Bool := do
  match integer? word with
  | some n =>
    let process := n.natAbs
    if ← send process signal then return true
    else
      Command.warn ('(' :: Number.decimal n ++ ") - ".toList ++
        "No such process".toList)
      return false
  | none =>
    if word.head? = some '%' then
      match ← job? word with
      | some job =>
        let _ ← send job.process signal
        return true
      | none =>
        Command.warn (word ++ ": no such job".toList)
        return false
    else
      Command.warn (word ++ ": arguments must be process or job IDs".toList)
      return false

/-- Sends signals, or lists their names. -/
def kill (words : List Text) : Work Nat := do
  if words.isEmpty then misused
  let request ← killRequest (words.length + 1) false ⟨some 15, [], false, words⟩
  if request.lists then listSignals request.words
  else
    match request.signal with
    | none => refuse (invalidSignal request.word)
    | some signal =>
      if request.words.isEmpty then misused
      let sent ← (request.words.mapM (killOne signal) : Command (List Bool))
      return if sent.any id then 0 else 1

/-- Puts the command for a signal in place, in the order of the numbers. -/
def putTrap (signal : Nat) (action : Option Text) : Command Unit :=
  modify fun s =>
    let s := { s with outerTraps := [] }
    let others := s.traps.filter (·.1 ≠ signal)
    match action with
    | none => { s with traps := others }
    | some action =>
      { s with
        traps := others.filter (·.1 < signal) ++ (signal, action) :: others.filter (signal < ·.1) }

/-- Shows the commands for signals, or for some of them. -/
def showTraps (words : List Text) : Work Nat := do
  let s ← (get : Command Shell)
  let traps := if s.outerTraps.isEmpty then s.traps else s.outerTraps
  let tell (entry : Nat × Text) : Command Unit :=
    Command.printLine ("trap -- ".toList ++ Quoting.single entry.2 ++ ' ' :: eventName entry.1)
  if words.isEmpty then
    for entry in traps do tell entry
    return 0
  else
    let mut status := 0
    for word in words do
      match eventNumber? word with
      | some signal =>
        match traps.lookup signal with
        | some action => tell (signal, action)
        | none => pure ()
      | none =>
        Command.warn (invalidSignal word)
        status := 1
    return status

/-- Sets the commands for signals and events, or shows them. -/
def trap (words : List Text) : Work Nat := do
  let (found, words) ← options "lp" words
  if has found 'l' then
    Command.print signalTable
    return 0
  else if has found 'p' || words.isEmpty then showTraps words
  else
    match words with
    | [] => return 0
    | first :: rest =>
      let isNumber := !first.isEmpty && first.all Char.isDigit && (eventNumber? first).isSome
      let isAlone := rest.isEmpty && first ≠ ['-'] && (eventNumber? first).isSome
      let isReset := isNumber || isAlone
      if !isReset && rest.isEmpty then misused
      let action := if isReset || first = ['-'] then none else some first
      let mut status := 0
      for word in if isReset then words else rest do
        match eventNumber? word with
        | some signal => putTrap signal action
        | none =>
          Command.warn (invalidSignal word)
          status := 1
      return status

/-- How a job is doing. -/
def jobState (job : Job) : Text :=
  if !job.isOver then "Running".toList
  else
    match job.halt with
    | .exit 0 => "Done".toList
    | .exit status => "Exit ".toList ++ Number.decimal status
    | .killed signal => (SignalName.description signal).toList

/-- A line about a job. -/
def jobLine (s : Shell) (long : Bool) (count number : Nat) (job : Job) : Text :=
  let mark := if number = count then '+' else if number + 1 = count then '-' else ' '
  let start := '[' :: Number.decimal number ++ [']', mark, ' ']
  let process := if long then Number.decimal job.process ++ [' '] else [' ']
  start ++ process ++ padded 24 (jobState job) ++ jobText s job ++
    (if job.isOver then [] else " &".toList)

/-- Lists the jobs; those that are over are not listed again. -/
def listJobs (words : List Text) : Work Nat := do
  let (found, words) ← options "lpnrsx" words
  let s ← (get : Command Shell)
  let known ← (jobs : Command (List Job))
  let all := known.filter fun job => (s.jobTexts.lookup job.process).isSome
  let tell (job : Job) (number : Nat) : Command Unit :=
    if has found 'p' then Command.printLine (Number.decimal job.process)
    else Command.printLine (jobLine s (has found 'l') all.length number job)
  if words.isEmpty then
    for (job, number) in all.zipIdx 1 do
      if !(has found 'r' && job.isOver) && !has found 's' then tell job number
    modify fun s : Shell =>
      let jobs := s.machine.jobs.filter fun job =>
        !(job.isOver && job.parent = s.machine.process)
      { s with machine := { s.machine with jobs } }
    return 0
  else
    let mut status := 0
    for word in words do
      match ← (job? word : Command (Option Job)) with
      | some job =>
        tell job ((all.zipIdx 1).findSome? (fun (other, n) =>
          if other.process = job.process then some n else none) |>.getD 1)
      | none =>
        Command.warn (word ++ ": no such job".toList)
        status := 1
    return status

/-- Waits for jobs; the status is that of the last one. -/
def wait (words : List Text) : Work Nat := do
  let (found, words) ← options "fnp:" words
  let forget (chosen : Job → Bool) : Command Unit :=
    modify fun s =>
      let chosen := (s.machine.jobs.filter fun job => job.isOver && chosen job).map (·.process)
      { s with jobTexts := s.jobTexts.filter fun entry => !chosen.contains entry.1 }
  let keep (job : Job) : Command Unit := do
    forget (·.process = job.process)
    match argument? found 'p' with
    | some name => let _ ← Assigning.putNamed? name (Number.decimal job.process)
    | none => pure ()
  if words.isEmpty then
    let next := (← (jobs : Command (List Job))).find? (!·.isOver)
    (Command.task Task.passTime : Command Unit)
    if has found 'n' then
      match next with
      | some job =>
        keep job
        return job.halt.status
      | none => return 127
    else
      forget fun _ => true
      return 0
  else
    let mut status := 0
    for word in words do
      let isNumber := (word.headD ' ').isDigit
      if isNumber && (integer? word).isNone then refuse (marked word ++ ": not a pid or valid job spec".toList)
      else if isNumber then
        let process := ((integer? word).getD 0).toNat
        match (← (jobs : Command (List Job))).find? (·.process = process) with
        | some job =>
          (Command.task Task.passTime : Command Unit)
          keep job
          status := job.halt.status
        | none =>
          Command.warn ("pid ".toList ++ word ++ " is not a child of this shell".toList)
          status := 127
      else if word.head? = some '%' then
        match ← (job? word : Command (Option Job)) with
        | some job =>
          (Command.task Task.passTime : Command Unit)
          keep job
          status := job.halt.status
        | none =>
          Command.warn (word ++ ": no such job".toList)
          status := 127
      else
        Command.warn (marked word ++ ": not a pid or valid job spec".toList)
        status := 1
    return status

/-- There is no job control to go on with jobs. -/
def resume (words : List Text) : Work Nat := do
  let _ ← withoutOptions words
  refuse "no job control".toList

/-- Forgets jobs. -/
def disown (words : List Text) : Work Nat := do
  let (found, words) ← options "ahr" words
  let forget (processes : List Nat) : Command Unit :=
    modify fun s =>
      { s with jobTexts := s.jobTexts.filter fun entry => !processes.contains entry.1
               machine := { s.machine with
                 jobs := s.machine.jobs.map fun job =>
                   if processes.contains job.process then { job with parent := 0 } else job } }
  if words.isEmpty && (has found 'a' || has found 'r') then
    forget ((← (jobs : Command (List Job))).map (·.process))
    return 0
  else
    let mut status := 0
    for word in if words.isEmpty then [['%']] else words do
      let job ← match integer? word with
        | some n => do
          pure ((← (jobs : Command (List Job))).find? (·.process = n.toNat))
        | none => (job? word : Command (Option Job))
      match job with
      | some job => if has found 'h' then pure () else forget [job.process]
      | none =>
        Command.warn ((if words.isEmpty then "current".toList else word) ++ ": no such job".toList)
        status := 1
    return status

def suspend (words : List Text) : Work Nat := do
  let _ ← options "f" words
  refuse "cannot suspend: no job control".toList

end Builtin

end KDispatch.Shell.Extended
