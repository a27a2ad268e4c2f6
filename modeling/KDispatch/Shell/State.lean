import KDispatch.Shell.Machine
import KDispatch.Shell.Number
import KDispatch.Shell.Syntax

/-!
The state of a shell: its machine, parameters, functions, options and traps, and how it reports mistakes.
A mistake in the shell itself ends it with status 2.
-/

namespace KDispatch.Shell

/-- How a command is left other than by coming to its end. -/
inductive Jump where
  /-- The process has ended. -/
  | halt (halt : Halt)
  /-- The shell ends with its status, after the command for its end. -/
  | exit
  /-- A mistake, which has been reported. -/
  | failure
  /-- Leaves loops. -/
  | leave (loops : Nat)
  /-- Goes on with the next round, after leaving inner loops. -/
  | again (loops : Nat)
  /-- Leaves a function or a file of commands. -/
  | back

structure Variable where
  value : Option Text
  exported : Bool
  readOnly : Bool

structure Shell where
  machine : Machine
  name : Text
  arguments : List Text
  bindings : List (String × Variable)
  functions : List (String × Script)
  /-- Texts that stand for words where a command begins. -/
  aliases : List (Text × Text)
  /-- The letters of the options that are set. -/
  options : List Char
  /-- The commands for signals, and for the end of the shell as number 0. -/
  traps : List (Nat × Text)
  status : Nat
  /-- The status of the last command inside the words of a command. -/
  outputStatus : Nat
  line : Nat
  /-- The builtin command that is running. -/
  command : Option Text
  loops : Nat
  /-- What the variables were that are local to the functions that run, for each of them. -/
  locals : List (List (String × Option Variable))
  /-- How many functions are running, each called by the one before. -/
  calls : Nat
  /-- The programs that have been found in the search path. -/
  found : List Text
  documents : List (Nat × Word)
  nextDocument : Nat
  /-- The process of the shell, of which subshells are parts. -/
  root : Nat
  lastJob : Option Nat
  /-- What the running builtin has written to standard output, in reverse. -/
  buffer : Text
  /-- The path of the working directory, which may lead through links. -/
  directory : Text
  /-- The place in the options that are gone through: the number of the next word, and how far the
  word before it has been read, unless it has been read to its end. -/
  optionPlace : Nat × Option Nat

/-- Work of a shell. -/
abbrev Command := EStateM Jump Shell

namespace Command

/-- Does work of a process. -/
def task {α : Type} (work : Task α) : Command α := fun s =>
  let machine := s.machine
  let s := { s with machine := Machine.blank }
  match work machine with
  | .ok value machine => .ok value { s with machine }
  | .error halt machine => .error (.halt halt) { s with machine }

def setStatus (status : Nat) : Command Unit := modify fun s => { s with status }

/-- Writes what the running builtin has written so far; `false` if that is refused. -/
def flush : Command Bool := do
  let text := (← get).buffer
  if text.isEmpty then return true
  modify fun s => { s with buffer := [] }
  return (← task (Task.write 1 text.reverse)).isOk

/-- Writes to the standard output of a builtin. -/
def print (text : Text) : Command Unit :=
  modify fun s => { s with buffer := text.reverse ++ s.buffer }

def printLine (text : Text) : Command Unit := print (text ++ ['\n'])

/-- The words that messages begin with. -/
def messageStart (s : Shell) : Text :=
  let place := s.name ++ ": ".toList ++ Number.decimal s.line ++ ": ".toList
  match s.command with
  | some command => place ++ command ++ ": ".toList
  | none => place

/-- Reports something. -/
def warn (message : Text) : Command Unit := do
  let s ← get
  let _ ← task (Task.write 2 (messageStart s ++ message ++ ['\n']))

/-- Reports a mistake and ends the shell, unless the mistake is a builtin's own. -/
def fail {α : Type} (message : Text) : Command α := do
  warn message
  setStatus 2
  throw .failure

/-- Ends the shell. -/
def exit {α : Type} (status : Nat) : Command α := do
  setStatus status
  throw .exit

def hasOption (letter : Char) : Command Bool := return (← get).options.contains letter

/-- The value of a variable. -/
def variableValue? (name : String) : Command (Option Text) := do
  return ((← get).bindings.lookup name).bind (·.value)

/-- Puts an entry in place of the one with its key. -/
def replaceEntry {α : Type} (key : String) (value : α) : List (String × α) → List (String × α)
  | [] => [(key, value)]
  | (k, v) :: rest => if k = key then (key, value) :: rest else (k, v) :: replaceEntry key value rest

/-- The place to begin with in the options when it is set by hand. -/
def placeOfIndex (value : Option Text) : Nat × Option Nat :=
  match Number.integer? (some 10) (value.getD []) with
  | some n => (max n.toNat 1, none)
  | none => (1, none)

/-- Puts a variable in place. -/
def putVariable (name : String) (entry : Variable) : Command Unit :=
  modify fun s =>
    { s with
      bindings := replaceEntry name entry s.bindings
      optionPlace := if name = "OPTIND" then placeOfIndex entry.value else s.optionPlace
      found := if name = "PATH" then [] else s.found }

/-- Sets a variable; one that is exported stays so. -/
def setVariable (name : String) (value : Option Text) (exports : Bool) : Command Unit := do
  if !isName name.toList then fail (name.toList ++ ": bad variable name".toList)
  let s ← get
  let old := (s.bindings.lookup name).getD ⟨none, false, false⟩
  if old.readOnly then fail (name.toList ++ ": is read only".toList)
  putVariable name ⟨value, old.exported || exports || s.options.contains 'a', false⟩

/-- Takes a variable away. -/
def unsetVariable (name : String) : Command Unit := do
  if !isName name.toList then fail (name.toList ++ ": bad variable name".toList)
  match (← get).bindings.lookup name with
  | none => return
  | some old =>
    if old.readOnly then fail (name.toList ++ ": is read only".toList)
    modify fun s =>
      { s with
        bindings := s.bindings.filter (·.1 ≠ name)
        found := if name = "PATH" then [] else s.found }

/-- Sets attributes of a variable. -/
def markVariable (name : String) (exports readOnly : Bool) : Command Unit := do
  let old := ((← get).bindings.lookup name).getD ⟨none, false, false⟩
  putVariable name ⟨old.value, old.exported || exports, old.readOnly || readOnly⟩

/-- Keeps a variable to be restored at the end of the innermost scope. -/
def saveVariable (name : String) : Command Unit :=
  modify fun s =>
    match s.locals with
    | [] => s
    | scope :: scopes => { s with locals := ((name, s.bindings.lookup name) :: scope) :: scopes }

/-- Begins a scope of local variables. -/
def openScope : Command Unit := modify fun s => { s with locals := [] :: s.locals }

/-- Ends a scope; its variables become what they were. -/
def closeScope : Command Unit :=
  modify fun s =>
    match s.locals with
    | [] => s
    | scope :: scopes =>
      let restored := scope.foldl
        (fun bindings (name, old) =>
          match old with
          | some entry => replaceEntry name entry bindings
          | none => bindings.filter (·.1 ≠ name)) s.bindings
      { s with locals := scopes, bindings := restored }

/-- The variables that programs are given. -/
def environment : Command (List (String × Text)) := do
  return (← get).bindings.filterMap fun (name, entry) =>
    match entry with
    | ⟨some value, true, _⟩ => some (name, value)
    | _ => none

/-- The characters that separate fields. -/
def separators : Command Text := do
  return (← variableValue? "IFS").getD [' ', '\t', '\n']

/-- The character that joins the parameters when they become one text. -/
def joiner : Command Text := do
  return match ← variableValue? "IFS" with
    | some ifs => ifs.take 1
    | none => [' ']

/-- The letters of the options that are set, as the parameter `-` tells them. -/
def optionLetters : Command Text := do
  let set := (← get).options
  return "ubaCEVvxsnmiIfe".toList.filter set.contains

/-- The value of a parameter other than all parameters together. -/
def parameter? (name : String) : Command (Option Text) := do
  let s ← get
  match name with
  | "?" => return some (Number.decimal s.status)
  | "#" => return some (Number.decimal s.arguments.length)
  | "$" => return some (Number.decimal s.root)
  | "!" => return s.lastJob.map fun n => Number.decimal n
  | "-" => return some (← optionLetters)
  | _ =>
    match Number.integer? (some 10) name.toList with
    | some n => return if n = 0 then some s.name else s.arguments[n.toNat - 1]?
    | none => variableValue? name

/-- Runs a command as a process of its own; only the machine keeps what it does. -/
def child (body : Command Nat) : Command Halt := fun s =>
  let machine := s.machine
  let outer := { s with machine := Machine.blank }
  let task : Task Nat := fun machine =>
    match body { outer with machine, buffer := [], lastJob := outer.lastJob } with
    | .ok status s => .ok status s.machine
    | .error (.halt halt) s => .error halt s.machine
    | .error _ s => .ok s.status s.machine
  match Task.child task machine with
  | .ok halt machine => .ok halt { outer with machine }
  | .error halt machine => .error (.halt halt) { outer with machine }

/-- A number that a builtin is given. -/
def number (text : Text) : Command Nat := do
  match Number.integer? (some 10) text with
  | some n => if n < 0 ∨ 2147483647 < n then illegal else return n.toNat
  | none => illegal
where
  illegal {α : Type} : Command α := fail ("Illegal number: ".toList ++ text)

end Command

end KDispatch.Shell
