import KDispatch.Shell.Machine
import KDispatch.Shell.Utility.Basic
import KDispatch.Shell.Utility.Records.Syntax
import KDispatch.Shell.Utility.Records.Table

/-!
The state of a program that runs: its variables and tables, the record at hand with its fields, and the
files and commands that it reads from and writes to.
-/

namespace KDispatch.Shell.Records

/-- How work is left other than by coming to its end. -/
inductive Jump where
  /-- The process has ended. -/
  | halt (halt : Halt)
  /-- The program goes on with its last rules, or ends. -/
  | exit
  | next
  | nextFile
  | leave
  | again
  | give (value : Value)

/-- What a parameter of a routine stands for. -/
inductive Slot where
  | value (value : Value)
  /-- The table with a number. -/
  | table (number : Nat)

/-- A file or command that is written to. -/
structure Output where
  name : Text
  isCommand : Bool
  /-- The description of a file. -/
  description : Nat
  /-- What has not been written yet, in reverse. -/
  held : Text

/-- A file or command that is read from. -/
structure Input where
  name : Text
  isCommand : Bool
  description : Nat
  /-- What has been read from it and not been used yet. -/
  held : Text
  /-- Whether there is nothing more to read. -/
  ended : Bool
  /-- How a command has come to its end. -/
  halt : Halt

structure State where
  machine : Machine
  /-- What the program is called in messages. -/
  name : Text
  routines : List Routine
  /-- For each routine, which of its parameters are tables. -/
  tableParameters : List (String × List Bool)
  globals : List (String × Value)
  /-- The numbers of the tables with names. -/
  tableNames : List (String × Nat)
  tables : Array Table
  /-- The parameters of the routine that runs. -/
  frame : List (String × Slot)
  record : Text
  /-- The fields, if the record has been split. -/
  fields : Array Value
  isSplit : Bool
  /-- Whether the record is what its fields make. -/
  isJoined : Bool
  /-- The outputs, with the one that has been used last first. -/
  outputs : List Output
  inputs : List Input
  /-- The file that records are read from. -/
  main : Option Input
  /-- The number of the next argument that may name a file. -/
  nextArgument : Nat
  /-- Whether an argument has named a file. -/
  hasFiles : Bool
  /-- The patterns with two tests that are between them. -/
  openRanges : List Nat
  /-- Expressions that have been read from texts. -/
  matchers : List (Text × Matcher)
  status : Nat
  /-- The seed of random numbers, and the number before the next one. -/
  seed : Value
  random : UInt64

abbrev Work := EStateM Jump State

namespace Work

/-- Does work of a process. -/
def task {α : Type} (work : Task α) : Work α := fun s =>
  let machine := s.machine
  let s := { s with machine := Machine.blank }
  match work machine with
  | .ok value machine => .ok value { s with machine }
  | .error halt machine => .error (.halt halt) { s with machine }

/-- The value of a variable of the whole program. -/
def global (name : String) : Work Value := return ((← get).globals.lookup name).getD .missing

def globalText (name : String) : Work Text := return (← global name).toText []

/-- The format of numbers inside texts. -/
def numberFormat : Work Text := globalText "CONVFMT"

/-- The text of a value. -/
def textOf (value : Value) : Work Text := do
  match value with
  | .number x => return numberText (← numberFormat) x
  | value => return value.toText []

def replaceEntry {α : Type} (key : String) (value : α) : List (String × α) → List (String × α)
  | [] => [(key, value)]
  | (k, v) :: rest => if k = key then (key, value) :: rest else (k, v) :: replaceEntry key value rest

def putGlobal (name : String) (value : Value) : Work Unit :=
  modify fun s => { s with globals := replaceEntry name value s.globals }

/-- Writes a message about a mistake. -/
def complain (message : Text) : Work Unit := do
  let name := (← get).name
  let _ ← task (Task.write 2 (name ++ ": ".toList ++ message ++ ['\n']))

end Work

open Work

/-- Writes what an output holds; commands run only when they are closed. -/
def Output.flush (o : Output) : Work Output := do
  if o.isCommand || o.held.isEmpty then return o
  else
    match ← task (Task.writeTo o.description o.held.reverse) with
    | .ok () => return { o with held := [] }
    | .error e =>
      complain ("close failed on file \"".toList ++ o.name ++ "\" (".toList ++ e.reason.toList ++ [')'])
      throw (.halt (.exit 2))

namespace Work

/-- Writes what all outputs to files hold. -/
def flushAll : Work Unit := do
  let outputs ← (← get).outputs.mapM fun o => o.flush
  modify fun s => { s with outputs }

end Work

/-- Runs the text of a command as a process. -/
def runCommand (execute : Text → List Text → Task (Except SystemError Nat)) (name command : Text)
    (prepare : Task Unit) : Task Halt :=
  Task.child do
    prepare
    match ← execute "/bin/sh".toList [name, "-c".toList, command] with
    | .ok status => return status
    | .error _ => return 127

/-- The status that a command leaves: signals are told by numbers beyond those of statuses. -/
def haltStatus : Halt → Nat
  | .exit n => n % 256
  | .killed signal => 256 + signal

/-- What runs programs. -/
abbrev Execution := Text → List Text → Task (Except SystemError Nat)

/-- Closes an output; gives the status of a command. -/
def Output.close (o : Output) (execute : Execution) : Work Nat := do
  if o.isCommand then
    let halt ← task do
      let (reading, writing) ← Task.pipe
      let _ ← Task.writeTo writing o.held.reverse
      runCommand execute "/bin/sh".toList o.name (Task.setDescriptor 0 reading)
    return haltStatus halt
  else
    let _ ← o.flush
    return 0

namespace Work

/-- Closes all outputs. -/
def closeAll (execute : Execution) : Work Unit := do
  let outputs := (← get).outputs
  modify fun s => { s with outputs := [] }
  for o in outputs do
    let _ ← o.close execute

/-- Reports a mistake of the running program and ends it. -/
def fault {α : Type} (execute : Execution) (message : Text) : Work α := do
  let file ← globalText "FILENAME"
  let number (name : String) : Work Text := do textOf (← global name)
  complain ("run time error: ".toList ++ message ++ "\n\tFILENAME=\"".toList ++ file ++
    "\" FNR=".toList ++ (← number "FNR") ++ " NR=".toList ++ (← number "NR"))
  closeAll execute
  throw (.halt (.exit 2))

/-- Reports that something cannot be done with a file and ends the program. -/
def refuse {α : Type} (execute : Execution) (message : Text) (e : SystemError) : Work α := do
  complain (message ++ " (".toList ++ e.reason.toList ++ [')'])
  closeAll execute
  throw (.halt (.exit 2))

/-- The expression that a text writes. -/
def matcher (execute : Execution) (text : Text) : Work Matcher := do
  match (← get).matchers.lookup text with
  | some m => return m
  | none =>
    match Matcher.ofText text with
    | .ok m =>
      modify fun s => { s with matchers := (text, m) :: s.matchers.take 50 }
      return m
    | .error reason => fault execute (Matcher.complaint text reason)

/-- The parts of a text between blanks. -/
def blankParts (text : Text) : List Text :=
  let isBlank (c : Char) : Bool := c = ' ' || c = '\t' || c = '\n'
  let step (c : Char) : List Text × Bool → List Text × Bool
    | (parts, open_) =>
      if isBlank c then (parts, false)
      else
        match parts, open_ with
        | part :: parts, true => ((c :: part) :: parts, true)
        | parts, _ => ([c] :: parts, true)
  (text.foldr step ([], false)).1

/-- The parts of a text between matches; a match of nothing separates nothing. -/
def partsBetween (m : Matcher) : (fuel : Nat) → (before current rest : Text) → List Text
  | 0, _, current, rest => [current.reverse ++ rest]
  | fuel + 1, before, current, rest =>
    match m.regex.search Matcher.mode before rest with
    | none => [current.reverse ++ rest]
    | some found =>
      let skipped := found.before.drop before.length
      if found.text.isEmpty then
        match found.after with
        | [] => [current.reverse ++ rest]
        | c :: after =>
          partsBetween m fuel (c :: found.before.reverse) (c :: skipped.reverse ++ current) after
      else
        (current.reverse ++ skipped) ::
          partsBetween m fuel (found.text.reverse ++ found.before.reverse) [] found.after

/-- The parts of a text between separators. -/
def parts (execute : Execution) (separator text : Text) : Work (List Text) := do
  if text.isEmpty then return []
  match separator with
  | [' '] => return blankParts text
  | [] => return text.map fun c => [c]
  | [c] => return text.splitOn c
  | separator => return partsBetween (← matcher execute separator) (text.length + 1) [] [] text

/-- Splits the record, if it has not been. -/
def splitRecord (execute : Execution) : Work Unit := do
  let s ← get
  if !s.isSplit then
    let list ← parts execute (← globalText "FS") s.record
    modify fun s => { s with fields := (list.map Value.given).toArray, isSplit := true }

/-- The record, put together from its fields if one of them has changed. -/
def recordText : Work Text := do
  let s ← get
  if s.isJoined then return s.record
  else
    let texts ← s.fields.toList.mapM textOf
    let record := (← globalText "OFS").intercalate texts
    modify fun s => { s with record, isJoined := true }
    return record

def setRecord (record : Text) : Work Unit :=
  modify fun s => { s with record, fields := #[], isSplit := false, isJoined := true }

/-- The value of a field. -/
def field (execute : Execution) (index : Nat) : Work Value := do
  if index = 0 then return .given (← recordText)
  else
    splitRecord execute
    return (← get).fields.getD (index - 1) .empty

/-- Gives the record a number of fields. -/
def setFieldCount (execute : Execution) (count : Nat) : Work Unit := do
  splitRecord execute
  modify fun s =>
    let fields := s.fields.extract 0 count
    { s with
      fields := fields ++ Array.replicate (count - fields.size) Value.empty
      isJoined := false }

def setField (execute : Execution) (index : Nat) (value : Value) : Work Unit := do
  if index = 0 then setRecord (← textOf value)
  else
    splitRecord execute
    if (← get).fields.size < index then setFieldCount execute index
    modify fun s => { s with fields := s.fields.set! (index - 1) value, isJoined := false }

/-- The value of a variable. -/
def variableValue (execute : Execution) (name : String) : Work Value := do
  match (← get).frame.lookup name with
  | some (.value value) => return value
  | some (.table _) => return .missing
  | none =>
    if name = "NF" then
      splitRecord execute
      return .ofNat (← get).fields.size
    else global name

/-- Sets a variable. -/
def setVariable (execute : Execution) (name : String) (value : Value) : Work Unit := do
  match (← get).frame.lookup name with
  | some _ => modify fun s => { s with frame := replaceEntry name (.value value) s.frame }
  | none =>
    if name = "NF" then
      let count := truncated value.toNumber
      if count < 0 then fault execute "negative value assigned to NF".toList
      setFieldCount execute count.toNat
    else
      if name = "FS" then splitRecord execute
      putGlobal name value

/-- A new table. -/
def newTable (table : Table) : Work Nat :=
  modifyGet fun s => (s.tables.size, { s with tables := s.tables.push table })

/-- The number of the table with a name, which is made if it is missing. -/
def tableNumber (name : String) : Work Nat := do
  match (← get).frame.lookup name with
  | some (.table number) => return number
  | some (.value _) =>
    let number ← newTable .empty
    modify fun s => { s with frame := replaceEntry name (.table number) s.frame }
    return number
  | none =>
    match (← get).tableNames.lookup name with
    | some number => return number
    | none =>
      let number ← newTable .empty
      modify fun s => { s with tableNames := (name, number) :: s.tableNames }
      return number

/-- Does something with a table. -/
def onTable {α : Type} (number : Nat) (work : Table → α × Table) : Work α :=
  modifyGet fun s =>
    let table := s.tables.getD number .empty
    let s := { s with tables := s.tables.set! number .empty }
    let (value, table) := work table
    (value, { s with tables := s.tables.set! number table })

end Work

/-! ## Streams

Reading records from files and commands, and writing to them.
-/

namespace Work

/-- How many bytes are read at a time. -/
def blockSize : Nat := 4096

/-- Reads a block from a description. -/
def readBlock (number : Nat) : Task (Except SystemError Text) := do
  let m ← get
  match m.descriptions[number]? with
  | none => return .error .badDescriptor
  | some d =>
    if !d.readable then return .error .badDescriptor
    match m.readable d.stream d.offset with
    | .error e => return .error e
    | .ok bytes =>
      let taken := bytes.take blockSize
      Task.advance number d taken.length
      return .ok (ByteText.ofBytes taken)

/-- Takes the first record from what has been read: the record and what is left, if the record has a
certain end. -/
def firstRecord? (execute : Execution) (separator : Text) (ended : Bool) (held : Text) :
    Work (Option (Text × Text)) := do
  match separator with
  | [] =>
    let text := held.dropWhile (· = '\n')
    return paragraph [] text
  | [c] =>
    let record := held.takeWhile (· ≠ c)
    match held.drop record.length with
    | _ :: rest => return some (record, rest)
    | [] => return none
  | separator =>
    let m ← matcher execute separator
    match m.find? held with
    | some found =>
      if found.text.isEmpty || (found.after.isEmpty && !ended) then return none
      else return some (found.before, found.after)
    | none => return none
where
  paragraph (before : Text) : Text → Option (Text × Text)
    | '\n' :: '\n' :: rest =>
      let after := rest.dropWhile (· = '\n')
      if after.isEmpty && !ended then none else some (before.reverse, after)
    | c :: rest => paragraph (c :: before) rest
    | [] => none

/-- Reads the next record from an input. -/
def readRecord (execute : Execution) (separator : Text) : (fuel : Nat) → Input →
    Work (Option Text × Input)
  | 0, input => return (none, input)
  | fuel + 1, input => do
    match ← firstRecord? execute separator input.ended input.held with
    | some (record, rest) => return (some record, { input with held := rest })
    | none =>
      if input.ended then
        let last := if separator.isEmpty then input.held.dropWhile (· = '\n') else input.held
        let last :=
          if separator.isEmpty && last.getLast? = some '\n' then last.dropLast else last
        let rest : Input := { input with held := [] }
        return if last.isEmpty then (none, rest) else (some last, rest)
      else
        match ← task (readBlock input.description) with
        | .ok [] => readRecord execute separator fuel { input with ended := true }
        | .ok block => readRecord execute separator fuel { input with held := input.held ++ block }
        | .error e => refuse execute "read error".toList e

/-- How many blocks are read from an input at the most. -/
def manyBlocks : Nat := 1000000000

/-- The description of standard input. -/
def standardInput : Work (Except SystemError Nat) := do
  match (← get).machine.description? 0 with
  | some number => return .ok number
  | none => return .error .badDescriptor

/-- Opens a file to read records from. -/
def openInput (name : Text) : Work (Except SystemError Input) := do
  let opened ←
    if name = ['-'] || name = "/dev/stdin".toList then standardInput
    else task (Task.openFile name .read)
  return opened.map fun description => ⟨name, false, description, [], false, .exit 0⟩

/-- Sets a variable as an argument says that has an equals sign; tells whether it has. -/
def assignFrom (execute : Execution) (argument : Text) : Work Bool := do
  let name := argument.takeWhile (· ≠ '=')
  match argument.drop name.length with
  | '=' :: value =>
    if isName name then
      setVariable execute (String.ofList name) (.given (decoded (value.length + 1) value))
      return true
    else return false
  | _ => return false

/-- Opens the next file that records are read from. -/
def openNext (execute : Execution) : (fuel : Nat) → Work (Option Input)
  | 0 => return none
  | fuel + 1 => do
    let s ← get
    let count := truncated (← global "ARGC").toNumber
    if count ≤ s.nextArgument then
      if s.hasFiles then return none
      else
        set { s with hasFiles := true }
        match ← openInput ['-'] with
        | .ok input => return some input
        | .error e => refuse execute "read error".toList e
    else
      set { s with nextArgument := s.nextArgument + 1 }
      let number ← tableNumber "ARGV"
      let found ← onTable number fun t =>
        let (index, t) := t.find false (.integer s.nextArgument)
        (index.map t.value, t)
      let argument ← match found with
        | some value => textOf value
        | none => pure []
      if argument.isEmpty then openNext execute fuel
      else if ← assignFrom execute argument then openNext execute fuel
      else
        match ← openInput argument with
        | .ok input =>
          modify fun s => { s with hasFiles := true }
          putGlobal "FILENAME" (.text argument)
          putGlobal "FNR" (.number 0)
          return some input
        | .error e => refuse execute ("cannot open \"".toList ++ argument ++ ['"']) e

/-- Reads the next record of the files that have been given. -/
def nextRecord (execute : Execution) : (fuel : Nat) → Work (Option Text)
  | 0 => return none
  | fuel + 1 => do
    match (← get).main with
    | none =>
      match ← openNext execute (manyBlocks) with
      | none => return none
      | some input =>
        modify fun s => { s with main := some input }
        nextRecord execute fuel
    | some input =>
      let (record, input) ← readRecord execute (← globalText "RS") manyBlocks input
      match record with
      | some record =>
        modify fun s => { s with main := some input }
        for name in ["NR", "FNR"] do
          putGlobal name (.number ((← global name).toNumber + 1))
        return some record
      | none =>
        modify fun s => { s with main := none }
        nextRecord execute fuel

/-- The input with a name, opened if it has not been. -/
def inputOf (execute : Execution) (isCommand : Bool) (name : Text) : Work (Option Input) := do
  match (← get).inputs.find? fun i => i.name = name && i.isCommand = isCommand with
  | some input => return some input
  | none =>
    if isCommand then
      flushAll
      let (reading, halt) ← task do
        let (reading, writing) ← Task.pipe
        let halt ← runCommand execute "/bin/sh".toList name (Task.setDescriptor 1 writing)
        return (reading, halt)
      return some ⟨name, true, reading, [], false, halt⟩
    else return (← openInput name).toOption

/-- Reads a record from a file or command; nothing if it cannot be opened. -/
def readFrom (execute : Execution) (isCommand : Bool) (name : Text) : Work (Option (Option Text)) := do
  match ← inputOf execute isCommand name with
  | none => return none
  | some input =>
    let (record, input) ← readRecord execute (← globalText "RS") manyBlocks input
    modify fun s =>
      { s with
        inputs := input :: s.inputs.filter fun i => !(i.name = name && i.isCommand = isCommand) }
    return some record

/-- Puts an output at the front, opened if it has not been. -/
def openOutput (execute : Execution) (sink : Sink) (name : Text) : Work Unit := do
  let isCommand := sink = .command
  let matching (o : Output) : Bool := o.name = name && o.isCommand = isCommand
  let outputs := (← get).outputs
  match outputs.find? matching with
  | some o => modify fun s => { s with outputs := o :: outputs.filter fun o => !matching o }
  | none =>
    if isCommand then
      flushAll
      modify fun s => { s with outputs := ⟨name, true, 0, []⟩ :: s.outputs }
    else
      match ← task (Task.openFile name (if sink = .append then .append else .write)) with
      | .ok description =>
        modify fun s => { s with outputs := ⟨name, false, description, []⟩ :: s.outputs }
      | .error e => refuse execute ("cannot open \"".toList ++ name ++ "\" for output".toList) e

/-- Adds to the output with a name. -/
def addTo (name text : Text) : Work Unit :=
  modify fun s =>
    let rec go : List Output → List Output
      | [] => []
      | o :: rest =>
        if o.name = name then { o with held := text.reverse ++ o.held } :: rest else o :: go rest
    { s with outputs := go s.outputs }

/-- The name of the usual output. -/
def usualOutput : Text := "/dev/stdout".toList

/-- The name of the output for messages, which holds nothing back. -/
def messageOutput : Text := "/dev/stderr".toList

/-- Writes what the output with a name holds; tells whether there is one. -/
def flushNamed (name : Text) : Work Bool := do
  let outputs := (← get).outputs
  if outputs.any (·.name = name) then
    let outputs ← outputs.mapM fun o => if o.name = name then o.flush else pure o
    modify fun s => { s with outputs }
    return true
  else return false

/-- Writes to the usual output, or to a sink. -/
def send (execute : Execution) (sink : Option (Sink × Text)) (text : Text) : Work Unit := do
  match sink with
  | none => addTo usualOutput text
  | some (kind, name) =>
    openOutput execute kind name
    addTo name text
    if name = messageOutput then
      let _ ← flushNamed name

/-- Closes what has a name; gives the status. -/
def closeNamed (execute : Execution) (name : Text) : Work Int := do
  let s ← get
  set { s with
    outputs := s.outputs.filter (·.name ≠ name)
    inputs := s.inputs.filter (·.name ≠ name) }
  let mut status : Int := -1
  for o in s.outputs.filter (·.name = name) do
    if o.isCommand then flushAll
    status := (← o.close execute)
  for input in s.inputs.filter (·.name = name) do
    status := if input.isCommand then haltStatus input.halt else 0
  return status

end Work

end KDispatch.Shell.Records
