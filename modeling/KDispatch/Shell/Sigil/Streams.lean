import KDispatch.Shell.Sigil.State
import KDispatch.Shell.Utility.Records.State
import KDispatch.Shell.Utility.System

/-!
Handles: opening files, commands and texts, reading lines from them and writing to them; and running other
programs.
-/

namespace KDispatch.Shell.Sigil

namespace Work

/-- The handle at a place. -/
def handleAt (address : Nat) : Work Handle := do
  match ← cellAt address with
  | .handle h => return h
  | _ => return Handle.closed []

def putHandle (address : Nat) (h : Handle) : Work Unit := putCell address (.handle h)

/-- The place of the handle with a name. -/
def handleNamed (name : String) : Work Nat := do
  let s ← get
  let name : Name := ⟨'*', qualified s.package name⟩
  match s.globals.lookup name with
  | some address => return address
  | none =>
    let address ← alloc (.handle (Handle.closed name.text.toList))
    bindGlobal name address
    return address

/-- Writes what a handle holds; commands get theirs when they are closed. -/
def flush (address : Nat) : Work Bool := do
  let h ← handleAt address
  match h.description with
  | some number =>
    if h.unwritten.isEmpty || !h.command.isEmpty then return true
    else
      putHandle address { h with unwritten := [] }
      succeeded (← task (Task.writeTo number h.unwritten.reverse))
  | none => return true

/-- The places of all handles. -/
def handles : Work (List Nat) := do
  let heap := (← get).heap
  return (List.range heap.size).filter fun address =>
    match (heap.getD address default).cell with
    | .handle _ => true
    | _ => false

def flushAll : Work Unit := do
  for address in ← handles do
    let _ ← flush address

/-- Writes to a handle. -/
def writeTo (address : Nat) (text : Text) : Work Bool := do
  let h ← handleAt address
  if !h.isOpen || !h.writes then
    putSystemError .badDescriptor
    return false
  else
    match h.target with
    | some target =>
      assignAt target (.text ((← textAt target) ++ text))
      return true
    | none =>
      putHandle address { h with unwritten := text.reverse ++ h.unwritten }
      if h.name = "STDERR".toList || (← globalValue "|").isTrue then flush address else return true

/-- Writes a message. -/
def complain (text : Text) : Work Unit := do
  let _ ← writeTo (← handleNamed "STDERR") text

/-- Reads a further block into what a handle holds. -/
def fill (h : Handle) : Work Handle := do
  if h.ended then return h
  match h.description with
  | none => return { h with ended := true }
  | some number =>
    match ← task (Records.Work.readBlock number) with
    | .ok [] =>
      putGlobal "!" (.dual 0 [])
      return { h with ended := true }
    | .ok block => return { h with held := h.held ++ block }
    | .error e =>
      putSystemError e
      return { h with ended := true }

/-- The text up to the end of a separator, and what comes after it. -/
def splitAfter? (separator : Text) : (fuel : Nat) → (before : Text) → Text → Option (Text × Text)
  | 0, _, _ => none
  | fuel + 1, before, text =>
    if separator.isPrefixOf text then
      some (before.reverse ++ separator, text.drop separator.length)
    else
      match text with
      | [] => none
      | c :: rest => splitAfter? separator fuel (c :: before) rest

/-- Reads up to the end of a separator, or all if there is none; `none` at the end. -/
def readUpTo (separator : Option Text) : (fuel : Nat) → Handle → Work (Option Text × Handle)
  | 0, h => return (none, h)
  | fuel + 1, h => do
    let isParagraph := separator = some []
    let h := if isParagraph then { h with held := h.held.dropWhile (· = '\n') } else h
    let split := separator.bind fun mark =>
      splitAfter? (if isParagraph then ['\n', '\n'] else mark) (h.held.length + 1) [] h.held
    match split with
    | some (line, rest) =>
      let rest := if isParagraph then rest.dropWhile (· = '\n') else rest
      return (some line, { h with held := rest })
    | none =>
      if h.ended then
        return (if h.held.isEmpty then none else some h.held, { h with held := [] })
      else readUpTo separator fuel (← fill h)

/-- How many blocks are read at the most. -/
def manyBlocks : Nat := 1000000000

/-- What lines end in. -/
def lineSeparator : Work (Option Text) := do
  match ← globalValue "/" with
  | .missing => return none
  | value => return some (← textOf value)

/-- Counts a line that has been read from the handle at a place. -/
def countLine (address : Nat) : Work Unit := do
  let h ← handleAt address
  putHandle address { h with lines := h.lines + 1 }
  putGlobal "." (.ofNat (h.lines + 1))

/-- Reads a line from the handle at a place. -/
def readLine (address : Nat) : Work (Option Text) := do
  modify fun s => { s with lastRead := some address }
  let h ← handleAt address
  if !h.isOpen || !h.reads then return none
  else
    let (line, h) ← readUpTo (← lineSeparator) manyBlocks h
    putHandle address h
    if line.isSome then countLine address
    return line

/-- Whether there is nothing more to read. -/
def isAtEnd (address : Nat) : Work Bool := do
  let h ← handleAt address
  if !h.isOpen then return true
  else if !h.held.isEmpty then return false
  else
    let h ← fill h
    putHandle address h
    return h.held.isEmpty

/-- The handle of a stream that is open already. -/
def inherited (name : String) (descriptor : Nat) (reads : Bool) : Work Handle := do
  let description := (← get).machine.description? descriptor
  return { Handle.closed name.toList with
    isOpen := description.isSome, description, reads, writes := !reads, ended := !reads }

/-- Makes output take the place of a file that has been read, which is kept under a longer name if one is
wanted. -/
def replaceFile (address : Nat) (file ending : Text) : Work Unit := do
  let h ← handleAt address
  let (all, h) ← readUpTo none manyBlocks h
  let content := all.getD []
  putHandle address { h with held := content }
  let create (path : Text) : Work Nat := do
    match ← task (Task.openFile path .write) with
    | .ok number => return number
    | .error e =>
      putSystemError e
      return 0
  if !ending.isEmpty then
    let number ← create (file ++ ending)
    let _ ← task (Task.writeTo number content)
  let output ← handleNamed "ARGVOUT"
  let number ← create file
  putHandle output
    { Handle.closed "ARGVOUT".toList with isOpen := true, writes := true, description := some number }
  modify fun s => { s with selected := output }

/-- Ends the output that takes the place of a file. -/
def endReplacing : Work Unit := do
  if (← get).inPlace.isSome then
    let _ ← flush (← handleNamed "ARGVOUT")
    let output ← handleNamed "STDOUT"
    modify fun s => { s with selected := output }

/-- What the system has said when a file has been opened, since it is asked whether it is a terminal. -/
def terminalQuestion : Value := .dual 25 "Inappropriate ioctl for device".toList

/-- Opens the next of the files that are read when no handle is named. -/
def openNext (address : Nat) : (fuel : Nat) → Work Bool
  | 0 => return false
  | fuel + 1 => do
    endReplacing
    let list ← global ⟨'@', "ARGV"⟩
    let files ← itemsAt list
    match files[0]? with
    | none => return false
    | some first =>
      let file ← textAt first
      changeItems list fun items => items.extract 1 items.size
      putGlobal "ARGV" (.text file)
      let h ← handleAt address
      let opened ←
        if file = ['-'] then do
          match (← get).machine.description? 0 with
          | some number => pure (.ok number)
          | none => pure (.error SystemError.badDescriptor)
        else task (Task.openFile file .read)
      match opened with
      | .ok number =>
        putGlobal "!" terminalQuestion
        putHandle address
          { h with isOpen := true, reads := true, description := some number, held := [], ended := false }
        match (← get).inPlace with
        | some ending => if file ≠ ['-'] then replaceFile address file ending
        | none => pure ()
        return true
      | .error e =>
        putSystemError e
        complain ("Can't open ".toList ++ file ++ ": ".toList ++ e.reason.toList ++ (← whereabouts))
        openNext address fuel

/-- Opens the first of the files that are read when no handle is named, if none is open. -/
def openFirst (address : Nat) : Work Bool := do
  if (← get).hasFiles then return true
  else
    modify fun s => { s with hasFiles := true }
    let list ← global ⟨'@', "ARGV"⟩
    if (← itemsAt list).isEmpty then
      let standard ← newScalar (.text ['-'])
      changeItems list fun _ => #[standard]
    openNext address manyBlocks

/-- Reads a line from the files that are read when no handle is named. -/
def readFromFiles (address : Nat) : (fuel : Nat) → Work (Option Text)
  | 0 => return none
  | fuel + 1 => do
    modify fun s => { s with lastRead := some address }
    if !(← openFirst address) then
      modify fun s => { s with hasFiles := false }
      return none
    let h ← handleAt address
    let (line, h) ← readUpTo (← lineSeparator) manyBlocks h
    putHandle address h
    match line with
    | some line =>
      countLine address
      return some line
    | none =>
      if ← openNext address manyBlocks then readFromFiles address fuel
      else
        modify fun s => { s with hasFiles := false }
        let h ← handleAt address
        putHandle address { h with isOpen := false }
        return none

/-- Whether all the files that are read when no handle is named have come to their ends. -/
def areFilesAtEnd (address : Nat) : (fuel : Nat) → Work Bool
  | 0 => return true
  | fuel + 1 => do
    if !(← openFirst address) then return true
    else if !(← isAtEnd address) then return false
    else if ← openNext address manyBlocks then areFilesAtEnd address fuel
    else return true

/-- Reads a line from a handle. -/
def nextLine (address : Nat) : Work (Option Text) := do
  if (← get).globals.lookup ⟨'*', "ARGV"⟩ = some address then readFromFiles address manyBlocks
  else readLine address

/-- Reads all lines that are left. -/
def restLines (address : Nat) : (fuel : Nat) → Work (List Text)
  | 0 => return []
  | fuel + 1 => do
    match ← nextLine address with
    | some line => return line :: (← restLines address fuel)
    | none => return []

/-- Gives other programs the environment that the program has made. -/
def exportEnvironment : Work Unit := do
  let entries ← entriesAt (← global ⟨'%', "ENV"⟩)
  let environment ← entries.toList.mapM fun (key, address) => do
    return (String.ofList key, ← textAt address)
  task (modify fun m => { m with environment })

/-- Whether a command needs the shell. -/
def needsShell (command : Text) : Bool :=
  command.any fun c => "$&*()\x7b\x7d[]'\";\\|?<>~\n".toList.contains c || c.toNat = 0x60

/-- The words of a command: those that are given, or those that a text holds, with the shell if it needs
it. -/
def commandWords (words : List Text) : List Text :=
  match words with
  | [command] =>
    let found := (command.splitBy fun a b => Scan.CharKind.isSpaceChar a == Scan.CharKind.isSpaceChar b).filter
      fun word => !word.all Scan.CharKind.isSpaceChar
    let assigns := found.head?.any fun word => word.contains '='
    if needsShell command || assigns then ["sh".toList, "-c".toList, command] else found
  | words => words

/-- Puts the program that words name in place of the process. -/
def runWords (execute : Utility.Execute) (words : List Text) : Task (Except SystemError Nat) := do
  Utility.executeFirst execute words .notFound (← Utility.programs (words.headD []))

/-- The errors that keep programs from being run, in the order of the numbers that stand for them. -/
def startErrors : List SystemError := [.notFound, .permissionDenied, .notADirectory, .execFormat]

/-- Runs the program that words name to its end; numbers beyond those of statuses tell why it has not been
run. -/
def runProgram (execute : Utility.Execute) (words : List Text) (prepare : Task Unit) :
    Work (Except SystemError Halt) := do
  flushAll
  exportEnvironment
  let words := commandWords words
  if words.isEmpty then return .error .notFound
  let halt ← task <| Task.child do
    prepare
    match ← runWords execute words with
    | .ok status => return status
    | .error e => return Utility.notStarted + (startErrors.idxOf e)
  match halt with
  | .exit status =>
    if status < Utility.notStarted then return .ok halt
    else return .error (startErrors.getD (status - Utility.notStarted) .notFound)
  | halt => return .ok halt

/-- The number that tells how a program has ended. -/
def haltNumber : Halt → Nat
  | .exit status => status % 256 * 256
  | .killed signal => signal

/-- Keeps how a program has ended. -/
def putHalt (result : Except SystemError Halt) : Work Int := do
  let number : Int ← match result with
    | .ok halt => pure (haltNumber halt : Int)
    | .error e => do
      putSystemError e
      pure (-1)
  putGlobal "?" (.integer number)
  return number

/-- What is left to be read in the pipe with a description. -/
def pipeContent (number : Nat) : Task Text := do
  let m ← get
  match m.descriptions[number]? with
  | some d => return ByteText.ofBytes ((m.readable d.stream d.offset).toOption.getD [])
  | none => return []

/-- Runs a program and gives what it writes. -/
def outputOf (execute : Utility.Execute) (words : List Text) : Work Text := do
  let (reading, writing) ← task Task.pipe
  let result ← runProgram execute words (Task.setDescriptor 1 writing)
  let _ ← putHalt result
  task (pipeContent reading)

/-- Closes the handle at a place; tells whether all has gone well. -/
def close (execute : Utility.Execute) (address : Nat) : Work Bool := do
  let h ← handleAt address
  if !h.isOpen then
    putSystemError .badDescriptor
    return false
  else
    let closed : Handle := { Handle.closed h.name with lines := 0 }
    match h.command, h.halt with
    | word :: words, _ =>
      putHandle address closed
      let (reading, writing) ← task Task.pipe
      let _ ← task (Task.writeTo writing h.unwritten.reverse)
      let result ← runProgram execute (word :: words) (Task.setDescriptor 0 reading)
      return (← putHalt result) = 0
    | [], some halt =>
      putHandle address closed
      return (← putHalt (.ok halt)) = 0
    | [], none =>
      let written ← flush address
      putHandle address closed
      return written

/-- Closes all handles that commands are written to. -/
def closeAll (execute : Utility.Execute) : Work Unit := do
  for address in ← handles do
    let h ← handleAt address
    if !h.command.isEmpty && h.isOpen then
      let _ ← close execute address
  flushAll

/-- Opens a file for a handle. -/
def openFile (address : Nat) (name file : Text) (opening : Task.Opening) : Work Bool := do
  match ← task (Task.openFile file opening) with
  | .error e =>
    putSystemError e
    return false
  | .ok number =>
    putHandle address
      { Handle.closed name with
        isOpen := true, description := some number, reads := opening.reads, writes := opening.writes
        ended := !opening.reads }
    return true

/-- Opens a text at a place for a handle. -/
def openText (address : Nat) (name : Text) (place : Nat) (mode : Text) : Work Bool := do
  let start : Handle := { Handle.closed name with isOpen := true }
  if mode = ['<'] then
    putHandle address { start with reads := true, held := ← textAt place }
  else
    if mode = ['>'] then assignAt place Value.empty
    putHandle address { start with writes := true, target := some place }
  return true

/-- Opens a command for a handle that reads from it or writes to it. -/
def openCommand (execute : Utility.Execute) (address : Nat) (name : Text) (words : List Text)
    (reads : Bool) : Work Bool := do
  let start : Handle := { Handle.closed name with isOpen := true }
  if reads then
    let (reading, writing) ← task Task.pipe
    match ← runProgram execute words (Task.setDescriptor 1 writing) with
    | .error e =>
      putSystemError e
      return false
    | .ok halt =>
      putHandle address
        { start with reads := true, description := some reading, ended := false, halt := some halt }
      return true
  else
    putHandle address { start with writes := true, command := words }
    return true

/-- Opens a handle onto what another one leads to. -/
def openSame (address : Nat) (name : Text) (other : Text) (reads : Bool) : Work Bool := do
  let other := if other.head? = some '=' then other.drop 1 else other
  let number ← match (String.ofList other).toNat? with
    | some n => pure ((← get).machine.description? n)
    | none =>
      let source ← handleNamed (String.ofList other)
      let _ ← flush source
      pure (← handleAt source).description
  match number with
  | some number =>
    putHandle address
      { Handle.closed name with
        isOpen := true, description := some number, reads, writes := !reads, ended := !reads }
    -- Other programs see the change of the streams that they share.
    let shared : Option Nat := match String.ofList name with
      | "STDIN" => some 0
      | "STDOUT" => some 1
      | "STDERR" => some 2
      | _ => none
    match shared with
    | some descriptor => task (Task.setDescriptor descriptor number)
    | none => pure ()
    return true
  | none =>
    putSystemError .badDescriptor
    return false

/-- How a file is opened in a mode. -/
def openingOf? (mode : Text) : Option Task.Opening :=
  match String.ofList mode with
  | "<" => some .read
  | ">" => some .write
  | ">>" => some .append
  | "+<" => some ⟨true, true, false, false, false⟩
  | "+>" => some ⟨true, true, true, true, false⟩
  | "+>>" => some ⟨true, true, true, false, true⟩
  | _ => none

/-- The mode at the start of a text that is given without a mode of its own, and the rest. -/
def modeOf (text : Text) : Text × Text :=
  let text := text.dropWhile Scan.CharKind.isSpaceChar
  let text := (text.reverse.dropWhile Scan.CharKind.isSpaceChar).reverse
  let trimmed (count : Nat) : Text := (text.drop count).dropWhile Scan.CharKind.isSpaceChar
  let starts (mode : String) : Bool := mode.toList.isPrefixOf text
  if starts "+>>" then ("+>>".toList, trimmed 3)
  else if starts "+<" || starts "+>" then (text.take 2, trimmed 2)
  else if starts ">>&" then (">&".toList, trimmed 3)
  else if starts ">>" then (">>".toList, trimmed 2)
  else if starts ">&" || starts "<&" then (text.take 2, trimmed 2)
  else if starts ">" || starts "<" then (text.take 1, trimmed 1)
  else if starts "|" then ("|-".toList, trimmed 1)
  else if text.getLast? = some '|' then ("-|".toList, text.dropLast)
  else (['<'], text)

/-- Opens a handle in a mode. -/
def openWith (execute : Utility.Execute) (address : Nat) (name mode : Text) (targets : List Value) :
    Work Bool := do
  let _ ← flush address
  let mode := mode.filter (· ≠ ' ')
  let mode := mode.takeWhile (· ≠ ':')
  let words ← targets.mapM textOf
  match targets, openingOf? mode with
  | [.reference place], some _ => openText address name place mode
  | _, some opening => openFile address name (words.headD []) opening
  | _, none =>
    match String.ofList mode with
    | "-|" => openCommand execute address name words true
    | "|-" => openCommand execute address name words false
    | ">&" | ">>&" | ">&=" => openSame address name (words.headD []) false
    | "<&" | "<&=" => openSame address name (words.headD []) true
    | mode => fail ("Unknown open() mode '".toList ++ mode.toList ++ ['\''])

/-- Opens a handle as a text says. -/
def openSpelled (execute : Utility.Execute) (address : Nat) (name text : Text) : Work Bool := do
  let (mode, target) := modeOf text
  if target = ['-'] && mode = ['<'] then openSame address name ['0'] true
  else if target = ['-'] && mode = ['>'] then openSame address name ['1'] false
  else openWith execute address name mode [.text target]

end Work

end KDispatch.Shell.Sigil
