import KDispatch.Shell.Indented.Format

/-!
Files: opening them, reading lines from them and writing to them; and running other programs.
-/

namespace KDispatch.Shell.Indented

/-- A file that is not open. -/
def File.closed (name : Text) : File :=
  { name, mode := ['r'], description := none, isOpen := false, reads := false, writes := false
    isBinary := false, held := [], ended := true, unwritten := [], unwrittenCount := 0, keeps := false }

/-- A text that is read or written like a file. -/
def File.ofText (isBinary : Bool) (content : Text) : File :=
  { File.closed [] with
    isOpen := true, reads := true, writes := true, isBinary, held := content, unwritten := content.reverse
    keeps := true }

namespace Work

def fileAt (address : Nat) : Work File := do
  match ← objectAt address with
  | .file f => return f
  | _ => return File.closed []

def putFile (address : Nat) (f : File) : Work Unit := putObject address (.file f)

/-- A value that goes with a module. -/
def memberOfModule? (module name : String) : Work (Option Value) := do
  return (← get).members.lookup (module ++ "." ++ name)

/-- The name under which what goes with a file is kept. -/
def fileKey (address : Nat) : String := "file" ++ toString address

/-- Writes what a file holds by itself. -/
def flushOwn (address : Nat) : Work Unit := do
  let f ← fileAt address
  match f.description with
  | some number =>
    if f.unwritten.isEmpty || f.keeps then return
    else
      putFile address { f with unwritten := [], unwrittenCount := 0 }
      match ← task (Task.writeTo number f.unwritten.reverse) with
      | .ok () => return
      | .error e => failSystem e none
  | none => return

/-- Writes what a file holds; bytes that have been written below a text come before it. -/
def flush (address : Nat) : Work Unit := do
  match ← memberOfModule? (fileKey address) "buffer" with
  | some (.object inner) => flushOwn inner
  | _ => pure ()
  flushOwn address

def checkOpen (f : File) : Work Unit :=
  if f.isOpen then return else fail "ValueError" "I/O operation on closed file.".toList

/-- How many bytes are held back before they are written. -/
def bufferSize : Nat := 8192

/-- Writes bytes to a file. Only standard output holds them back. -/
def writeBytes (address : Nat) (bytes : Text) : Work Unit := do
  let f ← fileAt address
  checkOpen f
  if !f.writes then fail "UnsupportedOperation" "not writable".toList
  else
    let count := f.unwrittenCount + bytes.length
    putFile address { f with unwritten := bytes.reverse ++ f.unwritten, unwrittenCount := count }
    if f.name = "<stdout>".toList && count < bufferSize then return else flush address

/-- Line ends of other kinds as plain ones. -/
def plainLines : Text → Text
  | '\r' :: '\n' :: rest => '\n' :: plainLines rest
  | '\r' :: rest => '\n' :: plainLines rest
  | c :: rest => c :: plainLines rest
  | [] => []

/-- Reads a further block into what a file holds. -/
def fill (f : File) : Work File := do
  if f.ended then return f
  match f.description with
  | none => return { f with ended := true }
  | some number =>
    match ← task (Records.Work.readBlock number) with
    | .ok [] => return { f with ended := true }
    | .ok block => return { f with held := f.held ++ if f.isBinary then block else plainLines block }
    | .error e => failSystem e none

/-- How many blocks are read at the most. -/
def manyBlocks : Nat := 1000000000

def checkReadable (f : File) : Work Unit := do
  checkOpen f
  if f.reads then return else fail "UnsupportedOperation" "not readable".toList

/-- Reads all that is left, in blocks that are kept in reverse. -/
def fillAll : (fuel : Nat) → File → (blocks : List Text) → Work (File × List Text)
  | 0, f, blocks => return (f, blocks)
  | fuel + 1, f, blocks => do
    let blocks := if f.held.isEmpty then blocks else f.held :: blocks
    let f := { f with held := [] }
    if f.ended then return (f, blocks) else fillAll fuel (← fill f) blocks

/-- The value of bytes that have been read. -/
def valueOf (f : File) (bytes : Text) : Work Value := do
  if f.isBinary then return .bytes bytes
  else if f.keeps then return .text bytes
  else
    match Utf8.decode? (ByteText.toBytes bytes) with
    | some t => return .text t
    | none =>
      let bad := (bytes.find? fun c => 127 < c.toNat).getD ' '
      let place := (bytes.takeWhile (· ≠ bad)).length
      fail "UnicodeDecodeError" ("'utf-8' codec can't decode byte 0x".toList ++ Nat.toDigits 16 bad.toNat ++
        " in position ".toList ++ (toString place).toList ++ ": invalid start byte".toList)

/-- Reads all that is left in a file, or some characters of it. -/
def readAll (address : Nat) (count : Option Nat) : Work Value := do
  let f ← fileAt address
  checkReadable f
  let (f, blocks) ← fillAll manyBlocks f []
  let all := blocks.reverse.flatten
  match count with
  | none =>
    putFile address f
    valueOf f all
  | some n =>
    let taken ← if f.isBinary || f.keeps then pure (all.take n) else pure (encoded ((decoded all).take n))
    putFile address { f with held := all.drop taken.length }
    valueOf f taken

/-- Reads blocks until a line is complete. -/
def fillLine : (fuel : Nat) → File → Work (Text × File)
  | 0, f => return ([], f)
  | fuel + 1, f => do
    let line := f.held.takeWhile (· ≠ '\n')
    match f.held.drop line.length with
    | end_ :: rest => return (line ++ [end_], { f with held := rest })
    | [] => if f.ended then return (line, { f with held := [] }) else fillLine fuel (← fill f)

/-- Reads a line with its end; it is empty at the end of the file. -/
def readLine (address : Nat) : Work Value := do
  let f ← fileAt address
  checkReadable f
  let (line, f) ← fillLine manyBlocks f
  putFile address f
  valueOf f line

/-- The lines of a text, with their ends. -/
def linesOf : Text → List Text
  | [] => []
  | c :: rest =>
    if c = '\n' then [c] :: linesOf rest
    else
      match linesOf rest with
      | [] => [[c]]
      | line :: lines => (c :: line) :: lines

/-- The lines that are left in a file. -/
def restLines (address : Nat) : Work (List Value) := do
  match ← readAll address none with
  | .text t => return (linesOf t).map .text
  | .bytes t => return (linesOf t).map .bytes
  | _ => return []

def closeFile (address : Nat) : Work Unit := do
  let f ← fileAt address
  if f.isOpen then
    flush address
    let f ← fileAt address
    putFile address { f with isOpen := false }
  else return

/-- Opens a file by its name and a mode. -/
def openFile (name mode : Text) : Work Value := do
  let has (c : Char) : Bool := mode.contains c
  let opening : Option Task.Opening :=
    if has 'w' then some { Task.Opening.write with reads := has '+' }
    else if has 'a' then some { Task.Opening.append with reads := has '+' }
    else if has 'x' then some { Task.Opening.write with reads := has '+' }
    else if has 'r' then some (if has '+' then { Task.Opening.readWrite with creates := false, empties := false }
      else Task.Opening.read)
    else none
  match opening with
  | none => fail "ValueError" ("invalid mode: '".toList ++ mode ++ ['\''])
  | some opening =>
    let path := pathOf name
    let standing ← task (Task.node path)
    match standing with
    | .ok (_, .directory) => failSystem .isADirectory (some name)
    | .ok _ => if has 'x' then failSystem .alreadyExists (some name)
    | .error _ => pure ()
    match ← task (Task.openFile path opening) with
    | .error e => failSystem e (some name)
    | .ok number =>
      new (.file { File.closed name with
        mode, description := some number, isOpen := true, reads := opening.reads, writes := opening.writes
        isBinary := has 'b', ended := !opening.reads })

/-- A stream that is open already. -/
def inherited (name : String) (descriptor : Nat) (reads : Bool) : Work Value := do
  let description := (← get).machine.description? descriptor
  new (.file { File.closed name.toList with
    mode := if reads then ['r'] else ['w'], description, isOpen := description.isSome, reads, writes := !reads
    ended := !reads })

/-- Keeps a value with a module. -/
def putMember (module name : String) (value : Value) : Work Unit :=
  modify fun s => { s with members := replaceEntry (module ++ "." ++ name) value s.members }

/-- Writes what standard output holds. -/
def flushOutput : Work Unit := do
  match ← memberOfModule? "sys" "stdout" with
  | some (.object address) => flush address
  | _ => return

/-- Writes what any stream of the program still holds. -/
def flushAll : Work Unit := do
  let heap := (← get).heap
  for address in List.range heap.size do
    match heap.getD address default with
    | .file f => if f.isOpen && !f.unwritten.isEmpty then flush address
    | _ => pure ()

/-- Writes a message. -/
def complain (t : Text) : Work Unit := do
  match ← memberOfModule? "sys" "stderr" with
  | some (.object address) => writeBytes address (encoded t)
  | _ => return

/-- The errors that keep programs from being run, in the order of the numbers that stand for them. -/
def startErrors : List SystemError := [.notFound, .permissionDenied, .notADirectory, .execFormat]

/-- Runs the program that words name to its end. -/
def runProgram (execute : Utility.Execute) (words : List Text) (prepare : Task Unit) :
    Work (Except SystemError Halt) := do
  if words.isEmpty then return .error .notFound
  let halt ← task <| Task.child do
    prepare
    match ← Utility.executeFirst execute words .notFound (← Utility.programs (words.headD [])) with
    | .ok status => return status
    | .error e => return Utility.notStarted + (startErrors.idxOf e)
  match halt with
  | .exit status =>
    if status < Utility.notStarted then return .ok halt
    else return .error (startErrors.getD (status - Utility.notStarted) .notFound)
  | halt => return .ok halt

/-- What is left to be read in the pipe with a description. -/
def pipeContent (number : Nat) : Task Text := do
  let m ← get
  match m.descriptions[number]? with
  | some d => return ByteText.ofBytes ((m.readable d.stream d.offset).toOption.getD [])
  | none => return []

/-- The number that tells how a program has ended: its status, or less than zero for the signal that has
killed it. -/
def haltNumber : Halt → Int
  | .exit status => ((status % 256 : Nat) : Int)
  | .killed signal => -(signal : Int)

end Work

end KDispatch.Shell.Indented
