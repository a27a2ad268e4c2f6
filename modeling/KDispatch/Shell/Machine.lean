import KDispatch.FileSystem.Access
import KDispatch.FileSystem.Basic
import KDispatch.Text.Utf8

/-!
What processes share and hold: files, open descriptions, pipes and the two collected output streams,
and of the running process its descriptors, environment and signals. Processes run one after the other;
a process that its parent waits for runs to its end first.
-/

namespace KDispatch.Shell

/-- What an open description leads to. -/
inductive Stream where
  | file (location : Location)
  /-- A file that has no location any more. -/
  | removed (number : Nat)
  | directory (location : Location)
  | pipe (number : Nat)
  | null
  | full
  | zeros
  | noise
  /-- Tells something about the system. -/
  | report (content : String)
  /-- The collected standard output. -/
  | output
  /-- The collected standard error. -/
  | errors
  deriving DecidableEq

structure Description where
  stream : Stream
  offset : Nat
  readable : Bool
  writable : Bool
  /-- Whether every write goes to the end. -/
  appends : Bool

structure Pipe where
  content : Array UInt8
  /-- How many bytes have been read. -/
  taken : Nat

/-- How a process comes to its end. -/
inductive Halt where
  | exit (status : Nat)
  | killed (signal : Nat)
  deriving DecidableEq

/-- A process that its parent has not stopped to wait for. It has run to its end already, but what it has
written to the two collected streams is held back until time passes. -/
structure Job where
  process : Nat
  parent : Nat
  halt : Halt
  stdout : List UInt8
  stderr : List UInt8
  /-- Whether time has passed since its start, so that it has come to its end. -/
  isOver : Bool

/-- A limit of a process; there is none where a number is missing. -/
structure Limit where
  current : Option Nat
  /-- What the limit cannot be raised above. -/
  highest : Option Nat

structure Machine where
  files : FileSystem
  descriptions : Array Description
  pipes : Array Pipe
  /-- The pipes that have names. -/
  fifos : List (Location × Nat)
  removed : Array Bytes
  stdout : Array UInt8
  stderr : Array UInt8
  /-- The descriptors of the running process, with the numbers of their descriptions. -/
  descriptors : List (Nat × Nat)
  environment : List (String × Text)
  /-- The rights that new files of the running process do not get. -/
  mask : Nat
  /-- The limits that have been set for the running process, by their letters. -/
  limits : List (Char × Limit)
  /-- Signals that the running process ignores. -/
  ignored : List Nat
  process : Nat
  parents : List Nat
  nextProcess : Nat
  /-- The processes that run beside others, from the first one on. -/
  jobs : List Job
  /-- Signals that have been sent and not arrived yet. -/
  pending : List (Nat × Nat)

namespace Machine

/-- A machine without anything, which stands in while the real one is in use. -/
def blank : Machine :=
  { files := FileSystem.ofNodes [] [], descriptions := #[], pipes := #[], fifos := [], removed := #[],
    stdout := #[], stderr := #[], descriptors := [], environment := [], mask := 0o22,
    limits := [], ignored := [], process := 0, parents := [], nextProcess := 0, jobs := [],
    pending := [] }

instance : Inhabited Machine := ⟨blank⟩

/-- The number of the description that a descriptor leads to. -/
def description? (m : Machine) (descriptor : Nat) : Option Nat := m.descriptors.lookup descriptor

/-- How many zeros are given at a time where there is no end of them. -/
def zeroCount : Nat := 1048576

/-- Bytes without an order that can be seen. -/
def noise : (count : Nat) → (seed : UInt64) → Bytes
  | 0, _ => []
  | count + 1, seed =>
    let next := seed * 6364136223846793005 + 1442695040888963407
    (next >>> 56).toUInt8 :: noise count next

/-- How many bytes without order are given at a time. -/
def noiseCount : Nat := 65536

/-- The bytes that can be read from a stream from an offset on. -/
def readable (m : Machine) (stream : Stream) (offset : Nat) : Except SystemError Bytes :=
  match stream with
  | .file location => (m.files.readAt location).map (·.drop offset)
  | .removed number => .ok ((m.removed.getD number []).drop offset)
  | .directory _ => .error .isADirectory
  | .pipe number =>
    match m.pipes[number]? with
    | some pipe => .ok (pipe.content.extract pipe.taken pipe.content.size).toList
    | none => .ok []
  | .null => .ok []
  | .full | .zeros => .ok (List.replicate zeroCount 0)
  | .noise => .ok (noise noiseCount (UInt64.ofNat (m.files.clock.toNat + offset)))
  | .report content => .ok ((utf8 content).drop offset)
  | .output | .errors => .error .badDescriptor

/-- The machine after files have moved: descriptions follow their files, and what is not found any more
is kept apart. -/
def relocate (m : Machine) (follow : Location → Option Location) : Machine :=
  let step : Array Description × Array Bytes → Description → Array Description × Array Bytes :=
    fun (descriptions, removed) d =>
      match d.stream with
      | .file location =>
        match follow location with
        | some next => (descriptions.push { d with stream := .file next }, removed)
        | none =>
          let content := (m.files.content? location).getD []
          (descriptions.push { d with stream := .removed removed.size }, removed.push content)
      | _ => (descriptions.push d, removed)
  let (descriptions, removed) := m.descriptions.foldl step (#[], m.removed)
  { m with descriptions, removed }

end Machine

/-- Work of a process. -/
abbrev Task := EStateM Halt Machine

namespace Task

/-- Ends the process. -/
def exit {α : Type} (status : Nat) : Task α := throw (.exit status)

/-- The path that a byte text spells. -/
def path (text : Text) : String := ByteText.toString (String.ofList text)

/-- The byte text of a path. -/
def ofPath (path : String) : Text := (ByteText.ofString path).toList

/-- The absolute path of a location. -/
def ofLocation (location : Location) : Text := ofPath ("/" ++ "/".intercalate location)

/-- The location of a path. -/
def locate (text : Text) : Task (Except SystemError Location) := do
  return (← get).files.locate (path text)

/-- The descriptor that a location stands for. -/
def descriptorOf? : Location → Option Nat
  | ["proc", "self", "fd", name] => name.toNat?
  | _ => none

/-- What stands at a location for the running process, which also has its descriptors there. -/
def nodeOf? (m : Machine) (location : Location) : Option Node :=
  match m.files.node? location with
  | some node => some node
  | none =>
    (descriptorOf? location).bind fun n =>
      (m.description? n).map fun _ => .device (.descriptor n)

/-- What a path leads to; a link at its end is followed if `follows` says so. -/
def nodeWith (follows : Bool) (text : Text) : Task (Except SystemError (Location × Node)) := do
  let m ← get
  match m.files.locateWith follows (path text) with
  | .error e => return .error e
  | .ok location =>
    match nodeOf? m location with
    | some node => return .ok (location, node)
    | none => return .error .notFound

/-- What a path leads to. -/
def node (text : Text) : Task (Except SystemError (Location × Node)) := nodeWith true text

/-- What stands at a path, which may be a link. -/
def entry (text : Text) : Task (Except SystemError (Location × Node)) := nodeWith false text

/-- The entry for a new description. -/
def describe (description : Description) : Task Nat :=
  modifyGet fun m => (m.descriptions.size, { m with descriptions := m.descriptions.push description })

/-- Makes a descriptor lead to a description. -/
def setDescriptor (descriptor description : Nat) : Task Unit :=
  modify fun m =>
    { m with
      descriptors := (descriptor, description) :: m.descriptors.filter (·.1 ≠ descriptor) }

def closeDescriptor (descriptor : Nat) : Task Unit :=
  modify fun m => { m with descriptors := m.descriptors.filter (·.1 ≠ descriptor) }

/-- How a file is opened. -/
structure Opening where
  reads : Bool
  writes : Bool
  /-- Whether the file is made if it is missing. -/
  creates : Bool
  empties : Bool
  appends : Bool

def Opening.read : Opening := ⟨true, false, false, false, false⟩

def Opening.write : Opening := ⟨false, true, true, true, false⟩

def Opening.append : Opening := ⟨false, true, true, false, true⟩

def Opening.readWrite : Opening := ⟨true, true, true, false, false⟩

/-- The pipe with a name at a location. -/
def fifo (location : Location) : Task Nat := do
  let m ← get
  match m.fifos.lookup location with
  | some number => return number
  | none =>
    let number := m.pipes.size
    set { m with pipes := m.pipes.push ⟨#[], 0⟩, fifos := (location, number) :: m.fifos }
    return number

/-- The stream of a node at a location. -/
def streamOf (location : Location) : Node → Task (Except SystemError Stream)
  | .directory => return .ok (.directory location)
  | .file _ _ => return .ok (.file location)
  | .link _ => return .error .tooManyLinks
  | .fifo => return .ok (.pipe (← fifo location))
  | .device .null => return .ok .null
  | .device .full => return .ok .full
  | .device .zeros => return .ok .zeros
  | .device .noise => return .ok .noise
  | .device .terminal => return .error .noSuchDevice
  | .device (.report content) => return .ok (.report content)
  | .device (.descriptor n) => do
    let m ← get
    match (m.description? n).bind (m.descriptions[·]?) with
    | some d => return .ok d.stream
    | none => return .error .notFound

/-- Opens a file; gives the number of its description. -/
def openFile (text : Text) (opening : Opening) : Task (Except SystemError Nat) := do
  let m ← get
  let located :=
    if opening.creates then m.files.locateToCreate (path text) else m.files.locate (path text)
  match located with
  | .error e => return .error e
  | .ok location =>
    match nodeOf? m location with
    | none =>
      if opening.creates then
        match m.files.createAt location with
        | .error e => return .error e
        | .ok files =>
          let rights := 0o666 - (0o666 &&& m.mask)
          let files := if rights = 0o644 then files else files.setMode location rights
          set { m with files }
          return .ok (← describe
            ⟨.file location, 0, opening.reads, opening.writes, opening.appends⟩)
      else return .error .notFound
    | some .directory =>
      if opening.writes then return .error .isADirectory
      else return .ok (← describe ⟨.directory location, 0, true, false, false⟩)
    | some node =>
      if Path.endsInSlash (path text) then return .error .notADirectory
      match ← streamOf location node with
      | .error e => return .error e
      | .ok stream =>
        match stream, opening.empties with
        | .file location, true =>
          modify fun m => { m with files := (m.files.createAt location).toOption.getD m.files }
        | _, _ => pure ()
        return .ok (← describe ⟨stream, 0, opening.reads, opening.writes, opening.appends⟩)

/-- A new pipe; gives the descriptions of its two ends. -/
def pipe : Task (Nat × Nat) := do
  let number ← modifyGet fun m => (m.pipes.size, { m with pipes := m.pipes.push ⟨#[], 0⟩ })
  let reading ← describe ⟨.pipe number, 0, true, false, false⟩
  let writing ← describe ⟨.pipe number, 0, false, true, false⟩
  return (reading, writing)

/-- How many bytes a pipe takes before its writer is stopped. -/
def pipeCapacity : Nat := 1048576

def brokenPipe : Nat := 13

/-- The signal for a file that becomes too large. -/
def tooLarge : Nat := 25

/-- Puts bytes into a file at an offset, as many as the process may. -/
def putInFile (location : Location) (offset : Nat) (bytes : Bytes) :
    Task (Except SystemError Unit) := do
  let m ← get
  match (m.limits.lookup 'f').bind (·.current) with
  | some limit =>
    if limit < offset + bytes.length then
      let fitting := bytes.take (limit - offset)
      if !fitting.isEmpty then
        set { m with files := m.files.writeAt location offset fitting }
      if m.ignored.contains tooLarge then return .error .fileTooLarge
      else throw (.killed tooLarge)
    else
      set { m with files := m.files.writeAt location offset bytes }
      return .ok ()
  | none =>
    set { m with files := m.files.writeAt location offset bytes }
    return .ok ()

/-- Puts bytes into a stream at an offset. -/
def putBytes (stream : Stream) (offset : Nat) (bytes : Bytes) : Task (Except SystemError Unit) := do
  match stream with
  | .null | .zeros | .noise => return .ok ()
  | .report _ => return if bytes.isEmpty then .ok () else .error .inputOutput
  | .full => return if bytes.isEmpty then .ok () else .error .noSpace
  | .output =>
    modify fun m => { m with stdout := bytes.foldl Array.push m.stdout }
    return .ok ()
  | .errors =>
    modify fun m => { m with stderr := bytes.foldl Array.push m.stderr }
    return .ok ()
  | .file location => putInFile location offset bytes
  | .removed number =>
    modify fun m =>
      { m with
        removed := m.removed.modify number fun content =>
          FileSystem.overwrite content offset bytes }
    return .ok ()
  | .directory _ => return .error .isADirectory
  | .pipe number =>
    modify fun m =>
      { m with
        pipes := m.pipes.modify number fun p => { p with content := bytes.foldl Array.push p.content } }
    let size := ((← get).pipes[number]?.map (·.content.size)).getD 0
    if pipeCapacity < size then throw (.killed brokenPipe) else return .ok ()

/-- Writes a byte text to a description. -/
def writeTo (number : Nat) (text : Text) : Task (Except SystemError Unit) := do
  let m ← get
  match m.descriptions[number]? with
  | none => return .error .badDescriptor
  | some d =>
    if !d.writable then return .error .badDescriptor
    let offset :=
      if d.appends then
        match m.readable d.stream 0 with
        | .ok content => content.length
        | .error _ => d.offset
      else d.offset
    modify fun m =>
      { m with
        descriptions :=
          m.descriptions.modify number fun d => { d with offset := offset + text.length } }
    putBytes d.stream offset (ByteText.toBytes text)

/-- Writes a byte text to a descriptor. -/
def write (descriptor : Nat) (text : Text) : Task (Except SystemError Unit) := do
  match (← get).description? descriptor with
  | none => return .error .badDescriptor
  | some number => writeTo number text

/-- The description of a descriptor that can be read. -/
def readableDescription (descriptor : Nat) : Task (Except SystemError (Nat × Description)) := do
  let m ← get
  match m.description? descriptor with
  | none => return .error .badDescriptor
  | some number =>
    match m.descriptions[number]? with
    | some d => return if d.readable then .ok (number, d) else .error .badDescriptor
    | none => return .error .badDescriptor

/-- Goes past bytes that have been read. -/
def advance (number : Nat) (d : Description) (count : Nat) : Task Unit :=
  match d.stream with
  | .pipe pipe =>
    modify fun m =>
      { m with pipes := m.pipes.modify pipe fun p => { p with taken := p.taken + count } }
  | _ =>
    modify fun m =>
      { m with
        descriptions := m.descriptions.modify number fun d => { d with offset := d.offset + count } }

/-- Reads from a descriptor as much as `take` takes of what is left. -/
def readWith (descriptor : Nat) (take : Bytes → Bytes) : Task (Except SystemError Text) := do
  match ← readableDescription descriptor with
  | .error e => return .error e
  | .ok (number, d) =>
    match (← get).readable d.stream d.offset with
    | .error e => return .error e
    | .ok bytes =>
      let taken := take bytes
      advance number d taken.length
      return .ok (ByteText.ofBytes taken)

/-- Reads all that is left. -/
def readAll (descriptor : Nat) : Task (Except SystemError Text) := readWith descriptor id

/-- The bytes of a line, with its end. -/
def firstLine : Bytes → Bytes
  | [] => []
  | b :: rest => if b = 10 then [b] else b :: firstLine rest

/-- The bytes of a line from an index on, with its end. -/
def lineFrom (content : Array UInt8) : (fuel index : Nat) → Bytes
  | 0, _ => []
  | fuel + 1, index =>
    match content[index]? with
    | none => []
    | some b => if b = 10 then [b] else b :: lineFrom content fuel (index + 1)

/-- Reads the next line, with its end. -/
def readLine (descriptor : Nat) : Task (Except SystemError Text) := do
  match ← readableDescription descriptor with
  | .ok (number, ⟨.pipe pipe, offset, readable, writable, appends⟩) =>
    let line := match (← get).pipes[pipe]? with
      | some p => lineFrom p.content (p.content.size - p.taken) p.taken
      | none => []
    advance number ⟨.pipe pipe, offset, readable, writable, appends⟩ line.length
    return .ok (ByteText.ofBytes line)
  | _ => readWith descriptor firstLine

/-- Reads a whole file. -/
def readFile (text : Text) : Task (Except SystemError Text) := do
  match ← openFile text .read with
  | .error e => return .error e
  | .ok number =>
    match (← get).descriptions[number]? with
    | none => return .error .badDescriptor
    | some d =>
      match (← get).readable d.stream d.offset with
      | .error e => return .error e
      | .ok bytes =>
        advance number d bytes.length
        return .ok (ByteText.ofBytes bytes)

/-- Takes away what stands at a location; open descriptions keep their content. -/
def removeAt (top : Location) : Task Unit :=
  modify fun m =>
    let m := m.relocate fun location =>
      (m.files.namesOf location).find? fun name => !FileSystem.isWithin top name
    { m with files := m.files.eraseTree top }

/-- Moves what stands at a location in place of what is at the target. -/
def moveTo (source target : Location) : Task Unit :=
  modify fun m =>
    let m := m.relocate fun location =>
      if FileSystem.isWithin source location then
        some (FileSystem.movedLocation source target location)
      else
        (m.files.namesOf location).find? fun name => !FileSystem.isWithin target name
    { m with files := m.files.move source target }

/-- The processes of a machine begin with this number. -/
def firstProcess : Nat := 1000

/-- Moves the clock on, by nanoseconds. -/
def moveClock (duration : Nat) : Task Unit :=
  modify fun m => { m with files := { m.files with clock := m.files.clock + duration } }

/-- Lets time pass: the jobs come to their ends, and what they have written appears. -/
def passTime : Task Unit :=
  modify fun m =>
    { m with
      stdout := m.jobs.foldl (fun written job => job.stdout.foldl Array.push written) m.stdout
      stderr := m.jobs.foldl (fun written job => job.stderr.foldl Array.push written) m.stderr
      jobs := m.jobs.map fun job => { job with stdout := [], stderr := [], isOver := true } }

/-- Takes what has been written to the collected streams since they had the given sizes. -/
def takeOutput (stdoutSize stderrSize : Nat) : Task (List UInt8 × List UInt8) :=
  modifyGet fun m =>
    ((m.stdout.toList.drop stdoutSize, m.stderr.toList.drop stderrSize),
      { m with
        stdout := m.stdout.shrink stdoutSize
        stderr := m.stderr.shrink stderrSize })

/-- Runs a process to its end, which leaves its parent as it was. -/
def child (body : Task Nat) : Task Halt := fun m =>
  let descriptors := m.descriptors
  let environment := m.environment
  let ignored := m.ignored
  let mask := m.mask
  let limits := m.limits
  let process := m.process
  let parents := m.parents
  let directory := m.files.workingDirectory
  let restore (m : Machine) : Machine :=
    { m with
      descriptors, environment, ignored, mask, limits, process, parents
      files := { m.files with workingDirectory := directory } }
  let started :=
    { m with process := m.nextProcess, parents := process :: parents, nextProcess := m.nextProcess + 1 }
  match body started with
  | .ok status m => .ok (.exit status) (restore m)
  | .error halt m => .ok halt (restore m)

end Task

end KDispatch.Shell
