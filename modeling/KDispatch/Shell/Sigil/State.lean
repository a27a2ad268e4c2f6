import KDispatch.Shell.Machine
import KDispatch.Shell.Scan.Search
import KDispatch.Shell.Sigil.Syntax
import KDispatch.Shell.Sigil.Value
import KDispatch.Shell.Utility.Records.State

/-!
The state of a program that runs: places that hold values, what names are bound to, open handles, and what
has to be put back at the end of a block.
-/

namespace KDispatch.Shell.Sigil

/-- What is asked of an expression. -/
inductive Context where
  | nothing
  | one
  | many
  deriving DecidableEq

/-- Names of the text around a statement, with the numbers of their places. -/
abbrev Scope := List (Name × Nat)

/-- A function of the program. -/
structure Routine where
  name : String
  package : String
  body : List Statement
  /-- The names around the function; those of the whole program if they are not known. -/
  scope : Option Scope

/-- A file, command, text or directory that is read from or written to. -/
structure Handle where
  /-- What it is called in messages. -/
  name : Text
  isOpen : Bool
  description : Option Nat
  reads : Bool
  writes : Bool
  /-- What has been read and not been used. -/
  held : Text
  ended : Bool
  /-- What has not been written yet, in reverse. -/
  unwritten : Text
  /-- The words of a command that is written to. -/
  command : List Text
  /-- How a command that is read from has come to its end. -/
  halt : Option Halt
  /-- The place of a text that is written to. -/
  target : Option Nat
  /-- How many lines have been read. -/
  lines : Nat
  /-- What is left of the names in a directory. -/
  entries : Option (List Text)

def Handle.closed (name : Text) : Handle :=
  ⟨name, false, none, false, false, [], true, [], [], none, none, 0, none⟩

/-- What a place holds. -/
inductive Cell where
  /-- A value, and where the next search in it goes on. -/
  | scalar (value : Value) (position : Option Nat)
  /-- The places of elements. -/
  | list (items : Array Nat)
  /-- Keys with the places of their values, and how many of them have been walked over. -/
  | table (entries : Array (Text × Nat)) (walked : Nat)
  | code (routine : Routine)
  | handle (handle : Handle)

/-- A place; references to it may belong to a class. -/
structure Place where
  cell : Cell
  className : Option String

instance : Inhabited Place := ⟨⟨.scalar .missing none, none⟩⟩

/-- What is put back at the end of a block. -/
inductive Restoration where
  | global (name : Name) (address : Option Nat)
  | entry (table : Nat) (key : Text) (address : Option Nat)
  | element (list index : Nat) (address : Nat)

/-- What has been found last: the text it has been found in, and the groups. -/
structure Finding where
  subject : Array Char
  groups : Array (Option (Nat × Nat))
  names : List (String × Nat)

/-- How work is left other than by coming to its end. -/
inductive Jump where
  | halt (halt : Halt)
  | exit (status : Nat)
  /-- A failure with the value that tells about it. -/
  | die (value : Value)
  | loop (kind : JumpKind) (label : Option String)
  | give (values : List Value)

structure State where
  machine : Machine
  /-- The file of the program. -/
  file : Text
  heap : Array Place
  globals : List (Name × Nat)
  scope : Scope
  /-- The names of the whole program. -/
  fileScope : Scope
  /-- How many blocks are open. -/
  depth : Nat
  restorations : List Restoration
  package : String
  line : Nat
  finding : Option Finding
  patterns : List (Text × Scan.Pattern)
  /-- The place of the arguments of the function that runs. -/
  arguments : Nat
  wanted : Context
  /-- The functions that run, from the inmost on: their names, and where they have been called. -/
  calls : List (String × String × Nat)
  /-- The place of the handle that has been read from last. -/
  lastRead : Option Nat
  /-- The place of the handle for output. -/
  selected : Nat
  /-- Blocks for the end, from the last one on. -/
  finals : List Routine
  /-- Whether lines have been taken when no handle is named. -/
  hasFiles : Bool
  /-- What is put behind the names of files that output takes the places of; nothing if it does not. -/
  inPlace : Option Text
  random : UInt64
  startSeconds : Int

abbrev Work := EStateM Jump State

namespace Work

/-- Does work of a process. -/
def task {α : Type} (work : Task α) : Work α := fun s =>
  let machine := s.machine
  let s := { s with machine := Machine.blank }
  match work machine with
  | .ok value machine => .ok value { s with machine }
  | .error halt machine => .error (.halt halt) { s with machine }

/-- A new place. -/
def alloc (cell : Cell) : Work Nat :=
  modifyGet fun s => (s.heap.size, { s with heap := s.heap.push ⟨cell, none⟩ })

def newScalar (value : Value) : Work Nat := alloc (.scalar value none)

def newList (values : List Value) : Work Nat := do
  let items ← values.mapM newScalar
  alloc (.list items.toArray)

def cellAt (address : Nat) : Work Cell := return ((← get).heap.getD address default).cell

def putCell (address : Nat) (cell : Cell) : Work Unit :=
  modify fun s => { s with heap := s.heap.modify address fun place => { place with cell } }

/-- The value at a place. -/
def valueAt (address : Nat) : Work Value := do
  match ← cellAt address with
  | .scalar value _ => return value
  | .list items => return .ofNat items.size
  | .table entries _ => return .ofNat entries.size
  | _ => return .reference address

def assignAt (address : Nat) (value : Value) : Work Unit := putCell address (.scalar value none)

/-- The places of the elements of a list. -/
def itemsAt (address : Nat) : Work (Array Nat) := do
  match ← cellAt address with
  | .list items => return items
  | _ => return #[]

def entriesAt (address : Nat) : Work (Array (Text × Nat)) := do
  match ← cellAt address with
  | .table entries _ => return entries
  | _ => return #[]

def valuesAt (addresses : List Nat) : Work (List Value) := addresses.mapM valueAt

/-- Changes the elements of a list. -/
def changeItems (address : Nat) (change : Array Nat → Array Nat) : Work Unit :=
  modify fun s =>
    { s with
      heap := s.heap.modify address fun place =>
        match place.cell with
        | .list items => { place with cell := .list (change items) }
        | _ => place }

/-- Changes the entries of a table. -/
def changeEntries (address : Nat) (change : Array (Text × Nat) → Array (Text × Nat)) : Work Unit :=
  modify fun s =>
    { s with
      heap := s.heap.modify address fun place =>
        match place.cell with
        | .table entries walked => { place with cell := .table (change entries) walked }
        | _ => place }

/-- The empty content of what a sign stands for. -/
def emptyCell (sigil : Char) : Cell :=
  match sigil with
  | '@' => .list #[]
  | '%' => .table #[] 0
  | _ => .scalar .missing none

/-- Names that belong to no package. -/
def isShared (name : String) : Bool :=
  ["ENV", "ARGV", "STDIN", "STDOUT", "STDERR", "INC", "a", "b", "_"].contains name ||
    !(name.toList.head?.any Char.isAlpha)

/-- A name with its package. -/
def qualified (package name : String) : String :=
  if name.startsWith "main::" then String.ofList (name.toList.drop 6)
  else if name.startsWith "::" then String.ofList (name.toList.drop 2)
  else if name.toList.contains ':' || isShared name || package = "main" then name
  else package ++ "::" ++ name

def bindGlobal (name : Name) (address : Nat) : Work Unit :=
  modify fun s => { s with globals := (name, address) :: s.globals.filter (·.1 ≠ name) }

/-- The place of a name of the whole program, which gets one if it has none. -/
def global (name : Name) : Work Nat := do
  match (← get).globals.lookup name with
  | some address => return address
  | none =>
    let address ← alloc (emptyCell name.sigil)
    modify fun s => { s with globals := (name, address) :: s.globals }
    return address

def globalValue (name : String) : Work Value := do
  match (← get).globals.lookup ⟨'$', name⟩ with
  | some address => valueAt address
  | none => return .missing

def putGlobal (name : String) (value : Value) : Work Unit := do assignAt (← global ⟨'$', name⟩) value

/-- The place that a name leads to. -/
def placeOf (name : Name) : Work Nat := do
  let s ← get
  if name.text = "_" && name.sigil = '@' then return s.arguments
  match s.scope.lookup name with
  | some address => return address
  | none => global ⟨name.sigil, qualified s.package name.text⟩

/-- Binds a name for the rest of the block. -/
def bind (name : Name) (address : Nat) : Work Unit :=
  modify fun s =>
    let scope := (name, address) :: s.scope
    { s with scope, fileScope := if s.depth = 0 then scope else s.fileScope }

/-- Puts something back. -/
def restore : Restoration → Work Unit
  | .global name (some address) => bindGlobal name address
  | .global name none => modify fun s => { s with globals := s.globals.filter (·.1 ≠ name) }
  | .entry table key address =>
    changeEntries table fun entries =>
      match address, entries.findIdx? (·.1 = key) with
      | some address, some index => entries.set! index (key, address)
      | some address, none => entries.push (key, address)
      | none, some index => entries.eraseIdxIfInBounds index
      | none, none => entries
  | .element list index address => changeItems list fun items => items.setIfInBounds index address

/-- Puts back what has been changed since there were so many changes. -/
def restoreTo (count : Nat) : Work Unit := do
  let s ← get
  let undone := s.restorations.take (s.restorations.length - count)
  set { s with restorations := s.restorations.drop undone.length }
  for r in undone do restore r

/-- Does something at the end of work, however the work is left. -/
def leavingWith {α : Type} (work : Work α) (finish : Work Unit) : Work α := fun s =>
  match work s with
  | .ok value s =>
    match finish s with
    | .ok () s => .ok value s
    | .error jump s => .error jump s
  | .error jump s =>
    match finish s with
    | .ok () s => .error jump s
    | .error jump s => .error jump s

/-- Does the work of a block, whose names and changes do not outlive it. -/
def inBlock {α : Type} (work : Work α) : Work α := do
  let s ← get
  let (scope, finding, package, depth, count) :=
    (s.scope, s.finding, s.package, s.depth, s.restorations.length)
  set { s with depth := depth + 1 }
  leavingWith work do
    restoreTo count
    modify fun s => { s with scope, finding, package, depth }

/-- What kind of thing stands at a place. -/
def kindAt (address : Nat) : Work String := do
  match ← cellAt address with
  | .scalar (.reference _) _ => return "REF"
  | .scalar _ _ => return "SCALAR"
  | .list _ => return "ARRAY"
  | .table _ _ => return "HASH"
  | .code _ => return "CODE"
  | .handle _ => return "GLOB"

def classAt (address : Nat) : Work (Option String) :=
  return ((← get).heap.getD address default).className

/-- The text of a value. -/
def textOf (value : Value) : Work Text := do
  match value with
  | .reference address =>
    let kind ← kindAt address
    let shown := kind.toList ++ "(0x".toList ++
      Nat.toDigits 16 (Value.addressNumber address).toNat ++ [')']
    match ← classAt address with
    | some name => return name.toList ++ '=' :: shown
    | none => return shown
  | value => return value.plainText

def textAt (address : Nat) : Work Text := do textOf (← valueAt address)

/-- Where the program is, as messages tell it. -/
def whereabouts : Work Text := do
  let s ← get
  let read ← match s.lastRead with
    | none => pure []
    | some address =>
      match ← cellAt address with
      | .handle h =>
        pure (if h.lines = 0 then []
          else ", <".toList ++ h.name ++ "> line ".toList ++ Number.decimal h.lines)
      | _ => pure []
  let place :=
    if s.line = 0 then [] else " at ".toList ++ s.file ++ " line ".toList ++ Number.decimal s.line
  return place ++ read ++ ".\n".toList

/-- Fails with a message about where the program is. -/
def fail {α : Type} (message : Text) : Work α := do
  throw (.die (.text (message ++ (← whereabouts))))

/-- Keeps what the system has said. -/
def putSystemError (e : SystemError) : Work Unit :=
  putGlobal "!" (.dual ((e.number?.getD 5 : Nat) : Int) e.reason.toList)

/-- Whether work of the system has been done; a refusal is kept. -/
def succeeded (result : Except SystemError Unit) : Work Bool := do
  match result with
  | .ok () => return true
  | .error e =>
    putSystemError e
    return false

end Work

end KDispatch.Shell.Sigil
