import KDispatch.Ordered
import KDispatch.Text.Utf8

/-!
File systems as values, and what the operating system reports when a file or a program cannot be used.
-/

namespace KDispatch

inductive SystemError where
  | notFound
  | execFormat
  /-- A descriptor that is not open, or not open for what is tried. -/
  | badDescriptor
  | permissionDenied
  | alreadyExists
  | notADirectory
  | isADirectory
  | textFileBusy
  | nameTooLong
  | directoryNotEmpty
  | invalidArgument
  /-- A device without room. -/
  | noSpace
  /-- Too many symbolic links on the way through a path. -/
  | tooManyLinks
  | notPermitted
  /-- A device that can be opened but not used. -/
  | inputOutput
  | noSuchDevice
  /-- A file that would become larger than a process may make it. -/
  | fileTooLarge
  /-- A path with a NUL byte. -/
  | nulInPath
  /-- A program argument with a NUL byte. -/
  | nulInArgument
  /-- Bytes that were to be read as text and are not UTF-8. -/
  | invalidText
  | other (text : String)
  deriving DecidableEq

namespace SystemError

/-- What went wrong, as the system words it. -/
def reason : SystemError → String
  | .notFound => "No such file or directory"
  | .execFormat => "Exec format error"
  | .badDescriptor => "Bad file descriptor"
  | .permissionDenied => "Permission denied"
  | .alreadyExists => "File exists"
  | .notADirectory => "Not a directory"
  | .isADirectory => "Is a directory"
  | .textFileBusy => "Text file busy"
  | .nameTooLong => "File name too long"
  | .directoryNotEmpty => "Directory not empty"
  | .invalidArgument => "Invalid argument"
  | .noSpace => "No space left on device"
  | .tooManyLinks => "Too many levels of symbolic links"
  | .notPermitted => "Operation not permitted"
  | .inputOutput => "Input/output error"
  | .noSuchDevice => "No such device or address"
  | .fileTooLarge => "File too large"
  | .nulInPath => "file name contained an unexpected NUL byte"
  | .nulInArgument => "nul byte found in provided data"
  | .invalidText => "stream did not contain valid UTF-8"
  | .other text => text

/-- The number of a system call's error. -/
def number? : SystemError → Option Nat
  | .notPermitted => some 1
  | .notFound => some 2
  | .inputOutput => some 5
  | .noSuchDevice => some 6
  | .execFormat => some 8
  | .badDescriptor => some 9
  | .permissionDenied => some 13
  | .alreadyExists => some 17
  | .notADirectory => some 20
  | .isADirectory => some 21
  | .textFileBusy => some 26
  | .nameTooLong => some 36
  | .directoryNotEmpty => some 39
  | .invalidArgument => some 22
  | .fileTooLarge => some 27
  | .noSpace => some 28
  | .tooManyLinks => some 40
  | .nulInPath | .nulInArgument | .invalidText | .other _ => none

def message (e : SystemError) : String :=
  match e.number? with
  | some n => e.reason ++ " (os error " ++ toString n ++ ")"
  | none => e.reason

end SystemError

/-! ## File systems

File systems as values: directories, regular files, devices and symbolic links at locations, which are
lists of names from the root, and a working directory. `node?` says what stands at a location, `put` and
`erase` change it at one location, and `replace` does so under all names of a file.
-/

/-- The names from the root to a file or directory. -/
abbrev Location := List String

inductive Device where
  /-- Takes all bytes and holds none. -/
  | null
  /-- Takes no bytes. -/
  | full
  /-- Takes all bytes and gives zeros. -/
  | zeros
  /-- What a descriptor of the process that opens it leads to; 0 to 2 are its standard input, output and
  error. -/
  | descriptor (number : Nat)
  /-- Gives bytes that look random. -/
  | noise
  /-- The terminal, of which there is none. -/
  | terminal
  /-- Tells something about the system and takes no bytes. -/
  | report (content : String)
  deriving DecidableEq

inductive Node where
  | directory
  | file (content : Bytes) (executable : Bool)
  | device (device : Device)
  /-- A symbolic link, which stands for another path. -/
  | link (target : String)
  /-- A pipe with a name. -/
  | fifo
  deriving DecidableEq

/-- What is known about a node besides what it is. -/
structure Details where
  /-- The rights of the user, the group and others as three octal digits, unless they are the usual
  ones. -/
  mode : Option Nat
  /-- When it was changed last, in nanoseconds since 1970. -/
  changed : Option Int
  deriving DecidableEq

structure FileSystem where
  workingDirectory : Location
  nodes : List (Location × Node)
  /-- The names of each file that has several. -/
  shared : List (List Location)
  details : List (Location × Details)
  /-- The time, in nanoseconds since 1970. -/
  clock : Int
  deriving DecidableEq

namespace FileSystem

/-- The time at which all files have been there: the first day of 2026. -/
def startTime : Int := 1767225600000000000

/-- A file system with nodes that have been there all the time. -/
def ofNodes (workingDirectory : Location) (nodes : List (Location × Node)) : FileSystem :=
  ⟨workingDirectory, nodes, [], [], startTime⟩

/-- What stands at a location; the root is always a directory. -/
def node? (fs : FileSystem) (location : Location) : Option Node :=
  if location = [] then some .directory else fs.nodes.lookup location

/-- The file system with the locations that have a property, and nothing at any other one. -/
def restrict (fs : FileSystem) (keeps : Location → Bool) : FileSystem :=
  { fs with
    nodes := fs.nodes.filter fun (location, _) => keeps location
    shared := (fs.shared.map (·.filter keeps)).filter (1 < ·.length)
    details := fs.details.filter fun (location, _) => keeps location }

/-- Takes away what stands at a location. -/
def erase (fs : FileSystem) (location : Location) : FileSystem := fs.restrict (· ≠ location)

/-- Places a node at a location. -/
def put (fs : FileSystem) (location : Location) (node : Node) : FileSystem :=
  { fs with nodes := (location, node) :: fs.nodes.filter (·.1 ≠ location) }

/-- All names of what stands at a location. -/
def namesOf (fs : FileSystem) (location : Location) : List Location :=
  (fs.shared.find? (·.contains location)).getD [location]

/-- Places a node under all names of what stands at a location. -/
def replace (fs : FileSystem) (location : Location) (node : Node) : FileSystem :=
  (fs.namesOf location).foldl (fun fs name => fs.put name node) fs

def details? (fs : FileSystem) (location : Location) : Details :=
  (fs.details.lookup location).getD ⟨none, none⟩

/-- Changes the details of what stands at a location, under all its names. -/
def changeDetails (fs : FileSystem) (location : Location) (change : Details → Details) :
    FileSystem :=
  let names := fs.namesOf location
  let next := change (fs.details? location)
  { fs with
    details := names.map (fun name => (name, next)) ++
      fs.details.filter fun (location, _) => !names.contains location }

/-- When what stands at a location was changed last. -/
def timeOf (fs : FileSystem) (location : Location) : Int :=
  (fs.details? location).changed.getD startTime

/-- Records that what stands at a location is changed now. -/
def stamp (fs : FileSystem) (location : Location) : FileSystem :=
  if fs.timeOf location = fs.clock then fs
  else fs.changeDetails location fun d => { d with changed := some fs.clock }

/-- The bytes of the regular file at a location. -/
def content? (fs : FileSystem) (location : Location) : Option Bytes :=
  match fs.node? location with
  | some (.file content _) => some content
  | _ => none

@[simp] theorem workingDirectory_put (fs : FileSystem) (location : Location) (node : Node) :
    (fs.put location node).workingDirectory = fs.workingDirectory := rfl

@[simp] theorem workingDirectory_erase (fs : FileSystem) (location : Location) :
    (fs.erase location).workingDirectory = fs.workingDirectory := rfl

theorem lookup_filter_ne (nodes : List (Location × Node)) {l m : Location} (h : m ≠ l) :
    (nodes.filter (·.1 ≠ l)).lookup m = nodes.lookup m := by
  induction nodes with
  | nil => rfl
  | cons e nodes ih =>
    rcases e with ⟨k, n⟩
    by_cases hk : k = l
    · subst hk
      have hm : (m == k) = false := by simpa using h
      simpa [List.lookup_cons, hm] using ih
    · by_cases hm : m = k <;> simp_all [List.lookup_cons]

theorem node?_put_of_ne (fs : FileSystem) (node : Node) {l m : Location} (h : m ≠ l) :
    (fs.put l node).node? m = fs.node? m := by
  have hm : (m == l) = false := by simpa using h
  unfold node? put
  rw [List.lookup_cons, hm, lookup_filter_ne fs.nodes h]

@[simp] theorem node?_put_self (fs : FileSystem) (node : Node) {l : Location} (h : l ≠ []) :
    (fs.put l node).node? l = some node := by
  simp [node?, put, h]

theorem node?_erase_of_ne (fs : FileSystem) {l m : Location} (h : m ≠ l) :
    (fs.erase l).node? m = fs.node? m := by
  have hf : (fs.erase l).nodes = fs.nodes.filter (·.1 ≠ l) := by simp [erase, restrict]
  unfold node?
  rw [hf, lookup_filter_ne fs.nodes h]

end FileSystem

end KDispatch

/-! ## Trees

What stands below a directory: its entries, and removing or moving a directory with all that is in it.
-/

namespace KDispatch.FileSystem

/-- Whether a location is the given one or lies below it. -/
def isWithin (top location : Location) : Bool := top.isPrefixOf location

/-- The names in a directory, in the order of their characters. -/
def entries (fs : FileSystem) (directory : Location) : List String :=
  let names := fs.nodes.filterMap fun (location, _) =>
    match location.getLast? with
    | some name => if location.dropLast = directory then some name else none
    | none => none
  names.mergeSort fun a b => !Ordered.nameBefore b a

/-- Takes away what stands at a location and all that is below it. -/
def eraseTree (fs : FileSystem) (top : Location) : FileSystem :=
  fs.restrict fun location => !isWithin top location

/-- The location after `source` has been moved to `target`. -/
def movedLocation (source target location : Location) : Location :=
  if isWithin source location then target ++ location.drop source.length else location

/-- Moves what stands at a location, with all that is below it, in place of what is at the target. -/
def move (fs : FileSystem) (source target : Location) : FileSystem :=
  let cleared := fs.eraseTree target
  let moved := movedLocation source target
  { cleared with
    nodes := cleared.nodes.map fun (location, node) => (moved location, node)
    shared := cleared.shared.map (·.map moved)
    details := cleared.details.map fun (location, details) => (moved location, details) }

/-- Gives what stands at a location another name. -/
def share (fs : FileSystem) (location name : Location) (node : Node) : FileSystem :=
  let names := fs.namesOf location
  let details := fs.details? location
  let fs := fs.put name node
  { fs with
    shared := (name :: names) :: fs.shared.filter (!·.contains location)
    details := (name, details) :: fs.details }

/-- The rights of what stands at a location, as three octal digits. -/
def modeOf (fs : FileSystem) (location : Location) : Nat :=
  match (fs.details? location).mode with
  | some mode => mode
  | none =>
    match fs.node? location with
    | some .directory => 0o755
    | some (.file _ true) => 0o755
    | some (.device (.report _)) => 0o444
    | some (.device _) => 0o666
    | some (.link _) => 0o777
    | _ => 0o644

/-- Sets the rights of what stands at a location. -/
def setMode (fs : FileSystem) (location : Location) (mode : Nat) : FileSystem :=
  let fs := match fs.node? location with
    | some (.file content _) => fs.replace location (.file content (mode &&& 0o111 ≠ 0))
    | _ => fs
  fs.changeDetails location fun d => { d with mode := some mode }

end KDispatch.FileSystem
