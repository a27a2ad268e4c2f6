import KDispatch.Shell.Utility.Basic

/-!
Utilities on paths: their parts, what they lead to, and names that are not used yet.
-/

namespace KDispatch.Shell.Utility

/-- The last name in a path. -/
def baseName (path : Text) : Text :=
  let trimmed := (path.reverse.dropWhile (· = '/')).reverse
  if trimmed.isEmpty then path.take 1
  else (trimmed.reverse.takeWhile (· ≠ '/')).reverse

/-- The path without its last name. -/
def directoryName (path : Text) : Text :=
  let trimmed := (path.reverse.dropWhile (· = '/')).reverse
  if trimmed.isEmpty then (if path.isEmpty then ['.'] else ['/'])
  else
    let parent := (trimmed.reverse.dropWhile (· ≠ '/')).dropWhile (· = '/')
    if trimmed.contains '/' then (if parent.isEmpty then ['/'] else parent.reverse) else ['.']

/-- A name below a directory. -/
def within (directory name : Text) : Text :=
  if directory.getLast? = some '/' then directory ++ name else directory ++ '/' :: name

def dropSuffix (ending name : Text) : Text :=
  if ending.length < name.length && ending.isSuffixOf name then name.take (name.length - ending.length)
  else name

def basename : Utility := fun name words => do
  let known : List Flag :=
    [⟨'a', "multiple", false⟩, ⟨'s', "suffix", true⟩, ⟨'z', "zero", false⟩]
  let found ← match scan known false (words.length + 1) words with
    | .ok found => pure found
    | .error message => usage name message.toList 1
  let ending := if found.has 'z' then ['\x00'] else ['\n']
  let show_ (suffix path : Text) : Task Unit :=
    emit name (dropSuffix suffix (baseName path) ++ ending)
  match found.operands with
  | [] => usage name "missing operand".toList 1
  | operands =>
    if found.has 'a' || found.has 's' then
      for path in operands do show_ ((found.last? 's').getD []) path
    else
      match operands with
      | [path] => show_ [] path
      | [path, suffix] => show_ suffix path
      | _ :: _ :: extra :: _ => usage name ("extra operand ".toList ++ cited extra) 1
      | [] => pure ()
    return 0

def dirname : Utility := fun name words => do
  let found ← parse name [⟨'z', "zero", false⟩] 1 words
  if found.operands.isEmpty then usage name "missing operand".toList 1
  for path in found.operands do
    emit name (directoryName path ++ (if found.has 'z' then ['\x00'] else ['\n']))
  return 0

/-- The location that names lead to when nothing is looked up. -/
def lexical : Location → List String → Location
  | location, [] => location
  | location, "" :: names | location, "." :: names => lexical location names
  | location, ".." :: names => lexical location.dropLast names
  | location, name :: names => lexical (location ++ [name]) names

/-- The location that names lead to; what is missing is taken to be there. -/
def imagined (files : FileSystem) : (fuel : Nat) → Location → List String → Location
  | 0, location, names => lexical location names
  | _ + 1, location, [] => location
  | fuel + 1, location, name :: names =>
    if name = "" ∨ name = "." then imagined files fuel location names
    else if name = ".." then imagined files fuel location.dropLast names
    else
      match files.node? (location ++ [name]) with
      | some (.link target) =>
        imagined files fuel (if Path.isAbsolute target then [] else location)
          (Path.names target ++ names)
      | _ => imagined files fuel (location ++ [name]) names

/-- The names that lead from one location to another. -/
def relativeNames : (source target : Location) → List String
  | a :: source, b :: target =>
    if a = b then relativeNames source target
    else List.replicate (source.length + 1) ".." ++ b :: target
  | source, target => List.replicate source.length ".." ++ target

/-- The path that leads from one location to another. -/
def relativePath (source target : Location) : Text :=
  match relativeNames source target with
  | [] => ['.']
  | names => Task.ofPath ("/".intercalate names)

/-- How much of a path has to be there. -/
inductive Presence where
  | nothing
  /-- All but its last name. -/
  | parents
  | everything

/-- The location of a path without links in it. -/
def canonical (presence : Presence) (follows : Bool) (path : Text) :
    Task (Except SystemError Location) := do
  let files := (← get).files
  let path := Task.path path
  let base := if Path.isAbsolute path then [] else files.workingDirectory
  match presence with
  | .nothing =>
    if path = "" then return .error .notFound
    else if follows then return .ok (imagined files 1000 base (Path.names path))
    else return .ok (lexical base (Path.names path))
  | .parents =>
    if follows then return files.locate path
    else return (files.locate path).map fun _ => lexical base (Path.names path)
  | .everything =>
    match files.openToRead path with
    | .error e => return .error e
    | .ok location =>
      return .ok (if follows then location else lexical base (Path.names path))

/-- The path of what a path leads to, from the root or from a directory on. -/
def realpath : Utility := fun name words => do
  let known : List Flag :=
    [⟨'e', "canonicalize-existing", false⟩, ⟨'f', "canonicalize", false⟩,
      ⟨'m', "canonicalize-missing", false⟩, ⟨'q', "quiet", false⟩,
      ⟨'s', "strip", false⟩, ⟨'s', "no-symlinks", false⟩, ⟨'n', "no-newline", false⟩,
      ⟨'L', "logical", false⟩, ⟨'P', "physical", false⟩, ⟨'z', "zero", false⟩,
      ⟨'\x01', "relative-to", true⟩, ⟨'\x02', "relative-base", true⟩]
  let found ← parse name known 1 words
  if found.operands.isEmpty then usage name "missing operand".toList 1
  let presence : Presence :=
    if found.has 'm' then .nothing else if found.has 'e' then .everything else .parents
  let follows := !found.has 's'
  let resolve (path : Text) : Task (Option Location) := do
    match ← canonical presence follows path with
    | .ok location => return some location
    | .error e =>
      if !found.has 'q' then complainOf name [] path e
      return none
  let base? (letter : Char) : Task (Option Location) := do
    match found.last? letter with
    | none => return none
    | some path =>
      match ← resolve path with
      | some location => return some location
      | none => Task.exit 1
  let base ← base? '\x02'
  let to_ ← base? '\x01'
  let from_ := to_.or base
  let mut status := 0
  for path in found.operands do
    match ← resolve path with
    | none => status := 1
    | some location =>
      let isBelow := base.all fun base => FileSystem.isWithin base location
      let shown := match from_ with
        | some source => if isBelow then relativePath source location else Task.ofLocation location
        | none => Task.ofLocation location
      emit name (shown ++ (if found.has 'z' then ['\x00'] else if found.has 'n' then [] else ['\n']))
  return status

/-- Tells where links lead. -/
def readlink : Utility := fun name words => do
  let known : List Flag :=
    [⟨'e', "canonicalize-existing", false⟩, ⟨'f', "canonicalize", false⟩,
      ⟨'m', "canonicalize-missing", false⟩, ⟨'q', "quiet", false⟩, ⟨'s', "silent", false⟩,
      ⟨'v', "verbose", false⟩, ⟨'n', "no-newline", false⟩, ⟨'z', "zero", false⟩]
  let found ← parse name known 1 words
  if found.operands.isEmpty then usage name "missing operand".toList 1
  let presence : Presence :=
    if found.has 'm' then .nothing else if found.has 'e' then .everything else .parents
  let canonicalizes := found.has 'm' || found.has 'e' || found.has 'f'
  let ending : Text :=
    if found.has 'z' then ['\x00']
    else if found.has 'n' && found.operands.length = 1 then [] else ['\n']
  let mut status := 0
  for path in found.operands do
    let shown : Except SystemError Text ←
      if canonicalizes then do pure ((← canonical presence true path).map Task.ofLocation)
      else
        match ← Task.entry path with
        | .error e => pure (.error e)
        | .ok (_, .link target) => pure (.ok (Task.ofPath target))
        | .ok _ => pure (.error .invalidArgument)
    match shown with
    | .ok text => emit name (text ++ ending)
    | .error e =>
      if found.has 'v' then complainOf name [] path e
      status := 1
  return status

/-- Whether a path leads to a program. -/
def isProgram (files : FileSystem) (path : Text) : Bool :=
  match files.openToRead (Task.path path) with
  | .ok location =>
    match files.node? location with
    | some (.file _ executable) => executable
    | _ => false
  | .error _ => false

/-- Tells where programs are. -/
def which : Utility := fun name words => do
  let found ← parse name (letters "as") 2 words
  let path := ((← get).environment.lookup "PATH").getD []
  let mut status := if found.operands.isEmpty then 1 else 0
  for program in found.operands do
    let files := (← get).files
    let candidates :=
      if program.contains '/' then [program] else (path.splitOn ':').map (within · program)
    let known := candidates.filter (isProgram files)
    if known.isEmpty then status := 1
    for candidate in if found.has 'a' then known else known.take 1 do
      emit name (candidate ++ ['\n'])
  return status

/-- Makes a file or directory with a name that is not used yet. -/
def mktemp : Utility := fun name words => do
  let known : List Flag :=
    [⟨'d', "directory", false⟩, ⟨'q', "quiet", false⟩, ⟨'u', "dry-run", false⟩, ⟨'t', "", false⟩,
      ⟨'p', "tmpdir", true⟩, ⟨'\x01', "suffix", true⟩]
  let words := words.map fun word =>
    if word = "--tmpdir".toList then "--tmpdir=".toList else word
  let found ← parse name known 1 words
  let suffix := (found.last? '\x01').getD []
  let template := found.operands.headD "tmp.XXXXXXXXXX".toList
  let marks := (template.reverse.takeWhile (· = 'X')).length
  if marks < 3 then
    complain name ("too few X's in template ".toList ++ cited template)
    Task.exit 1
  let base := template.take (template.length - marks)
  let environment := (← get).environment
  let usual := match environment.lookup "TMPDIR" with
    | some (c :: directory) => c :: directory
    | _ => "/tmp".toList
  let directory := match found.last? 'p' with
    | some (c :: directory) => some (c :: directory)
    | some [] => some usual
    | none => if found.operands.isEmpty || found.has 't' then some usual else none
  let base := match directory with
    | some directory => within directory base
    | none => base
  let files := (← get).files
  let candidate (n : Nat) : Text :=
    base ++ List.replicate (marks - (decimal n).length) 'a' ++ decimal n ++ suffix
  let free := (List.range 1000).find? fun n =>
    !(files.openToRead (Task.path (candidate n))).isOk
  let path := candidate (free.getD 0)
  let refuse (kind : String) (e : SystemError) : Task Unit := do
    complain name (("failed to create " ++ kind ++ " via template ").toList ++
      cited (match directory with
        | some directory => within directory template
        | none => template) ++ ": ".toList ++ e.reason.toList)
    Task.exit 1
  if found.has 'u' then pure ()
  else if found.has 'd' then
    match files.makeDirectory (Task.path path) with
    | .ok files =>
      let files := match files.locate (Task.path path) with
        | .ok location => files.setMode location 0o700
        | .error _ => files
      modify fun m => { m with files }
    | .error e => refuse "directory" e
  else
    match ← Task.openFile path .write with
    | .ok _ =>
      match ← Task.locate path with
      | .ok location => modify fun m => { m with files := m.files.setMode location 0o600 }
      | .error _ => pure ()
    | .error e => refuse "file" e
  emit name (path ++ ['\n'])
  return 0

end KDispatch.Shell.Utility
