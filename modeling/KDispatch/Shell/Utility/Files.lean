import KDispatch.Shell.Utility.Calendar
import KDispatch.Shell.Utility.Paths

/-!
Utilities that make and remove files and directories, and set their rights, times and sizes. Rights are given
in digits or letters.
-/

namespace KDispatch.Shell.Utility

/-- Three letters for the rights of one kind of user. -/
def rightLetters (n : Nat) : Text :=
  [if n &&& 4 ≠ 0 then 'r' else '-', if n &&& 2 ≠ 0 then 'w' else '-',
    if n &&& 1 ≠ 0 then 'x' else '-']

/-- The nine letters of a mode; special rights stand in place of those to execute. -/
def modeLetters (mode : Nat) : Text :=
  let special (bit : Nat) (letter : Char) (text : Text) : Text :=
    if mode &&& bit = 0 then text
    else text.take 2 ++ [if text.getLast? = some 'x' then letter else letter.toUpper]
  special 0o4000 's' (rightLetters (mode / 64)) ++ special 0o2000 's' (rightLetters (mode / 8)) ++
    special 0o1000 't' (rightLetters mode)

/-- A mode in octal digits. -/
def modeDigits (width mode : Nat) : Text :=
  let digits := Nat.toDigits 8 mode
  List.replicate (width - digits.length) '0' ++ digits

/-- Bits for those who are named by letters. -/
def whoBits (who : Text) (bits : Nat) : Nat :=
  let everyone := who.isEmpty || who.contains 'a'
  (if everyone || who.contains 'u' then bits * 64 else 0) |||
    (if everyone || who.contains 'g' then bits * 8 else 0) |||
    (if everyone || who.contains 'o' then bits else 0)

/-- The bits that letters behind a sign stand for. -/
def givenBits (who letters : Text) (isDirectory : Bool) (mode : Nat) : Option Nat :=
  match letters with
  | ['u'] => some (whoBits who (mode / 64 % 8))
  | ['g'] => some (whoBits who (mode / 8 % 8))
  | ['o'] => some (whoBits who (mode % 8))
  | letters =>
    letters.foldl (fun bits c =>
      bits.bind fun bits =>
        match c with
        | 'r' => some (bits ||| whoBits who 4)
        | 'w' => some (bits ||| whoBits who 2)
        | 'x' => some (bits ||| whoBits who 1)
        | 'X' =>
          some (if isDirectory || mode &&& 0o111 ≠ 0 then bits ||| whoBits who 1 else bits)
        | 's' =>
          let set (letter : Char) (bit : Nat) : Nat :=
            if who.isEmpty || who.contains 'a' || who.contains letter then bit else 0
          some (bits ||| set 'u' 0o4000 ||| set 'g' 0o2000)
        | 't' => some (bits ||| 0o1000)
        | _ => none) (some 0)

/-- The mode without some bits. -/
def withoutBits (mode bits : Nat) : Nat := mode - (mode &&& bits)

/-- The changes by a sign and letters, one after the other. -/
def changeBy (mask : Nat) (who : Text) (isDirectory : Bool) : (fuel : Nat) → Text → Nat → Option Nat
  | 0, _, mode => some mode
  | _ + 1, [], mode => some mode
  | fuel + 1, sign :: rest, mode =>
    let letters := rest.takeWhile fun c => c ≠ '+' && c ≠ '-' && c ≠ '='
    (givenBits who letters isDirectory mode).bind fun bits =>
      let bits := if who.isEmpty then withoutBits bits mask else bits
      let next? : Option Nat :=
        match sign with
        | '+' => some (mode ||| bits)
        | '-' => some (withoutBits mode bits)
        | '=' => some (withoutBits mode (whoBits who 7) ||| bits)
        | _ => none
      next?.bind (changeBy mask who isDirectory fuel (rest.drop letters.length))

/-- The mode after a change, or nothing if it is no change. -/
def changedMode? (mask : Nat) (isDirectory : Bool) (change : Text) (mode : Nat) : Option Nat :=
  if !change.isEmpty && change.all fun c => '0' ≤ c && c ≤ '7' then
    let n := (Number.digits 8 change 0 0).1
    if n < 4096 then some n else none
  else
    (change.splitOn ',').foldl (fun mode clause =>
      mode.bind fun mode =>
        let who := clause.takeWhile fun c => c = 'u' || c = 'g' || c = 'o' || c = 'a'
        match clause.drop who.length with
        | [] => none
        | rest => changeBy mask who isDirectory (rest.length + 1) rest mode) (some mode)

/-- The locations at and below one, from the outside in. -/
def locationsBelow (files : FileSystem) : (fuel : Nat) → Text → Location → List (Text × Location)
  | 0, _, _ => []
  | fuel + 1, path, location =>
    (path, location) ::
      match files.node? location with
      | some .directory =>
        (files.entries location).flatMap fun entry =>
          locationsBelow files fuel (within path (Task.ofPath entry)) (location ++ [entry])
      | _ => []

def chmod : Utility := fun name words => do
  let known : List Flag :=
    [⟨'R', "recursive", false⟩, ⟨'f', "silent", false⟩, ⟨'f', "quiet", false⟩,
      ⟨'v', "verbose", false⟩, ⟨'c', "changes", false⟩, ⟨'\x01', "reference", true⟩]
  let isMode (word : Text) : Bool :=
    match word with
    | '-' :: c :: _ => "rwxXst".toList.contains c
    | _ => false
  let (modes, words) := match words.find? isMode with
    | some mode => ([mode], words.erase mode)
    | none => ([], words)
  let found ← parse name known 1 words
  let modes ← match found.last? '\x01' with
    | none => pure modes
    | some path => do
      match ← Task.node path with
      | .ok (location, _) => pure [modeDigits 3 ((← get).files.modeOf location)]
      | .error e =>
        complain name ("failed to get attributes of ".toList ++ quoted path ++ ": ".toList ++
          e.reason.toList)
        Task.exit 1
  match modes ++ found.operands with
  | [] => usage name "missing operand".toList 1
  | [mode] => usage name ("missing operand after ".toList ++ cited mode) 1
  | mode :: paths =>
    let mask := (← get).mask
    if (changedMode? mask false mode 0).isNone then
      usage name ("invalid mode: ".toList ++ cited mode) 1
    let mut status := 0
    for path in paths do
      match ← Task.node path with
      | .error e =>
        if !found.has 'f' then
          let dangling := (← Task.entry path).isOk
          complain name
            ((if dangling then "cannot operate on dangling symlink ".toList ++ quoted path
              else "cannot access ".toList ++ quoted path ++ ": ".toList ++ e.reason.toList))
        status := 1
      | .ok (location, _) =>
        let files := (← get).files
        let places :=
          if found.has 'R' then locationsBelow files 1000 path location else [(path, location)]
        for (path, location) in places do
          let files := (← get).files
          let isLink := match files.node? location with
            | some (.link _) => true
            | _ => false
          if !isLink then
            let before := files.modeOf location
            let isDirectory := files.node? location = some .directory
            let next := (changedMode? mask isDirectory mode before).getD before
            modify fun m => { m with files := m.files.setMode location next }
            let shown (n : Nat) : Text :=
              modeDigits 4 n ++ " (".toList ++ modeLetters n ++ [')']
            if found.has 'v' || (found.has 'c' && before ≠ next) then
              emit name ("mode of ".toList ++ quoted path ++
                (if before = next then " retained as ".toList ++ shown next
                  else " changed from ".toList ++ shown before ++ " to ".toList ++ shown next) ++ ['\n'])
    return status

/-! Utilities that make and remove files and directories, and set their times and sizes. -/

/-- The beginning of a path up to the first of its names that is a file. -/
def pathToFile (files : FileSystem) (path : Text) : Text :=
  let starts := (List.range path.length).filter fun n => path[n]? = some '/' && 0 < n
  let isFile (start : Text) : Bool :=
    match files.locate (Task.path start) with
    | .ok location =>
      match files.node? location with
      | some .directory | none => false
      | some _ => true
    | .error _ => false
  ((starts.map path.take).find? isFile).getD path

/-- The beginnings of a path up to each of its names. -/
def pathsTo (path : Text) : List Text :=
  let trimmed := (path.reverse.dropWhile (· = '/')).reverse
  let ends := (List.range trimmed.length).filter fun n =>
    0 < n && trimmed[n]? = some '/' && trimmed[n - 1]? ≠ some '/'
  ends.map trimmed.take ++ [path]

/-- Sets the rights of a directory that has just been made. -/
def setDirectoryMode (path : Text) (mode : Nat) : Task Unit := do
  match ← Task.locate path with
  | .ok location =>
    if mode ≠ 0o755 then modify fun m => { m with files := m.files.setMode location mode }
  | .error _ => pure ()

def mkdir : Utility := fun name words => do
  let known : List Flag :=
    [⟨'p', "parents", false⟩, ⟨'m', "mode", true⟩, ⟨'v', "verbose", false⟩]
  let found ← parse name known 1 words
  if found.operands.isEmpty then usage name "missing operand".toList 1
  let mask := (← get).mask
  let usual := withoutBits 0o777 mask
  let mode ← match found.last? 'm' with
    | none => pure usual
    | some change =>
      match changedMode? mask true change 0o777 with
      | some mode => pure mode
      | none =>
        complain name ("invalid mode ".toList ++ cited change)
        Task.exit 1
  let mut status := 0
  for path in found.operands do
    let files := (← get).files
    let missing (directory : Text) : Bool := !(files.openToRead (Task.path directory)).isOk
    let made :=
      if found.has 'p' then files.makeDirectories (Task.path path)
      else files.makeDirectory (Task.path path)
    match made with
    | .ok made =>
      modify fun m => { m with files := made }
      for directory in if found.has 'p' then pathsTo path else [path] do
        if missing directory then
          setDirectoryMode directory (if directory = path then mode else usual)
          if found.has 'v' then
            emit name (name ++ ": created directory ".toList ++ quoted directory ++ ['\n'])
    | .error e =>
      let shown := if found.has 'p' then pathToFile files path else path
      complain name
        ("cannot create directory ".toList ++ quoted shown ++ ": ".toList ++ e.reason.toList)
      status := 1
  return status

/-- Removes an empty directory. -/
def removeDirectory (path : Text) : Task (Except SystemError Unit) := do
  match ← Task.entry (Task.ofPath (Path.dropTrailingSlashes (Task.path path))) with
  | .error e => return .error e
  | .ok (location, .directory) =>
    if baseName path = ['.'] then return .error .invalidArgument
    else if !((← get).files.entries location).isEmpty then return .error .directoryNotEmpty
    else
      Task.removeAt location
      return .ok ()
  | .ok _ => return .error .notADirectory

def rmdir : Utility := fun name words => do
  let known : List Flag :=
    [⟨'p', "parents", false⟩, ⟨'v', "verbose", false⟩, ⟨'i', "ignore-fail-on-non-empty", false⟩]
  let found ← parse name known 1 words
  if found.operands.isEmpty then usage name "missing operand".toList 1
  let rec parents : (fuel : Nat) → Text → List Text
    | 0, _ => []
    | fuel + 1, path =>
      if path.contains '/' then
        let parent := directoryName path
        if parent = ['/'] then [] else parent :: parents fuel parent
      else []
  let mut status := 0
  for path in found.operands do
    let all := path :: (if found.has 'p' then parents path.length path else [])
    let mut failed := false
    for directory in all do
      if !failed then
        if found.has 'v' then
          emit name (name ++ ": removing directory, ".toList ++ quoted directory ++ ['\n'])
        match ← removeDirectory directory with
        | .ok () => pure ()
        | .error e =>
          failed := true
          if !(e = .directoryNotEmpty && found.has 'i') then
            complain name ("failed to remove ".toList ++
              (if directory = path then [] else "directory ".toList) ++ quoted directory ++
              ": ".toList ++ e.reason.toList)
            status := 1
  return status

/-- The paths of what is removed with a path, from the inside out. -/
def removalOrder (files : FileSystem) : (fuel : Nat) → Text → Location → List (Text × Bool)
  | 0, _, _ => []
  | fuel + 1, path, location =>
    match files.node? location with
    | some .directory =>
      (files.entries location).flatMap (fun entry =>
        removalOrder files fuel (within path (Task.ofPath entry)) (location ++ [entry])) ++
        [(path, true)]
    | _ => [(path, false)]

/-- What a node is called where it is to be removed. -/
def kindToRemove : Node → String
  | .file [] _ => "regular empty file "
  | .file _ _ => "regular file "
  | .directory => "directory "
  | .link _ => "symbolic link "
  | .fifo => "fifo "
  | .device _ => "character special file "

def rm : Utility := fun name words => do
  let known : List Flag :=
    [⟨'f', "force", false⟩, ⟨'i', "", false⟩, ⟨'I', "", false⟩, ⟨'r', "recursive", false⟩,
      ⟨'R', "", false⟩, ⟨'d', "dir", false⟩, ⟨'v', "verbose", false⟩]
  let found ← parse name known 1 words
  let recursive := found.has 'r' || found.has 'R'
  let force := found.has 'f'
  if found.operands.isEmpty && !force then usage name "missing operand".toList 1
  let mut status := 0
  for path in found.operands do
    let refuse (reason : String) : Task Unit :=
      complain name ("cannot remove ".toList ++ quoted path ++ (": " ++ reason).toList)
    let base := baseName path
    match ← Task.entry path with
    | .error e =>
      if !(force && (e = .notFound || e = .notADirectory)) then
        refuse e.reason
        status := 1
    | .ok (location, .directory) =>
      let isLink := match ← Task.entry (Task.ofPath (Path.dropTrailingSlashes (Task.path path))) with
        | .ok (_, .link _) => true
        | _ => false
      if recursive then
        if isLink then
          refuse "Not a directory"
          status := 1
        else if location.isEmpty then
          complain name "it is dangerous to operate recursively on '/'".toList
          complain name "use --no-preserve-root to override this failsafe".toList
          status := 1
        else if base = ['.'] || base = ['.', '.'] then
          complain name
            ("refusing to remove '.' or '..' directory: skipping ".toList ++ quoted path)
          status := 1
        else
          if found.has 'v' then
            let files := (← get).files
            for (removed, isDirectory) in removalOrder files 1000 path location do
              emit name ((if isDirectory then "removed directory " else "removed ").toList ++
                quoted removed ++ ['\n'])
          Task.removeAt location
      else if found.has 'd' then
        match ← removeDirectory path with
        | .ok () => pure ()
        | .error e =>
          refuse e.reason
          status := 1
      else
        refuse "Is a directory"
        status := 1
    | .ok (location, node) =>
      if Path.endsInSlash (Task.path path) then
        refuse "Not a directory"
        status := 1
      else
        let question := "remove ".toList ++ (kindToRemove node).toList ++ quoted path
        let agreed ← if found.has 'i' then confirm name question else pure true
        if agreed then
          Task.removeAt location
          if found.has 'v' then emit name ("removed ".toList ++ quoted path ++ ['\n'])
  return status

/-- Removes one name of a file. -/
def unlink : Utility := fun name words => do
  let found ← parse name [] 1 words
  match found.operands with
  | [] => usage name "missing operand".toList 1
  | [path] =>
    let refuse (e : SystemError) : Task Nat := do
      complain name ("cannot unlink ".toList ++ quoted path ++ ": ".toList ++ e.reason.toList)
      return 1
    match ← Task.entry path with
    | .error e => refuse e
    | .ok (_, .directory) => refuse .isADirectory
    | .ok (location, _) =>
      Task.removeAt location
      return 0
  | _ :: extra :: _ => usage name ("extra operand ".toList ++ cited extra) 1

/-- Makes pipes with names. -/
def mkfifo : Utility := fun name words => do
  let found ← parse name [⟨'m', "mode", true⟩] 1 words
  if found.operands.isEmpty then usage name "missing operand".toList 1
  let mut status := 0
  for path in found.operands do
    let refuse (e : SystemError) : Task Unit :=
      complain name ("cannot create fifo ".toList ++ quoted path ++ ": ".toList ++ e.reason.toList)
    let files := (← get).files
    match files.locateEntry (Task.path path) with
    | .error e =>
      refuse e
      status := 1
    | .ok location =>
      if (files.node? location).isSome then
        refuse .alreadyExists
        status := 1
      else modify fun m => { m with files := (m.files.put location .fifo).stamp location }
  return status

/-- The time that the options of `touch` ask for. -/
def touchTime (name : Text) (found : Found) : Task (Option Int) := do
  let now := (← get).files.clock
  match found.last? 'd', found.last? 't', found.last? 'r' with
  | some text, _, reference => do
    let base ← match reference with
      | some path =>
        match ← Task.locate path with
        | .ok location => pure ((← get).files.timeOf location)
        | .error _ => pure now
      | none => pure now
    match Calendar.read? base text with
    | some time => return some time
    | none =>
      complain name ("invalid date format ".toList ++ cited text)
      Task.exit 1
  | none, some text, _ =>
    match Calendar.ofStamp? now text with
    | some time => return some time
    | none =>
      complain name ("invalid date format ".toList ++ cited text)
      Task.exit 1
  | none, none, some path =>
    match ← Task.node path with
    | .ok (location, _) => return some ((← get).files.timeOf location)
    | .error e =>
      complain name ("failed to get attributes of ".toList ++ quoted path ++ ": ".toList ++
        e.reason.toList)
      Task.exit 1
  | none, none, none => return none

def touch : Utility := fun name words => do
  let known : List Flag :=
    [⟨'a', "", false⟩, ⟨'c', "no-create", false⟩, ⟨'m', "", false⟩, ⟨'d', "date", true⟩,
      ⟨'t', "", true⟩, ⟨'r', "reference", true⟩, ⟨'h', "no-dereference", false⟩, ⟨'f', "", false⟩]
  let found ← parse name known 1 words
  let time ← touchTime name found
  if found.operands.isEmpty then usage name "missing file operand".toList 1
  let setTime (location : Location) : Task Unit :=
    modify fun m =>
      { m with
        files := m.files.changeDetails location fun d =>
          { d with changed := some (time.getD m.files.clock) } }
  let mut status := 0
  for path in found.operands do
    let refuse (e : SystemError) : Task Unit :=
      complain name ((if Path.endsInSlash (Task.path path)
        then "setting times of " else "cannot touch ").toList ++
          quoted path ++ ": ".toList ++ e.reason.toList)
    match ← if found.has 'h' then Task.entry path else Task.node path with
    | .ok (location, _) => if !(found.has 'a' && !found.has 'm') then setTime location
    | .error .notFound =>
      if !found.has 'c' && !found.has 'h' then
        match ← Task.openFile path .append with
        | .ok _ =>
          match ← Task.locate path with
          | .ok location => if time.isSome then setTime location
          | .error _ => pure ()
        | .error e =>
          refuse (if Path.endsInSlash (Task.path path) then .notFound else e)
          status := 1
      else if found.has 'h' then
        refuse .notFound
        status := 1
    | .error e =>
      refuse e
      status := 1
  return status

/-- A size with a unit, and the sign before it. -/
def sizeWithUnit? (text : Text) : Option (Option Char × Nat) :=
  let (sign, rest) : Option Char × Text :=
    match text with
    | c :: rest => if "+-<>/%".toList.contains c then (some c, rest) else (none, text)
    | [] => (none, [])
  match Number.digits 10 rest 0 0 with
  | (_, 0, _) => none
  | (n, _, unit) =>
    let factor? : Option Nat :=
      match String.ofList unit with
      | "" => some 1
      | "K" | "k" | "KiB" => some 1024
      | "KB" | "kB" => some 1000
      | "M" | "MiB" => some 1048576
      | "MB" => some 1000000
      | "G" | "GiB" => some 1073741824
      | _ => none
    factor?.map fun factor => (sign, n * factor)

/-- The size of a file after a change. -/
def changedSize (sign : Option Char) (n size : Nat) : Nat :=
  match sign with
  | some '+' => size + n
  | some '-' => size - n
  | some '<' => min size n
  | some '>' => max size n
  | some '/' => if n = 0 then size else size / n * n
  | some '%' => if n = 0 then size else (size + n - 1) / n * n
  | _ => n

/-- Sets the sizes of files. -/
def truncate : Utility := fun name words => do
  let known : List Flag :=
    [⟨'c', "no-create", false⟩, ⟨'o', "io-blocks", false⟩, ⟨'r', "reference", true⟩,
      ⟨'s', "size", true⟩]
  let found ← parse name known 1 words
  let change : Option Char × Nat ←
    match found.last? 's', found.last? 'r' with
    | some text, _ =>
      match sizeWithUnit? text with
      | some change => pure change
      | none =>
        complain name ("Invalid number: ".toList ++ cited text)
        Task.exit 1
    | none, some path =>
      match ← Task.node path with
      | .ok (_, .file content _) => pure (none, content.length)
      | .ok _ => pure (none, 0)
      | .error e =>
        complain name ("cannot stat ".toList ++ quoted path ++ ": ".toList ++ e.reason.toList)
        Task.exit 1
    | none, none => usage name "you must specify either '--size' or '--reference'".toList 1
  if found.operands.isEmpty then usage name "missing file operand".toList 1
  let mut status := 0
  for path in found.operands do
    let exists_ := (← Task.node path).isOk
    if exists_ || !found.has 'c' then
      match ← Task.openFile path .append with
      | .error e =>
        complain name ("cannot open ".toList ++ quoted path ++ " for writing: ".toList ++
          e.reason.toList)
        status := 1
      | .ok _ =>
        match ← Task.node path with
        | .ok (location, .file content executable) =>
          let size := changedSize change.1 change.2 content.length
          let next := content.take size ++ List.replicate (size - content.length) 0
          modify fun m =>
            { m with files := (m.files.replace location (.file next executable)).stamp location }
        | _ => pure ()
  return status

end KDispatch.Shell.Utility
