import KDispatch.Shell.Utility.Files

/-!
Utilities that copy, move, link and install files and directories.
-/

namespace KDispatch.Shell.Utility

/-- How files are copied or moved. -/
structure Transfer where
  name : Text
  found : Found

/-- The targets of sources: each its own path, or a name in the directory that is the last operand. -/
def destinations (name : Text) (found : Found) : Task (List (Text × Text)) := do
  let isDirectory (path : Text) : Task Bool := do
    let node ← if found.has 'N' then Task.entry path else Task.node path
    match node with
    | .ok (_, .directory) => return true
    | _ => return false
  match found.last? 't', found.operands with
  | some directory, sources =>
    if sources.isEmpty then usage name "missing file operand".toList 1
    if !(← isDirectory directory) then
      let reason : SystemError := match ← Task.node directory with
        | .ok _ => .notADirectory
        | .error e => e
      complain name ("target directory ".toList ++ quoted directory ++ ": ".toList ++ reason.reason.toList)
      Task.exit 1
    return sources.map fun s => (s, within directory (baseName s))
  | none, [] => usage name "missing file operand".toList 1
  | none, [only] => usage name ("missing destination file operand after ".toList ++ quoted only) 1
  | none, operands =>
    let last := operands.getLast?.getD []
    let sources := operands.dropLast
    if found.has 'T' then
      match sources with
      | [source] => return [(source, last)]
      | _ => usage name ("extra operand ".toList ++ cited (operands.getD 2 [])) 1
    else if ← isDirectory last then return sources.map fun s => (s, within last (baseName s))
    else
      match sources with
      | [source] => return [(source, last)]
      | _ =>
        let reason : SystemError := match ← Task.node last with
          | .ok _ => .notADirectory
          | .error e => e
        complain name ("target ".toList ++ quoted last ++ ": ".toList ++ reason.reason.toList)
        Task.exit 1

/-- Tells what has been copied where if that is asked for. -/
def Transfer.tell (t : Transfer) (source target : Text) : Task Unit := do
  if t.found.has 'v' then
    emit t.name (quoted source ++ " -> ".toList ++ quoted target ++ ['\n'])

def Transfer.fail (t : Transfer) (message : Text) : Task Bool := do
  complain t.name message
  return false

/-- Whether two locations are names of one file. -/
def sameFile (files : FileSystem) (a b : Location) : Bool := (files.namesOf a).contains b

/-- Whether rights and times are copied too. -/
def Transfer.preserves (t : Transfer) : Bool := t.found.has 'p' || t.found.has 'a'

/-- Gives the copy of a file the time and the rights of the file. -/
def Transfer.preserve (t : Transfer) (from_ : Location) (target : Text) : Task Unit := do
  if t.preserves then
    match (← get).files.locateEntry (Task.path target) with
    | .error _ => pure ()
    | .ok to_ =>
      modify fun m =>
        let files := m.files
        let isLink := match files.node? to_ with
          | some (.link _) => true
          | _ => false
        let files := if isLink then files else files.setMode to_ (files.modeOf from_)
        { m with
          files := files.changeDetails to_ fun d => { d with changed := some (files.timeOf from_) } }

/-- Writes the copy of a file, which gets the given rights if it is new. -/
def Transfer.write (t : Transfer) (source target : Text) (content : Bytes) (mode : Option Nat) :
    Task Bool := do
  match ← Task.openFile target .write with
  | .error e =>
    let e := if Path.endsInSlash (Task.path target) && e = .isADirectory then .notADirectory else e
    t.fail ("cannot create regular file ".toList ++ quoted target ++ ": ".toList ++ e.reason.toList)
  | .ok number =>
    match mode, (← get).files.locate (Task.path target) with
    | some mode, .ok location =>
      modify fun m => { m with files := m.files.setMode location (withoutBits mode m.mask) }
    | _, _ => pure ()
    match ← Task.writeTo number (ByteText.ofBytes content) with
    | .ok () =>
      t.tell source target
      return true
    | .error e =>
      t.fail ("error writing ".toList ++ quoted target ++ ": ".toList ++ e.reason.toList)

/-- Makes the directory that a directory is copied to. -/
def Transfer.makeDirectory (t : Transfer) (source target : Text) : Task Bool := do
  match (← get).files.makeDirectory (Task.path target) with
  | .ok files =>
    modify fun m => { m with files }
    t.tell source target
    return true
  | .error e =>
    t.fail ("cannot create directory ".toList ++ quoted target ++ ": ".toList ++ e.reason.toList)

/-- Puts a node that is no file with content at a path, in place of what is there. -/
def Transfer.place (t : Transfer) (source target : Text) (node : Node) : Task Bool := do
  match (← get).files.locateEntry (Task.path target) with
  | .error e =>
    t.fail ("cannot create symbolic link ".toList ++ quoted target ++ ": ".toList ++ e.reason.toList)
  | .ok location =>
    Task.removeAt location
    modify fun m => { m with files := (m.files.put location node).stamp location }
    t.tell source target
    return true

/-- Whether a link is copied as what it leads to. -/
def Transfer.follows (t : Transfer) (top : Bool) : Bool :=
  let recursive := t.found.has 'r' || t.found.has 'R' || t.found.has 'a'
  if t.found.has 'L' then true
  else if t.found.has 'P' || t.found.has 'd' || t.found.has 'a' then false
  else if t.found.has 'H' then top
  else !recursive

/-- Makes a link in place of a copy. -/
def Transfer.link (t : Transfer) (source target : Text) (from_ : Location) (node : Node) : Task Bool := do
  if t.found.has 's' then t.place source target (.link (Task.path source))
  else
    match (← get).files.locateEntry (Task.path target) with
    | .error e =>
      t.fail ("cannot create hard link ".toList ++ quoted target ++ " to ".toList ++ quoted source ++
        ": ".toList ++ e.reason.toList)
    | .ok location =>
      Task.removeAt location
      modify fun m => { m with files := m.files.share from_ location node }
      t.tell source target
      return true

/-- Copies one file or directory; `false` if something could not be copied. -/
def copy (t : Transfer) : (fuel : Nat) → (top : Bool) → (source target : Text) → Task Bool
  | 0, _, _, _ => return true
  | fuel + 1, top, source, target => do
    match ← Task.nodeWith (t.follows top) source with
    | .error e => t.fail ("cannot stat ".toList ++ quoted source ++ ": ".toList ++ e.reason.toList)
    | .ok (from_, .directory) =>
      if !(t.found.has 'r' || t.found.has 'R' || t.found.has 'a') then
        t.fail ("-r not specified; omitting directory ".toList ++ quoted source)
      else
        let inside := match (← get).files.locate (Task.path target) with
          | .ok to_ => FileSystem.isWithin from_ to_
          | .error _ => false
        let ready ←
          match ← Task.node target with
          | .ok (_, .directory) => pure true
          | .ok _ =>
            t.fail ("cannot overwrite non-directory ".toList ++ quoted target ++
              " with directory ".toList ++ quoted source)
          | .error _ =>
            if inside then
              t.fail ("cannot copy a directory, ".toList ++ quoted source ++ ", into itself, ".toList ++
                quoted target)
            else t.makeDirectory source target
        if !ready then return false
        let mut done := true
        for entry in (← get).files.entries from_ do
          let entry := Task.ofPath entry
          let copied ← copy t fuel false (within source entry) (within target entry)
          if !copied then done := false
        t.preserve from_ target
        return done
    | .ok (from_, .link text) =>
      match ← Task.entry target with
      | .ok (to_, .directory) =>
        if from_ = to_ then return true
        else
          t.fail ("cannot overwrite directory ".toList ++ quoted target ++ " with non-directory".toList)
      | .ok (to_, _) =>
        if from_ = to_ then
          t.fail (quoted source ++ " and ".toList ++ quoted target ++ " are the same file".toList)
        else t.place source target (.link text)
      | .error _ => t.place source target (.link text)
    | .ok (from_, .file content executable) =>
      let write (mode : Option Nat) : Task Bool := do
        if t.found.has 's' || t.found.has 'l' then
          t.link source target from_ (.file content executable)
        else
          let done ← t.write source target content mode
          if done then t.preserve from_ target
          return done
      match ← Task.node target with
      | .ok (_, .directory) =>
        t.fail ("cannot overwrite directory ".toList ++ quoted target ++ " with non-directory".toList)
      | .ok (to_, _) =>
        let files := (← get).files
        if sameFile files from_ to_ then
          if t.found.has 'l' then return true
          else t.fail (quoted source ++ " and ".toList ++ quoted target ++ " are the same file".toList)
        else if t.found.has 'n' then return true
        else if t.found.has 'u' && files.timeOf from_ ≤ files.timeOf to_ then return true
        else if t.found.has 'i' then
          if ← confirm t.name ("overwrite ".toList ++ quoted target) then write none else return false
        else if (t.found.has 's' || t.found.has 'l') && !t.found.has 'f' then
          t.fail ("cannot create ".toList ++ (if t.found.has 's' then "symbolic" else "hard").toList ++
            " link ".toList ++ quoted target ++
            (if t.found.has 's' then [] else " to ".toList ++ quoted source) ++ ": File exists".toList)
        else
          if t.found.has '\x01' then
            match ← Task.entry target with
            | .ok (location, _) => Task.removeAt location
            | .error _ => pure ()
            write (some ((← get).files.modeOf from_))
          else write none
      | .error _ =>
        match ← Task.entry target with
        | .ok (_, .link _) =>
          t.fail ("not writing through dangling symlink ".toList ++ quoted target)
        | _ => write (some ((← get).files.modeOf from_))
    | .ok (_, .fifo) => t.place source target .fifo
    | .ok (_, .device (.report text)) => t.write source target (utf8 text) none
    | .ok (_, .device _) => t.write source target [] none

/-- The directories above a path that are made with it, from the outside in. -/
def parentsOf (path : Text) : List Text := (pathsTo path).dropLast

def cp : Utility := fun name words => do
  let known : List Flag :=
    [⟨'r', "recursive", false⟩, ⟨'R', "", false⟩, ⟨'a', "archive", false⟩, ⟨'p', "", false⟩,
      ⟨'f', "force", false⟩, ⟨'i', "interactive", false⟩, ⟨'n', "no-clobber", false⟩,
      ⟨'v', "verbose", false⟩, ⟨'u', "update", false⟩, ⟨'L', "dereference", false⟩,
      ⟨'P', "no-dereference", false⟩, ⟨'d', "", false⟩, ⟨'H', "", false⟩, ⟨'s', "symbolic-link", false⟩,
      ⟨'l', "link", false⟩, ⟨'T', "no-target-directory", false⟩, ⟨'t', "target-directory", true⟩,
      ⟨'\x01', "remove-destination", false⟩, ⟨'\x02', "parents", false⟩]
  let words := words.map fun word =>
    if "--preserve".toList.isPrefixOf word then "-p".toList else word
  let found ← parse name known 1 words
  let mut status := 0
  let targets ← destinations name found
  let last := (found.last? 't').getD (found.operands.getLast?.getD [])
  for (source, target) in targets do
    let t : Transfer := ⟨name, found⟩
    if found.has '\x02' then
      let target := within last source
      for directory in parentsOf source do
        if !(← Task.node (within last directory)).isOk then
          let _ ← t.makeDirectory directory (within last directory)
      if !(← copy t 100 true source target) then status := 1
    else
      if !(← copy t 100 true source target) then status := 1
  return status

/-- Moves one file or directory; `false` if that is impossible. -/
def moveOne (t : Transfer) (source target : Text) : Task Bool := do
  let fail (message : Text) : Task Bool := do
    complain t.name message
    return false
  let same := quoted source ++ " and ".toList ++ quoted target ++ " are the same file".toList
  match ← Task.entry source with
  | .error e => fail ("cannot stat ".toList ++ quoted source ++ ": ".toList ++ e.reason.toList)
  | .ok (from_, node) =>
    let moved (to_ : Location) : Task Bool := do
      Task.moveTo from_ to_
      if t.found.has 'v' then
        emit t.name ("renamed ".toList ++ quoted source ++ " -> ".toList ++ quoted target ++ ['\n'])
      return true
    match ← Task.entry target with
    | .ok (to_, existing) =>
      let files := (← get).files
      if from_ = to_ then fail same
      else if t.found.has 'n' then return true
      else if t.found.has 'u' && files.timeOf from_ ≤ files.timeOf to_ then return true
      else
        match node, existing with
        | .directory, .directory =>
          if FileSystem.isWithin from_ to_ then
            fail ("cannot move ".toList ++ quoted source ++ " to a subdirectory of itself, ".toList ++
              quoted target)
          else if (files.entries to_).isEmpty then moved to_
          else
            fail ("cannot overwrite ".toList ++ quoted target ++ ": Directory not empty".toList)
        | .directory, _ =>
          fail ("cannot overwrite non-directory ".toList ++ quoted target ++
            " with directory ".toList ++ quoted source)
        | _, .directory =>
          fail ("cannot overwrite directory ".toList ++ quoted target ++ " with non-directory".toList)
        | _, _ =>
          let agreed ←
            if t.found.has 'i' then confirm t.name ("overwrite ".toList ++ quoted target)
            else pure true
          if !agreed then return false
          else if sameFile files from_ to_ then
            Task.removeAt from_
            return true
          else moved to_
    | .error _ =>
      let located := (← get).files.locateEntry
        (if node = .directory then Path.dropTrailingSlashes (Task.path target) else Task.path target)
      match located with
      | .ok to_ =>
        if Path.endsInSlash (Task.path target) && node ≠ .directory then
          fail ("cannot move ".toList ++ quoted source ++ " to ".toList ++ quoted target ++
            ": Not a directory".toList)
        else if FileSystem.isWithin from_ to_ then
          fail ("cannot move ".toList ++ quoted source ++ " to a subdirectory of itself, ".toList ++
            quoted target)
        else moved to_
      | .error e =>
        let endsInSlash := Path.endsInSlash (Task.path target) && node ≠ .directory
        let files := (← get).files
        let parent := files.locate (Path.dropTrailingSlashes (Task.path target))
        let e := if endsInSlash && parent.isOk then .notADirectory else e
        fail ("cannot move ".toList ++ quoted source ++ " to ".toList ++ quoted target ++
          ": ".toList ++ e.reason.toList)

def mv : Utility := fun name words => do
  let known : List Flag :=
    [⟨'f', "force", false⟩, ⟨'i', "interactive", false⟩, ⟨'n', "no-clobber", false⟩,
      ⟨'v', "verbose", false⟩, ⟨'u', "update", false⟩, ⟨'T', "no-target-directory", false⟩,
      ⟨'t', "target-directory", true⟩]
  let found ← parse name known 1 words
  let mut status := 0
  for (source, target) in ← destinations name found do
    if !(← moveOne ⟨name, found⟩ source target) then status := 1
  return status

/-- Makes one symbolic or hard link. -/
def linkOne (name : Text) (found : Found) (source target : Text) : Task Bool := do
  let symbolic := found.has 's'
  let kind := if symbolic then "symbolic" else "hard"
  let refuse (e : SystemError) : Task Bool := do
    let leads := !symbolic && e ≠ .alreadyExists
    complain name (("failed to create " ++ kind ++ " link ").toList ++ quoted target ++
      (if leads then " => ".toList ++ quoted source else []) ++ ": ".toList ++ e.reason.toList)
    return false
  let made (node : Node) (from_ : Option Location) (shown : Text) : Task Bool := do
    match ← Task.entry target with
    | .ok (to_, existing) =>
      if from_.any fun l => l = to_ then
        complain name (quoted source ++ " and ".toList ++ quoted target ++ " are the same file".toList)
        return false
      else if existing = .directory && found.has 'f' then
        complain name (target ++ ": cannot overwrite directory".toList)
        return false
      else if !found.has 'f' then refuse .alreadyExists
      else
        Task.removeAt to_
        put to_ node from_ shown
    | .error .notFound =>
      match (← get).files.locateEntry (Task.path target) with
      | .ok to_ =>
        if Path.endsInSlash (Task.path target) then refuse .notFound else put to_ node from_ shown
      | .error e => refuse e
    | .error e => refuse e
  if symbolic then
    if source.isEmpty then refuse .notFound
    else
      let text ←
        if found.has 'r' then do
          let files := (← get).files
          let parent := directoryName target
          let located (path : Text) : Location :=
            imagined files 1000
              (if Path.isAbsolute (Task.path path) then [] else files.workingDirectory)
              (Path.names (Task.path path))
          pure (relativePath (located parent) (located source))
        else pure source
      made (.link (Task.path text)) none text
  else
    match ← Task.nodeWith (found.has 'L') source with
    | .error e =>
      complain name ("failed to access ".toList ++ quoted source ++ ": ".toList ++ e.reason.toList)
      return false
    | .ok (_, .directory) =>
      complain name (source ++ ": hard link not allowed for directory".toList)
      return false
    | .ok (from_, node) => made node (some from_) source
where
  put (to_ : Location) (node : Node) (from_ : Option Location) (shown : Text) : Task Bool := do
    modify fun m =>
      { m with
        files := match from_ with
          | some from_ => m.files.share from_ to_ node
          | none => (m.files.put to_ node).stamp to_ }
    if found.has 'v' then
      emit name (quoted target ++ (if from_.isSome then " => " else " -> ").toList ++ quoted shown ++
        ['\n'])
    return true

/-- Gives files further names, or makes links to them. -/
def ln : Utility := fun name words => do
  let known : List Flag :=
    [⟨'s', "symbolic", false⟩, ⟨'f', "force", false⟩, ⟨'v', "verbose", false⟩,
      ⟨'N', "no-dereference", false⟩, ⟨'n', "", false⟩, ⟨'r', "relative", false⟩, ⟨'i', "interactive", false⟩,
      ⟨'L', "logical", false⟩, ⟨'P', "physical", false⟩, ⟨'T', "no-target-directory", false⟩,
      ⟨'t', "target-directory", true⟩]
  let found ← parse name known 1 words
  let options := found.options.map fun (letter, text) => (if letter = 'n' then 'N' else letter, text)
  let found := { found with options }
  let operands := match found.operands with
    | [only] => if (found.last? 't').isSome then [only] else [only, ['.']]
    | operands => operands
  let mut status := 0
  for (source, target) in ← destinations name { found with operands } do
    if !(← linkOne name found source target) then status := 1
  return status

/-- Gives a file one further name. -/
def link : Utility := fun name words => do
  let found ← parse name [] 1 words
  match found.operands with
  | [] => usage name "missing operand".toList 1
  | [only] => usage name ("missing operand after ".toList ++ cited only) 1
  | [source, target] =>
    let refuse (e : SystemError) : Task Nat := do
      complain name ("cannot create link ".toList ++ quoted target ++ " to ".toList ++ quoted source ++
        ": ".toList ++ e.reason.toList)
      return 1
    match ← Task.entry source, ← Task.entry target with
    | .error e, _ => refuse e
    | .ok (_, .directory), _ => refuse .notPermitted
    | _, .ok _ => refuse .alreadyExists
    | .ok (from_, node), .error _ =>
      match (← get).files.locateEntry (Task.path target) with
      | .error e => refuse e
      | .ok to_ =>
        modify fun m => { m with files := m.files.share from_ to_ node }
        return 0
  | _ :: _ :: extra :: _ => usage name ("extra operand ".toList ++ cited extra) 1

/-- Copies files and sets their rights. -/
def install : Utility := fun name words => do
  let known : List Flag :=
    [⟨'m', "mode", true⟩, ⟨'d', "directory", false⟩, ⟨'D', "", false⟩, ⟨'v', "verbose", false⟩,
      ⟨'c', "", false⟩, ⟨'C', "compare", false⟩, ⟨'p', "preserve-timestamps", false⟩,
      ⟨'s', "strip", false⟩, ⟨'o', "owner", true⟩, ⟨'g', "group", true⟩, ⟨'b', "", false⟩,
      ⟨'T', "no-target-directory", false⟩, ⟨'t', "target-directory", true⟩]
  let found ← parse name known 1 words
  let mode ← match found.last? 'm' with
    | none => pure 0o755
    | some change =>
      match changedMode? 0 found.operands.isEmpty change 0 with
      | some mode => pure mode
      | none =>
        complain name ("invalid mode ".toList ++ cited change)
        Task.exit 1
  let mut status := 0
  if found.has 'd' then
    if found.operands.isEmpty then usage name "missing file operand".toList 1
    for path in found.operands do
      let files := (← get).files
      match files.makeDirectories (Task.path path) with
      | .ok made =>
        modify fun m => { m with files := made }
        for directory in pathsTo path do
          if !(files.openToRead (Task.path directory)).isOk && found.has 'v' then
            emit name (name ++ ": creating directory ".toList ++ quoted directory ++ ['\n'])
        setDirectoryMode path mode
      | .error e =>
        complain name ("cannot create directory ".toList ++ quoted path ++ ": ".toList ++
          e.reason.toList)
        status := 1
    return status
  if found.has 'D' then
    let target := match found.last? 't' with
      | some directory => some directory
      | none => if found.operands.length < 2 then none
        else (found.operands.getLast?).map directoryName
    let files := (← get).files
    match target.map fun directory => files.makeDirectories (Task.path directory) with
    | some (.ok files) => modify fun m => { m with files }
    | _ => pure ()
  for (source, target) in ← destinations name found do
    match ← Task.node source with
    | .error e =>
      complain name ("cannot stat ".toList ++ quoted source ++ ": ".toList ++ e.reason.toList)
      status := 1
    | .ok (_, .directory) =>
      complain name ("omitting directory ".toList ++ quoted source)
      status := 1
    | .ok (from_, node) =>
      let bytes := match node with
        | .file content _ => content
        | _ => []
      match ← Task.entry target with
      | .ok (to_, .directory) =>
        complain name ("cannot overwrite directory ".toList ++ quoted target ++
          " with non-directory".toList)
        status := if to_ = from_ then 1 else 1
      | existing =>
        let files := (← get).files
        let same := match existing with
          | .ok (to_, _) => sameFile files from_ to_
          | .error _ => false
        if same then
          complain name (quoted source ++ " and ".toList ++ quoted target ++ " are the same file".toList)
          status := 1
        else
          match existing with
          | .ok (to_, _) => Task.removeAt to_
          | .error _ => pure ()
          if ← Transfer.write ⟨name, found⟩ source target bytes none then
            match ← Task.locate target with
            | .ok to_ => modify fun m => { m with files := m.files.setMode to_ mode }
            | .error _ => pure ()
          else status := 1
  return status

end KDispatch.Shell.Utility
