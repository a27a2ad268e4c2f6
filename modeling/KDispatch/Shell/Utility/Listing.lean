import KDispatch.Shell.Utility.Files

/-!
Listing files and directories, by their names alone or with what is known about them, and telling such
facts one by one. All files belong to one user.
-/

namespace KDispatch.Shell.Utility

namespace Listing

/-- An entry of a list: the name that is shown, and where it is. -/
structure Entry where
  name : Text
  location : Location

/-- The part of a name that tells what kind of file it is, from its last dot on. -/
def extension (name : Text) : Text :=
  if name.contains '.' then '.' :: (name.reverse.takeWhile (· ≠ '.')).reverse else []

/-- How many bytes a file has; a directory has a block of them. -/
def size : Option Node → Nat
  | some (.file content _) => content.length
  | some .directory => 4096
  | some (.link target) => target.utf8ByteSize
  | _ => 0

/-- The room that a file takes, in blocks of 4096 bytes. -/
def blocks : Option Node → Nat
  | some (.file content _) => (content.length + 4095) / 4096
  | some .directory => 1
  | _ => 0

/-- The letter for the kind of a file. -/
def kindLetter : Option Node → Char
  | some .directory => 'd'
  | some (.device (.report _)) => '-'
  | some (.device _) => 'c'
  | some (.link _) => 'l'
  | some .fifo => 'p'
  | _ => '-'

/-- The rights that are shown for a file, after the letter for its kind. -/
def rights (files : FileSystem) (location : Location) : Text :=
  kindLetter (files.node? location) :: modeLetters (files.modeOf location)

/-- How many names a file has; a directory has one in each directory inside it too. -/
def links (files : FileSystem) (location : Location) : Nat :=
  match files.node? location with
  | some .directory =>
    let inside := (files.entries location).filter fun entry =>
      files.node? (location ++ [entry]) = some .directory
    2 + inside.length
  | _ => (files.namesOf location).length

/-- The place of a file in the order of their making. -/
def index (files : FileSystem) (location : Location) : Nat :=
  let first := (files.namesOf location).getLast?.getD location
  let behind := files.nodes.dropWhile fun (l, _) => l ≠ first
  100000 + behind.length

/-- A name in double quotes, with escapes. -/
def doubleQuoted (name : Text) : Text :=
  '"' :: name.flatMap (fun c =>
    if c = '"' || c = '\\' then ['\\', c] else if isShowable c then [c] else '\\' :: escapeOf c) ++ ['"']

/-- Entries in the order that is asked for. -/
def ordered (files : FileSystem) (found : Found) (entries : List Entry) : List Entry :=
  let sizeOf (e : Entry) : Nat := size (files.node? e.location)
  let sorted := entries.mergeSort fun a b => !Ordered.precedes b.name a.name
  let sorted :=
    if found.has 'U' || found.has 'f' then entries
    else if found.has 'S' then sorted.mergeSort fun a b => sizeOf b ≤ sizeOf a
    else if found.has 't' then
      sorted.mergeSort fun a b => files.timeOf b.location ≤ files.timeOf a.location
    else if found.has 'X' then
      sorted.mergeSort fun a b => !Ordered.precedes (extension b.name) (extension a.name)
    else sorted
  let sorted := if found.has 'r' then sorted.reverse else sorted
  if found.has '\x01' then
    let isDirectory (e : Entry) : Bool := files.node? e.location = some .directory
    sorted.filter isDirectory ++ sorted.filter (!isDirectory ·)
  else sorted

/-- The mark for the kind of a file. -/
def mark (found : Found) : Option Node → Text
  | some .directory => if found.has 'F' || found.has 'p' then ['/'] else []
  | some (.file _ true) => if found.has 'F' then ['*'] else []
  | some (.link _) => if found.has 'F' then ['@'] else []
  | some .fifo => if found.has 'F' then ['|'] else []
  | _ => []

/-- Whether each entry has a row of its own with all that is known about it. -/
def isLong (found : Found) : Bool :=
  found.has 'l' || found.has 'n' || found.has 'g' || found.has 'o'

/-- A name with a mark for its kind. -/
def marked (files : FileSystem) (found : Found) (e : Entry) : Text :=
  let node := files.node? e.location
  let shown (name : Text) : Text :=
    if found.has 'Q' then doubleQuoted name
    else if found.has 'b' then
      name.flatMap fun c => if c = ' ' || c = '\\' then ['\\', c] else if isShowable c then [c] else '\\' :: escapeOf c
    else if found.has 'q' then name.map fun c => if isShowable c || 128 ≤ c.toNat then c else '?'
    else name
  let name := shown e.name
  match node, isLong found with
  | some (.link target), true =>
    let leads := match files.walk true 40 e.location.dropLast [e.location.getLast?.getD ""] with
      | .ok location => files.node? location
      | .error _ => none
    name ++ " -> ".toList ++ shown (Task.ofPath target) ++ mark found leads
  | node, _ => name ++ mark found node

/-- A number of bytes with a unit, rounded up. -/
def readable (n : Nat) : Text :=
  let rec go : List Char → Nat → Text
    | [], n => decimal n
    | unit :: units, tenths =>
      if tenths ≤ 99 then decimal (tenths / 10) ++ '.' :: decimal (tenths % 10) ++ [unit]
      else if (tenths + 9) / 10 < 1024 then decimal ((tenths + 9) / 10) ++ [unit]
      else go units ((tenths + 1023) / 1024)
  if n < 1024 then decimal n else go ['K', 'M', 'G', 'T'] ((n * 10 + 1023) / 1024)

/-- When a file was changed, as it is shown: the clock is left out for other times than the last half
year. -/
def timeText (files : FileSystem) (found : Found) (location : Location) : Text :=
  let time := files.timeOf location
  let seconds := time.fdiv 1000000000
  let nanoseconds := (time.fmod 1000000000).toNat
  let now := files.clock.fdiv 1000000000
  let isRecent := now - 15778476 < seconds && seconds ≤ now
  let style := (found.last? '\x02').getD []
  let pattern :=
    if style = "full-iso".toList || found.has '\x03' then "%Y-%m-%d %H:%M:%S.%N %z".toList
    else if style = "long-iso".toList then "%Y-%m-%d %H:%M".toList
    else if style = "iso".toList then (if isRecent then "%m-%d %H:%M" else "%Y-%m-%d ").toList
    else if style.head? = some '+' then style.drop 1
    else if isRecent then "%b %e %H:%M".toList else "%b %e  %Y".toList
  Calendar.formatted seconds nanoseconds pattern

/-- Rows with all that is known about entries, in columns. -/
def longRows (files : FileSystem) (found : Found) (entries : List Entry) : Text :=
  let width (column : Entry → Text) : Nat := (entries.map fun e => (column e).length).foldl max 0
  let linksOf (e : Entry) : Text := decimal (links files e.location)
  let sizeOf (e : Entry) : Text :=
    let n := size (files.node? e.location)
    if found.has 'h' then readable n else decimal n
  let user := if found.has 'g' then "" else if found.has 'n' then "0 " else "root "
  let group := if found.has 'o' || found.has 'G' then "" else if found.has 'n' then "0 " else "root "
  let owner := (" " ++ user ++ group).toList
  let indexOf (e : Entry) : Text := decimal (index files e.location)
  unlines (entries.map fun e =>
    (if found.has 'i' then padLeft (width indexOf) (indexOf e) ++ [' '] else []) ++
      rights files e.location ++ ' ' :: padLeft (width linksOf) (linksOf e) ++
      owner ++ padLeft (width sizeOf) (sizeOf e) ++ ' ' :: timeText files found e.location ++ ' ' ::
      marked files found e)

/-- The widths of columns and the number of rows that names take within a width, the columns filled from top
to bottom or the rows from left to right. -/
def layout (down : Bool) (lengths : List Nat) : (columns : Nat) → Nat × List Nat
  | 0 => (lengths.length, [])
  | columns + 1 =>
    let count := columns + 1
    let rows := (lengths.length + count - 1) / count
    let columnOf (n : Nat) : Nat := if down then n / (max rows 1) else n % count
    let widths := (List.range count).map fun column =>
      ((lengths.zipIdx.filter fun (_, n) => columnOf n = column).map fun (length, _) =>
        length + (if column = columns then 0 else 2)).foldl max 0
    let used := (lengths.zipIdx.map fun (_, n) => columnOf n).foldl max 0
    if columns = 0 || (widths.foldl (· + ·) 0 < 80 && used = columns) then (rows, widths)
    else layout down lengths columns

/-- Names in columns. -/
def inColumns (down : Bool) (names : List Text) : Text :=
  let (rows, widths) := layout down (names.map List.length) (min names.length 26)
  let count := widths.length
  unlines ((List.range rows).map fun row =>
    let cells := (List.range count).filterMap fun column =>
      let place := if down then column * rows + row else row * count + column
      (names[place]?).map fun name => (name, widths.getD column 0)
    match cells.reverse with
    | [] => []
    | (last, _) :: before =>
      (before.reverse.flatMap fun (name, width) => name ++ List.replicate (width - name.length) ' ') ++
        last)

/-- Entries as they are shown. -/
def rows (files : FileSystem) (found : Found) (entries : List Entry) : Text :=
  if entries.isEmpty then []
  else if isLong found then longRows files found entries
  else
    let indexed (e : Entry) : Text :=
      (if found.has 'i' then decimal (index files e.location) ++ [' '] else []) ++
        (if found.has 's' then decimal (blocks (files.node? e.location) * 4) ++ [' '] else []) ++
        marked files found e
    let names := entries.map indexed
    if found.has 'm' then ", ".toList.intercalate names ++ ['\n']
    else if found.has '1' then unlines names
    else if found.has 'C' then inColumns true names
    else if found.has 'x' then inColumns false names
    else unlines names

/-- The entries of a directory that are shown. -/
def entriesOf (files : FileSystem) (found : Found) (directory : Location) : List Entry :=
  let all := (files.entries directory).map fun name =>
    (⟨Task.ofPath name, directory ++ [name]⟩ : Entry)
  let shown :=
    if found.has 'a' || found.has 'f' then
      ⟨['.'], directory⟩ :: ⟨['.', '.'], directory.dropLast⟩ :: all
    else if found.has 'A' then all
    else all.filter (·.name.head? ≠ some '.')
  ordered files found shown

/-- The room that entries take, in units of 1024 bytes; they take whole blocks. -/
def total (files : FileSystem) (entries : List Entry) : Nat :=
  entries.foldl (fun room e => room + blocks (files.node? e.location) * 4) 0

/-- What is in a directory and, if asked for, in the directories inside it. -/
def directory (files : FileSystem) (found : Found) : (fuel : Nat) → (header first : Bool) → Text →
    Location → Text
  | 0, _, _, _, _ => []
  | fuel + 1, header, first, path, location =>
    let entries := entriesOf files found location
    let title := if header then (if first then [] else ['\n']) ++ path ++ ":\n".toList else []
    let room :=
      if isLong found || found.has 's' then
        let n := total files entries
        "total ".toList ++ (if found.has 'h' then (if n = 0 then ['0'] else readable (n * 1024))
          else decimal n) ++ ['\n']
      else []
    let inside :=
      if found.has 'R' then
        entries.flatMap fun e =>
          if e.name = ['.'] || e.name = ['.', '.'] then []
          else
            match files.node? e.location with
            | some .directory => directory files found fuel true false (within path e.name) e.location
            | _ => []
      else []
    title ++ room ++ rows files found entries ++ inside

end Listing

def ls : Utility := fun name words => do
  let words := words.filter fun word => !"--color".toList.isPrefixOf word
  let found ← parse name
    ([⟨'a', "all", false⟩, ⟨'A', "almost-all", false⟩, ⟨'d', "directory", false⟩,
      ⟨'r', "reverse", false⟩, ⟨'R', "recursive", false⟩, ⟨'F', "classify", false⟩,
      ⟨'\x01', "group-directories-first", false⟩, ⟨'\x02', "time-style", true⟩,
      ⟨'\x03', "full-time", false⟩, ⟨'h', "human-readable", false⟩, ⟨'L', "dereference", false⟩,
      ⟨'Q', "quote-name", false⟩, ⟨'i', "inode", false⟩, ⟨'n', "numeric-uid-gid", false⟩,
      ⟨'s', "size", false⟩, ⟨'G', "no-group", false⟩, ⟨'B', "ignore-backups", false⟩] ++
      letters "1pCxmUtSqNbXlgoHfcuvk") 2 words
  let found := if found.has '\x03' then { found with options := ('l', []) :: found.options } else found
  let files := (← get).files
  let operands := if found.operands.isEmpty then [['.']] else found.operands
  let followsFirst := !(Listing.isLong found || found.has 'd' || found.has 'F') || found.has 'H' || found.has 'L'
  let mut status := 0
  let mut plain : List Listing.Entry := []
  let mut directories : List Listing.Entry := []
  for path in operands do
    let node ← Task.nodeWith followsFirst path
    let node ← match node with
      | .error .notFound => Task.entry path
      | node => pure node
    match node with
    | .error e =>
      complain name ("cannot access ".toList ++ quoted path ++ ": ".toList ++ e.reason.toList)
      status := 2
    | .ok (location, .directory) =>
      if found.has 'd' then plain := plain ++ [⟨path, location⟩]
      else directories := directories ++ [⟨path, location⟩]
    | .ok (location, _) =>
      if Path.endsInSlash (Task.path path) then
        complain name ("cannot access ".toList ++ quoted path ++ ": Not a directory".toList)
        status := 2
      else plain := plain ++ [⟨path, location⟩]
  emit name (Listing.rows files found (Listing.ordered files found plain))
  let headers := 1 < operands.length || found.has 'R'
  let mut first := plain.isEmpty
  for e in Listing.ordered files found directories do
    emit name (Listing.directory files found 1000 headers first e.name e.location)
    first := false
  return status

namespace Facts

/-- What a node is called. -/
def kindName : Node → String
  | .directory => "directory"
  | .file [] _ => "regular empty file"
  | .file _ _ => "regular file"
  | .device (.report _) => "regular empty file"
  | .device _ => "character special file"
  | .link _ => "symbolic link"
  | .fifo => "fifo"

/-- What a letter behind a percent sign tells about a file. -/
def field (files : FileSystem) (path : Text) (location : Location) (node : Node) (letter : Char) : Text :=
  let time := files.timeOf location
  let seconds := time.fdiv 1000000000
  let mode := files.modeOf location
  let moment : Text :=
    Calendar.formatted seconds (time.fmod 1000000000).toNat "%Y-%m-%d %H:%M:%S.%N %z".toList
  match letter with
  | 'a' => modeDigits 1 mode
  | 'A' => Listing.rights files location
  | 'b' => decimal (Listing.blocks (some node) * 8)
  | 'B' => "512".toList
  | 'd' => "64".toList
  | 'f' =>
    let kind := match node with
      | .directory => 0o040000
      | .link _ => 0o120000
      | .fifo => 0o010000
      | .device _ => 0o020000
      | .file _ _ => 0o100000
    Nat.toDigits 16 (kind + mode)
  | 'F' => (kindName node).toList
  | 'g' | 'u' => ['0']
  | 'G' | 'U' => "root".toList
  | 'h' => decimal (Listing.links files location)
  | 'i' => decimal (Listing.index files location)
  | 'm' => ['/']
  | 'n' => path
  | 'N' =>
    match node with
    | .link target => quoted path ++ " -> ".toList ++ quoted (Task.ofPath target)
    | _ => quoted path
  | 'o' => "4096".toList
  | 's' => decimal (Listing.size (some node))
  | 't' | 'T' => ['0']
  | 'x' | 'y' | 'z' => moment
  | 'w' => ['-']
  | 'W' => ['0']
  | 'X' | 'Y' | 'Z' => Number.decimal seconds
  | c => ['?', c].drop 1

/-- Facts as a format tells them; with `escapes` backslashes have a meaning. -/
def format (files : FileSystem) (escapes : Bool) (path : Text) (location : Location) (node : Node) :
    (fuel : Nat) → Text → Text
  | 0, _ => []
  | _ + 1, [] => []
  | fuel + 1, '%' :: '%' :: rest => '%' :: format files escapes path location node fuel rest
  | fuel + 1, '%' :: rest =>
    let flags := rest.takeWhile fun c => "-+ #0".toList.contains c
    let digits := (rest.drop flags.length).takeWhile Char.isDigit
    match rest.drop (flags.length + digits.length) with
    | [] => '%' :: rest
    | letter :: after =>
      let text := field files path location node letter
      let width := (Number.digits 10 digits 0 0).1
      let room := List.replicate (width - text.length) (if flags.contains '0' then '0' else ' ')
      (if flags.contains '-' then text ++ room else room ++ text) ++
        format files escapes path location node fuel after
  | fuel + 1, '\\' :: c :: rest =>
    let shown : Text :=
      if !escapes then ['\\', c]
      else
        match c with
        | 'n' => ['\n']
        | 't' => ['\t']
        | 'r' => ['\r']
        | '0' => ['\x00']
        | '\\' => ['\\']
        | '"' => ['"']
        | c => ['\\', c]
    shown ++ format files escapes path location node fuel rest
  | fuel + 1, c :: rest => c :: format files escapes path location node fuel rest

end Facts

/-- Tells facts about files. -/
def stat : Utility := fun name words => do
  let known : List Flag :=
    [⟨'c', "format", true⟩, ⟨'p', "printf", true⟩, ⟨'L', "dereference", false⟩, ⟨'t', "terse", false⟩]
  let found ← parse name known 1 words
  if found.operands.isEmpty then usage name "missing operand".toList 1
  let usual :=
    "  File: %N\n  Size: %-10s\tBlocks: %-10b IO Block: %-6o %F\n" ++
      "Device: 0,64\tInode: %-10i  Links: %h\n" ++
      "Access: (%04a/%10.10A)  Uid: (    0/    root)   Gid: (    0/    root)\n" ++
      "Access: %x\nModify: %y\nChange: %z\n Birth: %w\n"
  let mut status := 0
  for path in found.operands do
    match ← Task.nodeWith (found.has 'L') path with
    | .error e =>
      complain name ("cannot statx ".toList ++ quoted path ++ ": ".toList ++ e.reason.toList)
      status := 1
    | .ok (location, node) =>
      let files := (← get).files
      let text := match found.last? 'c', found.last? 'p' with
        | some text, _ => Facts.format files false path location node (text.length + 1) text ++ ['\n']
        | none, some text => Facts.format files true path location node (text.length + 1) text
        | none, none => Facts.format files false path location node 1000 usual.toList
      emit name text
  return status

/-- Tells the time, or another one. -/
def date : Utility := fun name words => do
  let known : List Flag :=
    [⟨'d', "date", true⟩, ⟨'u', "utc", false⟩, ⟨'u', "universal", false⟩, ⟨'R', "rfc-email", false⟩,
      ⟨'r', "reference", true⟩, ⟨'s', "set", true⟩, ⟨'I', "", false⟩, ⟨'\x01', "iso-8601", true⟩,
      ⟨'\x02', "rfc-3339", true⟩, ⟨'f', "file", true⟩]
  let words := words.flatMap fun word =>
    match word with
    | '-' :: 'I' :: (c :: rest) => ["--iso-8601=".toList ++ c :: rest]
    | word => if word = "--iso-8601".toList then ["-I".toList] else [word]
  let found ← parse name known 1 words
  let now := (← get).files.clock
  let time ← match found.last? 'd', found.last? 'r' with
    | some text, _ =>
      match Calendar.read? now text with
      | some time => pure time
      | none =>
        complain name ("invalid date ".toList ++ cited text)
        Task.exit 1
    | none, some path =>
      match ← Task.node path with
      | .ok (location, _) => do pure ((← get).files.timeOf location)
      | .error e =>
        complainOf name [] path e
        Task.exit 1
    | none, none => pure now
  let iso (precision : Text) : String :=
    match String.ofList precision with
    | "hours" => "%Y-%m-%dT%H%:z"
    | "minutes" => "%Y-%m-%dT%H:%M%:z"
    | "seconds" => "%Y-%m-%dT%H:%M:%S%:z"
    | "ns" => "%Y-%m-%dT%H:%M:%S,%N%:z"
    | _ => "%Y-%m-%d"
  let pattern : Text ←
    match found.operands with
    | [] =>
      pure (match found.last? '\x01', found.last? '\x02' with
        | some precision, _ => (iso precision).toList
        | none, some precision =>
          (match String.ofList precision with
            | "date" => "%Y-%m-%d"
            | "ns" => "%Y-%m-%d %H:%M:%S.%N%:z"
            | _ => "%Y-%m-%d %H:%M:%S%:z").toList
        | none, none =>
          (if found.has 'R' then "%a, %d %b %Y %H:%M:%S %z"
            else if found.has 'I' then "%Y-%m-%d"
            else "%a %b %e %H:%M:%S %Z %Y").toList)
    | ('+' :: pattern) :: [] => pure pattern
    | [word] =>
      complain name ("invalid date ".toList ++ cited word)
      Task.exit 1
    | _ :: extra :: _ => usage name ("extra operand ".toList ++ cited extra) 1
  emit name (Calendar.formatted (time.fdiv 1000000000) (time.fmod 1000000000).toNat pattern ++ ['\n'])
  return 0

end KDispatch.Shell.Utility
