import KDispatch.Shell.Utility.Find.Query
import KDispatch.Shell.Utility.Listing
import KDispatch.Shell.Utility.System

/-!
Finding files: directories are gone through from the outside in or from the inside out, and a query is
answered for each file in them.
-/

namespace KDispatch.Shell.Utility

namespace Find

/-- A file that a query is answered for. -/
structure Item where
  path : Text
  /-- The path that the search has begun with. -/
  start : Text
  location : Location
  node : Node
  depth : Nat

/-- The last name in the path of a file. -/
def Item.name (item : Item) : Text := baseName item.path

/-- What is kept while files are gone through. -/
structure State where
  status : Nat
  /-- Whether the directory at hand is not gone into. -/
  pruned : Bool
  stopped : Bool
  /-- The files that programs have still to be run on. -/
  waiting : List (Nat × List Text)

abbrev Work := StateT State Task

def complain (name : Text) (message : Text) : Work Unit := do
  Utility.complain name message
  modify fun s => { s with status := 1 }

/-- The names of pattern matching in which a caret may stand for an exclamation mark. -/
def patternOf (text : Text) : List Pattern.Element :=
  let rec adapted : Text → Text
    | '[' :: '^' :: rest => '[' :: '!' :: adapted rest
    | c :: rest => c :: adapted rest
    | [] => []
  Pattern.ofChars ((adapted text).map fun c => ⟨c, false⟩)

def matchesPattern (ignoresCase : Bool) (pattern text : Text) : Bool :=
  let fold (t : Text) : Text := if ignoresCase then t.map Char.toLower else t
  Pattern.isMatch (patternOf (fold pattern)) (fold text)

/-- The letter for the kind of a file. -/
def kindOf (node : Node) : Char :=
  let letter := Listing.kindLetter (some node)
  if letter = '-' then 'f' else letter

/-- Whether a file passes a test. -/
def passes (files : FileSystem) (item : Item) : FileTest → Bool
  | .always value => value
  | .name true ignoresCase pattern => matchesPattern ignoresCase pattern item.path
  | .name false ignoresCase pattern => matchesPattern ignoresCase pattern item.name
  | .regex r ignoresCase =>
    match Regex.longest (Regex.places ⟨ignoresCase, false⟩ r ⟨none, item.path, []⟩) with
    | some place => place.rest.isEmpty
    | none => false
  | .linkTarget ignoresCase pattern =>
    match item.node with
    | .link target => matchesPattern ignoresCase pattern (Task.ofPath target)
    | _ => false
  | .kind letters => letters.contains (kindOf item.node)
  | .size comparison count unit =>
    comparison.holds ((Listing.size (some item.node) + unit - 1) / unit : Nat) count
  | .empty =>
    match item.node with
    | .file content _ => content.isEmpty
    | .directory => (files.entries item.location).isEmpty
    | _ => false
  | .newer time => time < files.timeOf item.location
  | .age comparison count unit up =>
    let age := files.clock - files.timeOf item.location
    let length := (unit : Int) * 1000000000
    comparison.holds (if up then -((-age).fdiv length) else age.fdiv length) count
  | .mode sign bits =>
    let mode := files.modeOf item.location
    match sign with
    | '-' => mode &&& bits = bits
    | '/' => bits = 0 || mode &&& bits ≠ 0
    | _ => mode = bits
  | .links comparison count => comparison.holds (Listing.links files item.location) count
  | .index comparison count => comparison.holds (Listing.index files item.location) count
  | .owner isRoot => isRoot
  | .executable => item.node = .directory || files.modeOf item.location &&& 0o111 ≠ 0
  | .same location => (files.namesOf item.location).contains location

/-- The directory part of a path. -/
def directoryOf (path : Text) : Text :=
  if path.contains '/' then
    let trimmed := (path.reverse.dropWhile (· = '/')).reverse
    if trimmed.contains '/' then
      ((trimmed.reverse.dropWhile (· ≠ '/')).dropWhile (· = '/')).reverse
    else ['.']
  else ['.']

/-- What a letter behind a percent sign tells about a file; a second letter may belong to it. -/
def field (files : FileSystem) (item : Item) (letter : Char) (second : Option Char) : Option (Text × Nat) :=
  let time := files.timeOf item.location
  let seconds := time.fdiv 1000000000
  let nanoseconds := (time.fmod 1000000000).toNat
  let one (text : Text) : Option (Text × Nat) := some (text, 0)
  match letter with
  | 'p' => one item.path
  | 'f' => one item.name
  | 'h' => one (directoryOf item.path)
  | 'P' =>
    one ((item.path.drop item.start.length).dropWhile (· = '/'))
  | 'H' => one item.start
  | 'd' => one (decimal item.depth)
  | 's' => one (decimal (Listing.size (some item.node)))
  | 'b' => one (decimal (Listing.blocks (some item.node) * 8))
  | 'k' => one (decimal (Listing.blocks (some item.node) * 4))
  | 'm' => one (Nat.toDigits 8 (files.modeOf item.location))
  | 'M' => one (Listing.rights files item.location)
  | 'y' | 'Y' => one [kindOf item.node]
  | 'l' =>
    match item.node with
    | .link target => one (Task.ofPath target)
    | _ => one []
  | 'n' => one (decimal (Listing.links files item.location))
  | 'i' => one (decimal (Listing.index files item.location))
  | 'u' | 'g' => one "root".toList
  | 'U' | 'G' => one ['0']
  | 't' | 'a' | 'c' =>
    one (Calendar.formatted seconds nanoseconds "%a %b %e %H:%M:%S.%N0 %Y".toList)
  | 'T' | 'A' | 'C' =>
    match second with
    | some '@' =>
      some (Number.decimal seconds ++ '.' :: Calendar.digits 9 '0' nanoseconds ++ ['0'], 1)
    | some c => some (Calendar.formatted seconds nanoseconds ['%', c], 1)
    | none => none
  | _ => none

/-- The text that a format makes of a file. -/
def formatted (files : FileSystem) (item : Item) : (fuel : Nat) → Text → Text
  | 0, _ => []
  | _ + 1, [] => []
  | fuel + 1, '%' :: '%' :: rest => '%' :: formatted files item fuel rest
  | fuel + 1, '%' :: rest =>
    let flags := rest.takeWhile fun c => "-+ #0".toList.contains c
    let digits := (rest.drop flags.length).takeWhile Char.isDigit
    match rest.drop (flags.length + digits.length) with
    | [] => '%' :: rest
    | letter :: after =>
      match field files item letter after.head? with
      | none => '%' :: flags ++ digits ++ letter :: formatted files item fuel after
      | some (text, count) =>
        let width := (Number.digits 10 digits 0 0).1
        let room := List.replicate (width - text.length) (if flags.contains '0' then '0' else ' ')
        (if flags.contains '-' then text ++ room else room ++ text) ++
          formatted files item fuel (after.drop count)
  | fuel + 1, '\\' :: c :: rest =>
    if c = 'c' then []
    else if '0' ≤ c && c ≤ '7' then
      let digits := (c :: rest.take 2).takeWhile fun d => '0' ≤ d && d ≤ '7'
      Char.ofNat ((Number.digits 8 digits 0 0).1 % 256) ::
        formatted files item fuel (rest.drop (digits.length - 1))
    else
      let shown : Text := match c with
        | 'n' => ['\n']
        | 't' => ['\t']
        | 'r' => ['\r']
        | 'a' => [Char.ofNat 7]
        | 'b' => [Char.ofNat 8]
        | 'f' => [Char.ofNat 12]
        | 'v' => [Char.ofNat 11]
        | '\\' => ['\\']
        | c => ['\\', c]
      shown ++ formatted files item fuel rest
  | fuel + 1, c :: rest => c :: formatted files item fuel rest

/-- Runs a program and waits for it; tells whether it has succeeded. -/
def call (execute : Execute) (name : Text) (directory : Option Location) (words : List Text) :
    Task Bool := do
  let halt ← Task.child do
    match directory with
    | some location =>
      modify fun m => { m with files := { m.files with workingDirectory := location } }
    | none => pure ()
    let program := words.headD []
    match ← executeFirst execute words .notFound (← programs program) with
    | .ok status => return status
    | .error e =>
      Utility.complain name (cited program ++ ": ".toList ++ e.reason.toList)
      return 1
  return halt = .exit 0

/-- The path of a file as a program is given it. -/
def shownPath (inside : Bool) (item : Item) : Text := if inside then "./".toList ++ item.name else item.path

/-- Does something with a file; tells whether that has succeeded. -/
def act (execute : Execute) (name : Text) (item : Item) : FileAction → Work Bool
  | .print ending => do
    emit name (item.path ++ ending)
    return true
  | .format text => do
    let files := (← getThe Machine).files
    emit name (formatted files item (text.length + 1) text)
    return true
  | .prune => do
    modify fun s => { s with pruned := true }
    return true
  | .quit => do
    modify fun s => { s with stopped := true }
    return true
  | .delete => do
    if item.path = ['.'] then return true
    match item.node with
    | .directory =>
      match ← removeDirectory item.path with
      | .ok () => return true
      | .error e =>
        complain name ("cannot delete ".toList ++ quoted item.path ++ ": ".toList ++ e.reason.toList)
        return false
    | _ =>
      Task.removeAt item.location
      return true
  | .run inside words => do
    let mark := "\x7b\x7d".toList
    let shown := shownPath inside item
    let directory := if inside then some item.location.dropLast else none
    call execute name directory (words.map fun word => replaceMark mark shown (word.length + 1) word)
  | .runMany number inside words => do
    if inside then
      if !(← call execute name (some item.location.dropLast) (words ++ [shownPath true item])) then
        modify fun s => { s with status := 1 }
    else
      modify fun s =>
        let before := (s.waiting.lookup number).getD []
        { s with waiting := s.waiting.filter (·.1 ≠ number) ++ [(number, before ++ [item.path])] }
    return true

/-- Answers a query for a file. -/
def answer (execute : Execute) (name : Text) (item : Item) : Query → Work Bool
  | .test t => do
    let files := (← getThe Machine).files
    return passes files item t
  | .action a => do
    if (← get).stopped then return false else act execute name item a
  | .not q => do return !(← answer execute name item q)
  | .both a b => do
    if ← answer execute name item a then answer execute name item b else return false
  | .either a b => do
    if ← answer execute name item a then return true else answer execute name item b
  | .list a b => do
    let _ ← answer execute name item a
    answer execute name item b

/-- The programs of a query that are run on many files at once. -/
def manyPrograms : Query → List (Nat × List Text)
  | .action (.runMany number false words) => [(number, words)]
  | .not q => manyPrograms q
  | .both a b | .either a b | .list a b => manyPrograms a ++ manyPrograms b
  | _ => []

/-- Goes through a file and what is below it. -/
def visit (execute : Execute) (name : Text) (settings : Query.Settings) (query : Query) :
    (fuel : Nat) → Item → Work Unit
  | 0, _ => return
  | fuel + 1, item => do
    if (← get).stopped then return
    let look : Work Unit := do
      if settings.least ≤ item.depth then
        let _ ← answer execute name item query
    modify fun s => { s with pruned := false }
    if !settings.insideFirst then look
    let isOpen := item.node = .directory && !(← get).pruned &&
      settings.most.all (item.depth < ·)
    if isOpen && !(← get).stopped then
      for entry in (← getThe Machine).files.entries item.location do
        let files := (← getThe Machine).files
        let place := item.location ++ [entry]
        let inner : Item := { item with
          path := within item.path (Task.ofPath entry), depth := item.depth + 1,
          location := place }
        let target? :=
          match files.node? place, settings.follows with
          | some (.link target), true =>
            match files.openToRead (Task.path inner.path) with
            | .ok location => (files.node? location).map fun node => (location, node)
            | .error _ => some (place, .link target)
          | node?, _ => node?.map fun node => (place, node)
        match target? with
        | some (location, node) =>
          visit execute name settings query fuel { inner with location, node }
        | none => pure ()
    if settings.insideFirst && !(← get).stopped then look

end Find

/-- Finds files. -/
def find (execute : Execute) : Utility := fun name words => do
  let isOption (word : Text) : Bool := ["-H", "-L", "-P"].contains (String.ofList word)
  let options := words.takeWhile isOption
  let words := words.drop options.length
  let starts := words.takeWhile fun word =>
    !(word = ['('] || word = ['!'] || (word.head? = some '-' && 1 < word.length))
  let last := options.getLast?.getD "-P".toList
  match Query.ofWords (← get).files (last = "-L".toList) (words.drop starts.length) with
  | .error message =>
    for line in message.splitOn '\n' do complain name line
    return 1
  | .ok (query, settings) =>
    let search : Find.Work Unit := do
      for start in if starts.isEmpty then [['.']] else starts do
        let found ←
          if settings.follows || last = "-H".toList then do
            match ← Task.node start with
            | .ok found => pure (.ok found)
            | .error _ => Task.entry start
          else Task.entry start
        match found with
        | .error e => Find.complain name (quoted start ++ ": ".toList ++ e.reason.toList)
        | .ok (location, node) =>
          Find.visit execute name settings query 1000 ⟨start, start, location, node, 0⟩
      for (number, words) in Find.manyPrograms query do
        let paths := ((← get).waiting.lookup number).getD []
        if !paths.isEmpty then
          if !(← Find.call execute name none (words ++ paths)) then
            modify fun s => { s with status := 1 }
    let ((), state) ← search.run ⟨0, false, false, []⟩
    return state.status

end KDispatch.Shell.Utility
