import KDispatch.Shell.Utility.Basic

/-!
Utilities that pass parts of their input on: whole files, their beginnings and ends, counts, and pieces, which
become files with names in order.
-/

namespace KDispatch.Shell.Utility

/-- A character as `cat -v` shows it. -/
def visible (tabs : Bool) (c : Char) : Text :=
  let low (n : Nat) : Text :=
    if n < 32 then ['^', Char.ofNat (n + 64)] else if n = 127 then ['^', '?'] else [Char.ofNat n]
  let n := c.toNat
  if c = '\n' || (c = '\t' && !tabs) then [c]
  else if n < 128 then low n
  else ['M', '-'] ++ low (n - 128)

structure CatState where
  number : Nat
  atStart : Bool
  blanks : Nat

/-- Lines with numbers and with characters made visible. -/
def catLines (found : Found) : List Text → CatState → Text × CatState
  | [], state => ([], state)
  | line :: rest, state =>
    let has := found.has
    let ended := line.getLast? = some '\n'
    let body := if ended then line.dropLast else line
    let blank := state.atStart && line = ['\n']
    let blanks := if blank then state.blanks + 1 else 0
    if blank && has 's' && 1 < blanks then catLines found rest { state with blanks }
    else
      let numbered := state.atStart && (if has 'b' then !blank else has 'n')
      let start := if numbered then padLeft 6 (decimal (state.number + 1)) ++ ['\t'] else []
      let shows := has 'v' || has 'A' || has 'e' || has 't'
      let tabs := has 'T' || has 'A' || has 't'
      let inner :=
        if shows then body.flatMap (visible tabs)
        else if tabs then body.flatMap fun c => if c = '\t' then ['^', 'I'] else [c]
        else body
      let last :=
        if !ended then [] else if has 'E' || has 'A' || has 'e' then ['$', '\n'] else ['\n']
      let next : CatState :=
        { number := if numbered then state.number + 1 else state.number, atStart := ended, blanks }
      let (more, final) := catLines found rest next
      (start ++ inner ++ last ++ more, final)

/-- Whether a file is the one that standard output goes to, and has something that would be copied. -/
def isOutput (file : Text) : Task Bool := do
  let m ← get
  match (m.description? 1).bind (m.descriptions[·]?), m.files.locate (Task.path file) with
  | some d, .ok location =>
    let size := ((m.files.content? location).getD []).length
    return d.stream = .file location && 0 < (if d.appends then size else d.offset)
  | _, _ => return false

def cat : Utility := fun name words => do
  let known : List Flag :=
    [⟨'A', "show-all", false⟩, ⟨'b', "number-nonblank", false⟩, ⟨'e', "", false⟩,
      ⟨'E', "show-ends", false⟩, ⟨'n', "number", false⟩, ⟨'s', "squeeze-blank", false⟩,
      ⟨'t', "", false⟩, ⟨'T', "show-tabs", false⟩, ⟨'u', "", false⟩,
      ⟨'v', "show-nonprinting", false⟩]
  let found ← parse name known 1 words
  if ((← get).description? 1).isNone then emit name []
  let plain := found.options.all (·.1 = 'u')
  let mut state : CatState := ⟨0, true, 0⟩
  let mut status := 0
  for file in inputs found.operands do
    let isSame ← if file = ['-'] then pure false else isOutput file
    if isSame then
      complain name (named file ++ ": input file is output file".toList)
      status := 1
    else
      match ← content file with
      | .error e =>
        complainOf name [] file e
        status := 1
      | .ok text =>
        if plain then emit name text
        else
          let (shown, next) := catLines found (fullLines text) state
          state := next
          emit name shown
  return status

/-- A count of lines or bytes: its sign and its value. -/
structure Count where
  sign : Option Char
  value : Nat

def Count.ofText? (text : Text) : Option Count :=
  let (sign, digits) := match text with
    | '-' :: rest => (some '-', rest)
    | '+' :: rest => (some '+', rest)
    | rest => (none, rest)
  match Number.digits 10 digits 0 0 with
  | (_, 0, _) => none
  | (value, _, []) => some ⟨sign, value⟩
  | (value, _, ['k']) | (value, _, ['K']) => some ⟨sign, value * 1024⟩
  | (value, _, ['b']) => some ⟨sign, value * 512⟩
  | (value, _, ['M']) => some ⟨sign, value * 1048576⟩
  | _ => none

/-- What `head` and `tail` take: so many bytes or lines. -/
structure Portion where
  bytes : Bool
  count : Count

/-- The portion that options ask for, the last one of them. -/
def portion (name : Text) (found : Found) : Task Portion := do
  match (found.options.filter fun o => o.1 = 'n' || o.1 = 'c').getLast? with
  | none => return ⟨false, ⟨none, 10⟩⟩
  | some (letter, text) =>
    match Count.ofText? text with
    | some count => return ⟨letter = 'c', count⟩
    | none =>
      complain name
        ((if letter = 'c' then "invalid number of bytes: " else "invalid number of lines: ").toList ++
          cited text)
      Task.exit 1

/-- A first word that is a hyphen or plus sign and a number stands for a count of lines. -/
def expandCount (plus : Bool) : List Text → List Text
  | (sign :: c :: digits) :: rest =>
    if (sign = '-' || (plus && sign = '+')) && c.isDigit && (c :: digits).all Char.isDigit then
      ['-', 'n'] :: (if sign = '+' then '+' :: c :: digits else c :: digits) :: rest
    else (sign :: c :: digits) :: rest
  | words => words

def Portion.atStart (portion : Portion) (text : Text) : Text :=
  let n := portion.count.value
  match portion.bytes, portion.count.sign with
  | true, some '-' => text.take (text.length - n)
  | true, _ => text.take n
  | false, some '-' =>
    let all := fullLines text
    (all.take (all.length - n)).flatten
  | false, _ => ((fullLines text).take n).flatten

def Portion.atEnd (portion : Portion) (text : Text) : Text :=
  let n := portion.count.value
  match portion.bytes, portion.count.sign with
  | true, some '+' => text.drop (n - 1)
  | true, _ => text.drop (text.length - n)
  | false, some '+' => ((fullLines text).drop (n - 1)).flatten
  | false, _ =>
    let all := fullLines text
    (all.drop (all.length - n)).flatten

/-- Whether reading from standard input can be taken back in part. -/
def canGoBack : Task Bool := do
  let m ← get
  match (m.description? 0).bind (m.descriptions[·]?) with
  | some d =>
    return match d.stream with
      | .file _ | .removed _ => true
      | _ => false
  | none => return false

/-- Shows a part of each file, with its name above it if there are several. -/
def showParts (name : Text) (found : Found) (fromInput : Task (Except SystemError Text))
    (part : Text → Text) : Task Nat := do
  let files := inputs found.operands
  let headers := (1 < files.length || found.has 'v') && !found.has 'q'
  let mut status := 0
  let mut first := true
  for file in files do
    let result ← if file = ['-'] then fromInput else Task.readFile file
    let announce (first : Bool) : Task Unit := do
      if headers then
        let title := if file = ['-'] then "standard input".toList else file
        emit name ((if first then [] else ['\n']) ++ "==> ".toList ++ title ++ " <==\n".toList)
    match result with
    | .ok text =>
      announce first
      first := false
      emit name (part text)
    | .error .isADirectory =>
      announce first
      first := false
      complain name ("error reading ".toList ++ quoted file ++ ": Is a directory".toList)
      status := 1
    | .error e =>
      complain name
        ("cannot open ".toList ++ quoted file ++ " for reading: ".toList ++ e.reason.toList)
      status := 1
  return status

def headFlags : List Flag :=
  [⟨'n', "lines", true⟩, ⟨'c', "bytes", true⟩, ⟨'q', "quiet", false⟩, ⟨'v', "verbose", false⟩]

def head : Utility := fun name words => do
  let found ← parse name headFlags 1 (expandCount false words)
  let portion ← portion name found
  let back ← canGoBack
  let part (bytes : Bytes) : Bytes :=
    if back || (portion.bytes && portion.count.sign.isNone) then
      bytes.take (portion.atStart (ByteText.ofBytes bytes)).length
    else bytes
  showParts name found (Task.readWith 0 part) portion.atStart

def tail : Utility := fun name words => do
  let known := headFlags ++ [⟨'f', "follow", false⟩, ⟨'z', "", false⟩]
  let found ← parse name known 1 (expandCount true words)
  let portion ← portion name found
  showParts name found (Task.readAll 0) portion.atEnd

def tac : Utility := fun name words => do
  let found ← parse name [] 1 words
  let reversed (text : Text) : Text :=
    let all := fullLines text
    all.reverse.flatten
  let mut status := 0
  for file in inputs found.operands do
    match ← content file with
    | .ok text => emit name (reversed text)
    | .error .isADirectory =>
      complain name (named file ++ ": read error: Is a directory".toList)
      status := 1
    | .error e =>
      complain name
        ("failed to open ".toList ++ quoted file ++ " for reading: ".toList ++ e.reason.toList)
      status := 1
  return status

/-- Turns every line round. -/
def rev : Utility := fun name words => do
  let found ← parse name [] 1 words
  let mut status := 0
  for file in inputs found.operands do
    match ← content file with
    | .ok text =>
      emit name ((fullLines text).flatMap fun line =>
        if line.getLast? = some '\n' then line.dropLast.reverse ++ ['\n'] else line.reverse)
    | .error e =>
      complain name ("cannot open ".toList ++ file ++ ": ".toList ++ e.reason.toList)
      status := 1
  return status

/-- The counts of a text: lines, words, bytes and the length of its longest line. -/
structure Counts where
  lines : Nat
  words : Nat
  bytes : Nat
  longest : Nat

def Counts.zero : Counts := ⟨0, 0, 0, 0⟩

/-- The number of words in a text; `inWord` tells whether one has begun. -/
def countWords : Text → (inWord : Bool) → Nat
  | [], _ => 0
  | c :: rest, inWord =>
    if Number.isSpace c then countWords rest false
    else (if inWord then 0 else 1) + countWords rest true

/-- The width of a line, in which tabs go to the next multiple of eight. -/
def lineWidth (line : Text) : Nat :=
  line.foldl (fun width c => if c = '\t' then width + 8 - width % 8
    else if 32 ≤ c.toNat && c.toNat < 127 then width + 1 else width) 0

def Counts.ofText (text : Text) : Counts where
  lines := text.count '\n'
  words := countWords text false
  bytes := text.length
  longest := ((text.splitOn '\n').map lineWidth).foldl max 0

def Counts.add (a b : Counts) : Counts :=
  ⟨a.lines + b.lines, a.words + b.words, a.bytes + b.bytes, max a.longest b.longest⟩

/-- The counts that are asked for; lines, words and bytes if nothing is. -/
def Counts.chosen (found : Found) (counts : Counts) : List Nat :=
  if found.options.isEmpty then [counts.lines, counts.words, counts.bytes]
  else
    (if found.has 'l' then [counts.lines] else []) ++
      (if found.has 'w' then [counts.words] else []) ++
      (if found.has 'm' then [counts.bytes] else []) ++
      (if found.has 'c' then [counts.bytes] else []) ++
      (if found.has 'L' then [counts.longest] else [])

/-- The size of a file if it is a regular one, or `none` for standard input and other files. -/
def sizeOf (file : Text) : Task (Except SystemError (Option Nat)) := do
  let m ← get
  if file = ['-'] then
    match (m.description? 0).bind (m.descriptions[·]?) with
    | some ⟨.file location, _, _, _, _⟩ =>
      return .ok ((m.files.content? location).map (·.length))
    | _ => return .ok none
  else
    match ← Task.node file with
    | .ok (_, .file content _) => return .ok (some content.length)
    | .ok _ => return .ok none
    | .error e => return .error e

/-- The width of the columns for the counts of files. -/
def countWidth (files : List Text) (single : Bool) : Task Nat := do
  if single && files.length = 1 then return 1
  let mut total := 0
  let mut least := 1
  let mut first := true
  for file in files do
    match ← sizeOf file with
    | .ok (some size) => total := total + size
    | .ok none => least := 7
    | .error _ => if first then return 1
    first := false
  return max least (decimal total).length

def wc : Utility := fun name words => do
  let known : List Flag :=
    [⟨'l', "lines", false⟩, ⟨'w', "words", false⟩, ⟨'c', "bytes", false⟩, ⟨'m', "chars", false⟩,
      ⟨'L', "max-line-length", false⟩]
  let found ← parse name known 1 words
  let files := inputs found.operands
  let single := (Counts.chosen found Counts.zero).length = 1
  let width ← countWidth files single
  let row (counts : Counts) (title : Text) : Text :=
    [' '].intercalate ((counts.chosen found).map fun n => padLeft width (decimal n)) ++
      (if title.isEmpty then [] else ' ' :: title) ++ ['\n']
  let mut total := Counts.zero
  let mut status := 0
  for file in files do
    match ← content file with
    | .ok text =>
      let counts := Counts.ofText text
      total := total.add counts
      emit name (row counts (if found.operands.isEmpty then [] else file))
    | .error e =>
      if file.isEmpty then complain name "invalid zero-length file name".toList
      else complainOf name [] file e
      status := 1
      if e = .isADirectory then emit name (row Counts.zero file)
  if 1 < files.length then emit name (row total "total".toList)
  return status

/-- Copies standard input to standard output and to files. -/
def tee : Utility := fun name words => do
  let found ← parse name [⟨'a', "append", false⟩, ⟨'i', "", false⟩, ⟨'p', "", false⟩] 1 words
  let mut status := 0
  let mut targets : List (Text × Nat) := []
  for file in found.operands do
    match ← Task.openFile file (if found.has 'a' then .append else .write) with
    | .ok number => targets := targets ++ [(file, number)]
    | .error e =>
      complainOf name [] file e
      status := 1
  match ← Task.readAll 0 with
  | .error e =>
    complain name ("read error: ".toList ++ e.reason.toList)
    return 1
  | .ok text =>
    match ← Task.write 1 text with
    | .ok () => pure ()
    | .error e =>
      complainOf name [] "'standard output'".toList e
      status := 1
    for (file, number) in targets do
      match ← Task.writeTo number text with
      | .ok () => pure ()
      | .error e =>
        complainOf name [] file e
        status := 1
    return status

/-! Splitting a file into pieces, which become files with names in order. -/

namespace Split

/-- How a file is split. -/
inductive Way where
  | lines (count : Nat)
  | bytes (count : Nat)
  /-- Into pieces of whole lines with at most so many bytes. -/
  | lineBytes (count : Nat)
  /-- Into so many pieces of bytes. -/
  | pieces (count : Nat)
  /-- Into so many pieces of whole lines. -/
  | linePieces (count : Nat)
  /-- Into so many pieces, line by line in turn. -/
  | inTurn (count : Nat)

/-- The end of a name: the number `n` in digits of an alphabet. -/
def digitsOf (alphabet : Text) : (width n : Nat) → Text
  | 0, _ => []
  | width + 1, n =>
    digitsOf alphabet width (n / alphabet.length) ++ [alphabet.getD (n % alphabet.length) 'a']

/-- The end of the name of piece `n`. Before its first letter would be the last one of the alphabet, that
letter is put in front of one more. -/
def suffix (alphabet : Text) : (fuel width n : Nat) → Text
  | 0, width, n => digitsOf alphabet width n
  | fuel + 1, width, n =>
    let limit := (alphabet.length - 1) * Nat.pow alphabet.length (width - 1)
    if n < limit then digitsOf alphabet width n
    else [alphabet.getLast?.getD 'z'] ++ suffix alphabet fuel (width + 1) (n - limit)

/-- Whole lines up to a number of bytes, which a line that is longer is broken at. -/
def lineGroups (limit : Nat) : (fuel : Nat) → List Text → (current : Text) → List Text
  | 0, _, current => if current.isEmpty then [] else [current]
  | _ + 1, [], current => if current.isEmpty then [] else [current]
  | fuel + 1, line :: lines, current =>
    if current.length + line.length ≤ limit then lineGroups limit fuel lines (current ++ line)
    else if current.isEmpty then
      line.take limit :: lineGroups limit fuel (line.drop limit :: lines) []
    else current :: lineGroups limit fuel (line :: lines) []

/-- Lines in as many pieces as given; each ends with the line in which its share of the bytes ends. -/
def lineShares (total count : Nat) (lines : List Text) : List Text :=
  let share := max (total / count) 1
  let ends (i : Nat) : Nat := if i + 1 = count then total else share * (i + 1)
  let step : Nat × List (Nat × Text) → Text → Nat × List (Nat × Text) := fun (offset, placed) line =>
    let piece := ((List.range count).find? fun i => offset < ends i).getD (count - 1)
    (offset + line.length, (piece, line) :: placed)
  let (_, placed) := lines.foldl step (0, [])
  let placed := placed.reverse
  (List.range count).map fun i => (placed.filter (·.1 = i)).flatMap (·.2)

/-- The pieces of a text. -/
def pieces (way : Way) (text : Text) : List Text :=
  match way with
  | .lines count => (inPieces count (text.length + 1) (fullLines text)).map List.flatten
  | .bytes count => inPieces count (text.length + 1) text
  | .lineBytes count => lineGroups count (2 * text.length + 2) (fullLines text) []
  | .pieces count =>
    let share := text.length / count
    (List.range count).map fun i =>
      if i + 1 = count then text.drop (share * i) else (text.drop (share * i)).take share
  | .linePieces count => lineShares text.length count (fullLines text)
  | .inTurn count =>
    let lines := (fullLines text).zipIdx
    (List.range count).map fun i => (lines.filter fun (_, n) => n % count = i).flatMap (·.1)
where
  inPieces {α : Type} (size : Nat) : (fuel : Nat) → List α → List (List α)
    | 0, _ => []
    | _ + 1, [] => []
    | fuel + 1, xs => xs.take size :: inPieces size fuel (xs.drop size)

/-- A number with a letter for its unit. -/
def count? (text : Text) : Option Nat := (Count.ofText? text).bind fun n => if n.value = 0 then none else some n.value

end Split

/-- Splits a file into pieces. -/
def split : Utility := fun name words => do
  let known : List Flag :=
    [⟨'l', "lines", true⟩, ⟨'b', "bytes", true⟩, ⟨'C', "line-bytes", true⟩, ⟨'n', "number", true⟩,
      ⟨'a', "suffix-length", true⟩, ⟨'d', "", false⟩, ⟨'x', "", false⟩, ⟨'e', "elide-empty-files", false⟩,
      ⟨'\x01', "additional-suffix", true⟩, ⟨'\x02', "numeric-suffixes", true⟩,
      ⟨'\x03', "hex-suffixes", true⟩, ⟨'v', "verbose", false⟩, ⟨'u', "unbuffered", false⟩]
  let words := words.map fun word =>
    if word = "--numeric-suffixes".toList then "-d".toList
    else if word = "--hex-suffixes".toList then "-x".toList
    else
      match word with
      | '-' :: c :: rest => if (c :: rest).all Char.isDigit then '-' :: 'l' :: c :: rest else word
      | word => word
  let found ← parse name known 1 words
  let number (what : String) (text : Text) : Task Nat := do
    match Split.count? text with
    | some n => pure n
    | none =>
      complain name (("invalid number of " ++ what ++ ": ").toList ++ cited text)
      Task.exit 1
  let way : Split.Way ←
    match found.last? 'l', found.last? 'b', found.last? 'C', found.last? 'n' with
    | some text, _, _, _ => do pure (Split.Way.lines (← number "lines" text))
    | _, some text, _, _ => do pure (Split.Way.bytes (← number "bytes" text))
    | _, _, some text, _ => do pure (Split.Way.lineBytes (← number "bytes" text))
    | _, _, _, some ('l' :: '/' :: text) => do pure (Split.Way.linePieces (← number "chunks" text))
    | _, _, _, some ('r' :: '/' :: text) => do pure (Split.Way.inTurn (← number "chunks" text))
    | _, _, _, some text => do pure (Split.Way.pieces (← number "chunks" text))
    | _, _, _, _ => pure (Split.Way.lines 1000)
  if let _ :: _ :: extra :: _ := found.operands then
    usage name ("extra operand ".toList ++ cited extra) 1
  let file := found.operands.headD ['-']
  let start := (found.operands.drop 1).headD ['x']
  let alphabet : Text :=
    if found.has 'd' || found.has '\x02' then "0123456789".toList
    else if found.has 'x' || found.has '\x03' then "0123456789abcdef".toList
    else (List.range 26).map fun n => Char.ofNat (97 + n)
  let first := (((found.last? '\x02').or (found.last? '\x03')).bind fun t =>
    (Number.integer? (some 10) t).map Int.toNat).getD 0
  let width := (found.last? 'a').bind fun text => (Number.integer? (some 10) text).map Int.toNat
  match ← content file with
  | .error .isADirectory =>
    complainOf name [] file .isADirectory
    return 1
  | .error e =>
    complain name ("cannot open ".toList ++ quoted file ++ " for reading: ".toList ++ e.reason.toList)
    return 1
  | .ok text =>
    let parts := Split.pieces way text
    let parts := if found.has 'e' then parts.filter (!·.isEmpty) else parts
    for (part, n) in parts.zipIdx first do
      let ending ← match width with
        | some (w + 1) =>
          if Nat.pow alphabet.length (w + 1) ≤ n then do
            complain name "output file suffixes exhausted".toList
            Task.exit 1
          else pure (Split.digitsOf alphabet (w + 1) n)
        | _ => pure (Split.suffix alphabet 20 2 n)
      let path := start ++ ending ++ (found.last? '\x01').getD []
      if found.has 'v' then emit name ("creating file ".toList ++ quoted path ++ ['\n'])
      match ← Task.openFile path .write with
      | .error e =>
        complainOf name [] path e
        Task.exit 1
      | .ok description =>
        match ← Task.writeTo description part with
        | .ok () => pure ()
        | .error e =>
          complainOf name [] path e
          Task.exit 1
    return 0

end KDispatch.Shell.Utility
