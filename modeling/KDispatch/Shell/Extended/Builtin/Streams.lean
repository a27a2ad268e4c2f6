import KDispatch.Shell.Extended.Builtin.Options
import KDispatch.Shell.Extended.Builtin.Settings
import KDispatch.Shell.Extended.Condition
import KDispatch.Shell.Extended.Expansion
import KDispatch.Shell.Extended.Format

/-!
The builtins of the extended shell that read lines into variables and lists, write texts or test conditions.
-/

namespace KDispatch.Shell.Extended.Builtin

/-- What a line is read up to. -/
structure LineLimit where
  /-- The character that ends the line. -/
  delimiter : Char
  /-- How many characters the line has at most. -/
  count : Option Nat
  /-- Whether the line goes on after its delimiter. -/
  exact : Bool
  /-- Whether backslashes stand for themselves. -/
  raw : Bool

/-- A line that has been read: its characters and whether a backslash hides them, how many bytes it has
taken, and whether its end has been reached. -/
structure LineRead where
  chars : List (Char × Bool)
  taken : Nat
  complete : Bool

/-- Adds characters in front of what has been read after them. -/
def LineRead.after (line : LineRead) (chars : List (Char × Bool)) (taken : Nat) : LineRead :=
  ⟨chars ++ line.chars, line.taken + taken, line.complete⟩

/-- Reads a line from the start of a text. -/
def LineRead.ofText (limit : LineLimit) : Text → (count : Nat) → LineRead
  | text, count =>
    if limit.count = some count then ⟨[], 0, true⟩
    else
      match text with
      | [] => ⟨[], 0, false⟩
      | '\\' :: '\n' :: rest =>
        if limit.raw then
          if limit.delimiter = '\\' && !limit.exact then ⟨[], 1, true⟩
          else (ofText limit ('\n' :: rest) (count + 1)).after [('\\', false)] 1
        else (ofText limit rest count).after [] 2
      | '\\' :: c :: rest =>
        if limit.raw then
          if limit.delimiter = '\\' && !limit.exact then ⟨[], 1, true⟩
          else (ofText limit (c :: rest) (count + 1)).after [('\\', false)] 1
        else (ofText limit rest (count + 1)).after [(c, true)] 2
      | c :: rest =>
        if !limit.exact && c = limit.delimiter then ⟨[], 1, true⟩
        else if c = '\x00' then (ofText limit rest count).after [] 1
        else if c = '\\' && !limit.raw then ⟨[], 1, false⟩
        else (ofText limit rest (count + 1)).after [(c, false)] 1
termination_by text => text.length

/-- Reads a line from a descriptor. -/
def readLine (descriptor : Nat) (limit : LineLimit) : Work LineRead := do
  let take (bytes : Bytes) : Bytes :=
    bytes.take (LineRead.ofText limit (ByteText.ofBytes bytes) 0).taken
  let isPlain := limit.raw && limit.count.isNone && limit.delimiter = '\n'
  let read ← if isPlain then (Command.task (Task.readLine descriptor) : Command _)
    else (Command.task (Task.readWith descriptor take) : Command _)
  match read with
  | .ok text => return LineRead.ofText limit text 0
  | .error e =>
    refuse ("read error: ".toList ++ Number.decimal descriptor ++ ": ".toList ++ e.reason.toList)

/-- The first field of a line whose blanks at the start have been dropped, and the line after it. -/
def firstField (ifs : Text) (line : List (Char × Bool)) : List (Char × Bool) × List (Char × Bool) :=
  let separates (c : Char × Bool) : Bool := !c.2 && ifs.contains c.1
  let isBlank (c : Char × Bool) : Bool := separates c && Splitting.isBlank c.1
  let field := line.takeWhile (!separates ·)
  match line.drop field.length with
  | [] => (field, [])
  | first :: rest =>
    let rest := rest.dropWhile isBlank
    match rest with
    | c :: more =>
      if isBlank first && separates c then (field, more.dropWhile isBlank) else (field, rest)
    | [] => (field, [])

/-- The texts that variables get from a line. -/
def fieldsFor (ifs : Text) : (count : Nat) → List (Char × Bool) → List Text
  | 0, _ => []
  | 1, line =>
    let (field, rest) := firstField ifs line
    let isBlank (c : Char × Bool) : Bool := !c.2 && ifs.contains c.1 && Splitting.isBlank c.1
    let kept := if rest.isEmpty then field else (line.reverse.dropWhile isBlank).reverse
    [kept.map (·.1)]
  | count + 1, line =>
    let (field, rest) := firstField ifs line
    field.map (·.1) :: fieldsFor ifs count rest

/-- Sets variables to texts, up to the first that cannot be set. -/
def putAll : List (Text × Text) → Work Nat
  | [] => return 0
  | (name, text) :: more => do
    match ← (Assigning.putNamed? name text : Command (Option Bool)) with
    | some true => putAll more
    | some false => return 1
    | none => refuse (invalidName name)

/-- Replaces a list by texts from a place on. -/
def putTexts (name : Text) (keeps : Bool) (start : Nat) (texts : List Text) : Work Nat := do
  if !isName name then refuse (invalidName name)
  let name ← (Command.target (String.ofList name) : Command String)
  let entry := (← (Command.binding? name : Command (Option Variable))).getD .unset
  if entry.attributes.readOnly then
    Command.refuseChange name
    return 1
  else if entry.content.isTable then
    refuse (name.toList ++ ": not an indexed array".toList)
  else
    let old : Content := match entry.content, keeps with
      | .indexed _ elements, true => .indexed true elements
      | _, _ => .indexed true []
    let content := texts.zipIdx.foldl
      (fun (content : Content) (text, n) => content.put (.index (start + n)) text) old
    Command.putVariable name { entry with content }
    return 0

/-- The number of a descriptor that an option gives, if it can be read. -/
def descriptorOf (argument : Option Text) : Work Nat := do
  match argument with
  | none => return 0
  | some text =>
    match integer? text with
    | some n =>
      if (← (get : Command Shell)).machine.description? n.toNat |>.isNone then
        refuse (text ++ ": invalid file descriptor: ".toList ++
          SystemError.badDescriptor.reason.toList)
      else return n.toNat
    | none => refuse (text ++ ": invalid file descriptor specification".toList)

/-- Whether a text is a span of time. -/
def isSpan (text : Text) : Bool :=
  let whole := text.takeWhile Char.isDigit
  match text.drop whole.length with
  | [] => !whole.isEmpty
  | '.' :: rest => rest.all Char.isDigit && !(whole ++ rest).isEmpty
  | _ => false

/-- Reads a line into variables. -/
def read (words : List Text) : Work Nat := do
  let (found, names) ← options "a:d:ei:n:N:p:rst:u:" words
  match argument? found 't' with
  | some text => if !isSpan text then refuse (text ++ ": invalid timeout specification".toList)
  | none => pure ()
  let exact := (found.filter fun o => o.letter = 'n' || o.letter = 'N').getLast?.any (·.letter = 'N')
  let count ← match (argument? found 'N').or (argument? found 'n') with
    | none => pure none
    | some text =>
      match integer? text with
      | some n => if n < 0 then refuse (text ++ ": invalid number".toList) else pure (some n.toNat)
      | none => refuse (text ++ ": invalid number".toList)
  let descriptor ← descriptorOf (argument? found 'u')
  match names.head?, argument? found 'a' with
  | some name, none =>
    let isTarget := match Holder.ofText? name with
      | some (.parameter name) => isName name.toList
      | some (.element _ _) => true
      | _ => false
    if !isTarget then refuse (invalidName name)
  | _, _ => pure ()
  if (argument? found 't').any fun text => text.all fun c => c = '0' || c = '.' then return 0
  else
    let delimiter := match argument? found 'd' with
      | some (c :: _) => c
      | some [] => '\x00'
      | none => '\n'
    let limit : LineLimit := { delimiter, count, exact, raw := has found 'r' }
    let line ← readLine descriptor limit
    let ifs ← (Command.separators : Command Text)
    let isBlank (c : Char × Bool) : Bool := !c.2 && ifs.contains c.1 && Splitting.isBlank c.1
    let chars := if exact then line.chars.map fun c => (c.1, true) else line.chars
    let status ←
      match argument? found 'a' with
      | some name =>
        let glyphs := chars.map fun (c, hidden) => Glyph.char c hidden (!hidden)
        putTexts name false 0 ((Splitting.split ifs glyphs).map Glyph.text)
      | none =>
        match names with
        | [] => putAll [("REPLY".toList, chars.map (·.1))]
        | names => putAll (names.zip (fieldsFor ifs names.length (chars.dropWhile isBlank)))
    return if line.complete then status else 1

/-- The lines of a text up to a delimiter each, with the delimiters. -/
def linesOf (delimiter : Char) : Text → (current : Text) → List Text
  | [], [] => []
  | [], current => [current.reverse]
  | c :: rest, current =>
    if c = delimiter then (c :: current).reverse :: linesOf delimiter rest []
    else linesOf delimiter rest (c :: current)

/-- Calls a command with the number and the text of each line whose turn it is. -/
def callBack (run : Text → Command Unit) (callback : Text) (quantum start : Nat) :
    List (Text × Nat) → Command Unit
  | [] => return
  | (line, n) :: more => do
    if (n + 1) % quantum = 0 then
      run (callback ++ ' ' :: Number.decimal (start + n : Nat) ++ ' ' :: Quoting.single line)
    callBack run callback quantum start more

/-- Reads lines into a list; `run` runs a text as commands. -/
def mapfile (run : Text → Command Unit) (words : List Text) : Work Nat := do
  let (found, words) ← options "u:n:O:tC:c:s:d:" words
  let number (letter : Char) (what : String) (low : Nat) : Work (Option Nat) := do
    match argument? found letter with
    | none => return none
    | some text =>
      match integer? text with
      | some n =>
        if n < (low : Int) then refuse (text ++ (": invalid " ++ what).toList)
        else return some n.toNat
      | none => refuse (text ++ (": invalid " ++ what).toList)
  let descriptor ← descriptorOf (argument? found 'u')
  let count ← number 'n' "line count" 0
  let origin ← number 'O' "array origin" 0
  let quantum ← number 'c' "callback quantum" 1
  let skipped ← number 's' "line count" 0
  let name := words.headD "MAPFILE".toList
  if !isName name then refuse (invalidName name)
  let delimiter := match argument? found 'd' with
    | some (c :: _) => c
    | some [] => '\x00'
    | none => '\n'
  let limit := match count with
    | none | some 0 => none
    | some n => some (n + skipped.getD 0)
  let take (bytes : Bytes) : Bytes :=
    match limit with
    | none => bytes
    | some n =>
      bytes.take ((linesOf delimiter (ByteText.ofBytes bytes) []).take n).flatten.length
  match ← (Command.task (Task.readWith descriptor take) : Command _) with
  | .error e =>
    refuse ("read error: ".toList ++ Number.decimal descriptor ++ ": ".toList ++ e.reason.toList)
  | .ok text =>
    let lines := (linesOf delimiter text []).drop (skipped.getD 0)
    let cut (line : Text) : Text :=
      if has found 't' && line.getLast? = some delimiter then line.dropLast else line
    let texts := lines.map fun line => (cut line).filter (· ≠ '\x00')
    let status ← putTexts name origin.isSome (origin.getD 0) texts
    match argument? found 'C' with
    | some callback => callBack run callback (quantum.getD 5000) (origin.getD 0) texts.zipIdx
    | none => pure ()
    return status

/-! The builtins of the extended shell that write texts or test conditions. -/

/-- The options of `echo`: whether a line end is written and whether escapes are replaced, and the words
after them. -/
def echoOptions : (lineEnd escapes : Bool) → List Text → Bool × Bool × List Text
  | lineEnd, escapes, ('-' :: c :: letters) :: rest =>
    if (c :: letters).all fun c => c = 'n' || c = 'e' || c = 'E' then
      let escapes := (c :: letters).foldl
        (fun escapes c => if c = 'e' then true else if c = 'E' then false else escapes) escapes
      echoOptions (lineEnd && !(c :: letters).contains 'n') escapes rest
    else (lineEnd, escapes, ('-' :: c :: letters) :: rest)
  | lineEnd, escapes, words => (lineEnd, escapes, words)

/-- Writes its words with blanks between them and a line end. -/
def echo (words : List Text) : Work Nat := do
  let (lineEnd, escapes, words) := echoOptions true (← Command.hasSetting "xpg_echo") words
  if escapes then
    let rec go : List Text → Work Unit
      | [] => if lineEnd then Command.print ['\n'] else return
      | word :: rest => do
        let (text, stopped) := Format.echoed (word.length + 1) word
        Command.print text
        if stopped then return
        else
          if !rest.isEmpty then Command.print [' ']
          go rest
    go words
  else
    Command.print ([' '].intercalate words)
    if lineEnd then Command.print ['\n']
  return 0

/-- Writes what a format makes of its arguments, or puts it into a variable. -/
def printf (words : List Text) : Work Nat := do
  let (found, words) ← options "v:" words
  let stored := argument? found 'v'
  match stored with
  | some name =>
    let isTarget := match Holder.ofText? name with
      | some (.parameter name) => isName name.toList
      | some (.element _ _) => true
      | _ => false
    if !isTarget then
      Command.warn (invalidName name)
      finish 2
  | none => pure ()
  match words with
  | [] => misused
  | format :: arguments =>
    let s ← (get : Command Shell)
    let now := (Command.clock s).1
    let (printed, counts) := Format.print ⟨now, s.started⟩ format arguments
    for complaint in printed.complaints do
      let shown :=
        if (Format.warningStart ++ "missing".toList).isPrefixOf complaint then
          complaint.drop Format.warningStart.length
        else complaint
      Command.warn shown
    for (name, count) in counts do
      let _ ← Assigning.putNamed? name (Number.decimal count)
    match printed.failure with
    | some reason => Command.warn reason
    | none => pure ()
    let failed := printed.failure.isSome ||
      printed.complaints.any fun complaint => !Format.warningStart.isPrefixOf complaint
    match stored with
    | some name =>
      if printed.failure.isNone then
        match ← Assigning.putNamed? name (printed.output.takeWhile (· ≠ '\x00')) with
        | some false => finish 1
        | _ => pure ()
    | none => Command.print printed.output
    return if failed then 1 else 0

/-- Tests a condition; a true one gives status 0. -/
def test (words : List Text) : Work Nat := do
  match ← (Condition.ofWords words).run with
  | .ok value => return if value then 0 else 1
  | .error message =>
    Command.warn message
    return 2

/-- Tests a condition between brackets. -/
def bracketTest (words : List Text) : Work Nat := do
  if words.getLast? = some [']'] then test words.dropLast
  else
    Command.warn ("missing ".toList ++ marked [']'])
    return 2

/-- Gives the values of arithmetic expressions; a last one that is not zero gives status 0. -/
def calculate (words : List Text) : Work Nat := do
  let words := if words.head? = some ['-', '-'] then words.drop 1 else words
  match words with
  | [] => refuse "expression expected".toList
  | words =>
    let mut last : Int := 0
    for word in words do
      match ← Arithmetic.evaluate? word with
      | some n => last := n
      | none => return 1
    return if last = 0 then 1 else 0

end KDispatch.Shell.Extended.Builtin
