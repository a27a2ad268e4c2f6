import KDispatch.Shell.Builtin.Output
import KDispatch.Shell.Expansion

/-!
The builtins that set and show variables, options and positional parameters, and aliases: texts that stand for
words where a command begins.
-/

namespace KDispatch.Shell.Builtin

/-- A text between single quotes, as the shell reads it again. -/
def singleQuoted (text : Text) : Text := quotedParts (text.length + 1) text
where
  /-- Parts between single quotes, and between them single quotes between double quotes. -/
  quotedParts : (fuel : Nat) → Text → Text
    | 0, _ => []
    | fuel + 1, text =>
      let inner := text.takeWhile (· ≠ '\'')
      let rest := text.drop inner.length
      let quotes := rest.takeWhile (· = '\'')
      let after := rest.drop quotes.length
      let start := '\'' :: inner ++ ['\'']
      if quotes.isEmpty then start
      else
        start ++ '"' :: quotes ++ '"' :: (if after.isEmpty then [] else quotedParts fuel after)

/-- The variables in the order of their names. -/
def sortedVariables : Command (List (String × Variable)) := do
  return (← get).bindings.mergeSort fun a b => !Ordered.nameBefore b.1 a.1

/-- Shows variables after the given words. -/
def showVariables (start : Text) (shown : Variable → Bool) : Command Unit := do
  for (name, entry) in ← sortedVariables do
    if shown entry then
      match entry.value with
      | some value => Command.printLine (start ++ name.toList ++ '=' :: singleQuoted value)
      | none => if start.isEmpty then pure () else Command.printLine (start ++ name.toList)

/-- The name in a word and the value after its equals sign, if it has one. -/
def assignmentIn (word : Text) : String × Option Text :=
  let name := word.takeWhile (· ≠ '=')
  match word.drop name.length with
  | _ :: value => (String.ofList name, some value)
  | [] => (String.ofList name, none)

/-- Sets variables and marks them as exported or read-only, or shows those that are. -/
def mark (word : Text) (readOnly : Bool) (words : List Text) : Command Nat := do
  let (found, words) ← options "p" (words.length + 1) words
  if !found.isEmpty || words.isEmpty then
    showVariables (word ++ [' ']) fun entry => if readOnly then entry.readOnly else entry.exported
  else
    for word in words do
      let (name, value) := assignmentIn word
      let known := ((← get).bindings.lookup name).isSome
      if value.isSome || !known then Command.setVariable name value false
      Command.markVariable name (!readOnly) readOnly
  return 0

/-- Makes variables local to the function that runs. -/
def makeLocal (words : List Text) : Command Nat := do
  if (← get).calls = 0 then Command.fail "not in a function".toList
  for word in words do
    let (name, value) := assignmentIn word
    Command.saveVariable name
    match value with
    | some value => Command.setVariable name (some value) false
    | none =>
      if ((← get).bindings.lookup name).isNone then Command.setVariable name none false
  return 0

/-- Takes variables or functions away. -/
def unset (words : List Text) : Command Nat := do
  let (found, words) ← options "vf" (words.length + 1) words
  for word in words do
    let name := String.ofList word
    if found.getLast?.any (·.1 = 'f') then
      modify fun s => { s with functions := s.functions.filter (·.1 ≠ name) }
    else Command.unsetVariable name
  return 0

/-- Drops positional parameters. -/
def shift (words : List Text) : Command Nat := do
  let count ← match words with
    | [] => pure 1
    | word :: _ => Command.number word
  let arguments := (← get).arguments
  if arguments.length < count then Command.fail "can't shift that many".toList
  modify fun s => { s with arguments := s.arguments.drop count, optionPlace := (1, none) }
  return 0

/-- The options of the shell: their names and letters. -/
def optionNames : List (String × Char) :=
  [("errexit", 'e'), ("noglob", 'f'), ("ignoreeof", 'I'), ("interactive", 'i'), ("monitor", 'm'),
    ("noexec", 'n'), ("stdin", 's'), ("xtrace", 'x'), ("verbose", 'v'), ("vi", 'V'),
    ("emacs", 'E'), ("noclobber", 'C'), ("allexport", 'a'), ("notify", 'b'), ("nounset", 'u'),
    ("privileged", 'p'), ("nolog", '0'), ("debug", '1')]

def setOption (letter : Char) (on : Bool) : Command Unit := do
  if !letter.isAlpha || !(optionNames.any (·.2 = letter)) then
    Command.fail ("Illegal option -".toList ++ [letter])
  modify fun s =>
    let others := s.options.filter (· ≠ letter)
    { s with options := if on then letter :: others else others }

/-- Sets an option by its name, or shows all of them. -/
def setNamedOption (name : Option Text) (on : Bool) : Command Unit := do
  match name with
  | none =>
    if on then Command.printLine "Current option settings".toList
    for (name, letter) in optionNames do
      let isOn ← Command.hasOption letter
      if on then
        let fill := List.replicate (16 - name.length) ' '
        Command.printLine (name.toList ++ fill ++ (if isOn then "on" else "off").toList)
      else Command.printLine ((if isOn then "set -o " else "set +o ").toList ++ name.toList)
  | some name =>
    match optionNames.lookup (String.ofList name) with
    | some letter =>
      modify fun s =>
        let others := s.options.filter (· ≠ letter)
        { s with options := if on then letter :: others else others }
    | none => Command.fail ("Illegal option -o ".toList ++ name)

/-- Sets the options in a word after its sign; gives the words after it. -/
def setLetters (on : Bool) : Text → List Text → Command (List Text)
  | [], words => return words
  | 'o' :: letters, words => do
    setNamedOption words.head? on
    setLetters on letters (words.drop 1)
  | letter :: letters, words => do
    setOption letter on
    setLetters on letters words

/-- Sets options; gives the words after them, and whether they become the positional parameters even
if there are none. -/
def setOptions : (fuel : Nat) → List Text → Command (List Text × Bool)
  | 0, words => return (words, false)
  | fuel + 1, words => do
    match words with
    | ['-'] :: rest =>
      modify fun s => { s with options := s.options.filter fun c => c ≠ 'x' && c ≠ 'v' }
      return (rest, false)
    | ['-', '-'] :: rest => return (rest, true)
    | ('-' :: letters) :: rest =>
      let rest ← setLetters true letters rest
      setOptions fuel rest
    | ('+' :: letters) :: rest =>
      let rest ← setLetters false letters rest
      setOptions fuel rest
    | words => return (words, false)

/-- Sets options and positional parameters, or shows the variables. -/
def set (words : List Text) : Command Nat := do
  if words.isEmpty then showVariables [] fun _ => true
  else
    let (arguments, always) ← setOptions (words.length + 1) words
    if always || !arguments.isEmpty then
      modify fun s => { s with arguments, optionPlace := (1, none) }
  return 0

/-- What `read` has read: texts that are split, and characters that have been escaped. -/
structure LineRead where
  segments : List Segment
  ended : Bool

/-- Reads a line byte by byte; a backslash takes the meaning from the next character unless `raw`. -/
def readLine (raw : Bool) : (fuel : Nat) → Command LineRead
  | 0 => return ⟨[], true⟩
  | fuel + 1 => do
    match ← Command.task (Task.readLine 0) with
    | .error _ => return ⟨[], true⟩
    | .ok line =>
      let text := line.filter (· ≠ '\x00')
      let (segments, continued) := split (text.length + 1) text []
      if line.isEmpty then return ⟨[], true⟩
      else if continued then
        let more ← readLine raw fuel
        return ⟨segments ++ more.segments, more.ended⟩
      else return ⟨segments, text.getLast? ≠ some '\n'⟩
where
  /-- The segments of a line, and whether it goes on in the next one. -/
  split : (fuel : Nat) → Text → (current : Text) → List Segment × Bool
    | 0, _, current => ([whole current], false)
    | _ + 1, [], current => ([whole current], false)
    | _ + 1, ['\n'], current => ([whole current], false)
    | fuel + 1, '\\' :: rest, current =>
      if raw then split fuel rest ('\\' :: current)
      else
        match rest with
        | ['\n'] => ([whole current], true)
        | c :: rest =>
          let (more, continued) := split fuel rest []
          (whole current :: ⟨.fixed, [.char c true]⟩ :: more, continued)
        | [] => ([whole current], false)
    | fuel + 1, c :: rest, current => split fuel rest (c :: current)
  whole (current : Text) : Segment := ⟨.split, Glyph.ofText false current.reverse⟩

/-- Sets variables to fields; what is left over is empty. -/
def setAll : List Text → List Text → Command Unit
  | [], _ => return
  | name :: names, fields => do
    Command.setVariable (String.ofList name) (some (fields.headD [])) false
    setAll names (fields.drop 1)

/-- Reads a line into variables. -/
def read (words : List Text) : Command Nat := do
  let (found, names) ← options "p:r" (words.length + 1) words
  if names.isEmpty then Command.fail "arg count".toList
  let line ← readLine (found.any (·.1 = 'r')) 1000000
  let ifs ← Command.separators
  let fields := Segment.fields ifs (some names.length) line.segments
  setAll names (fields.map Glyph.text)
  return if line.ended then 1 else 0

/-- Goes on with the options in the words. -/
def getopts (words : List Text) : Command Nat := do
  match words with
  | known :: variableName :: given =>
    let words ← if given.isEmpty then pure (← get).arguments else pure given
    let (index, place) := (← get).optionPlace
    let current := match place with
      | some offset => if 1 < index then ((words[index - 2]?).getD []).drop offset else []
      | none => []
    let name := String.ofList variableName
    let silent := known.head? = some ':'
    let finish (index : Nat) (rest : Text) (letter : Char) (status : Nat) : Command Nat := do
      Command.setVariable "OPTIND" (some (Number.decimal index)) false
      Command.setVariable name (some [letter]) false
      let length := ((words[index - 2]?).getD []).length
      modify fun s =>
        { s with
          optionPlace := (index, if rest.isEmpty then none else some (length - rest.length)) }
      return status
    let (text, index) : Option Text × Nat :=
      if !current.isEmpty then (some current, index)
      else
        match words[index - 1]? with
        | some ['-', '-'] => (none, index + 1)
        | some ('-' :: c :: rest) => (some (c :: rest), index + 1)
        | _ => (none, index)
    match text with
    | none | some [] => finish index [] '?' 1
    | some (letter :: rest) =>
      match optionKind (String.ofList known) letter with
      | none =>
        if silent then Command.setVariable "OPTARG" (some [letter]) false
        else
          let _ ← Command.task (Task.write 2 ("Illegal option -".toList ++ [letter, '\n']))
          Command.unsetVariable "OPTARG"
        finish index rest '?' 0
      | some false =>
        Command.setVariable "OPTARG" (some []) false
        finish index rest letter 0
      | some true =>
        if !rest.isEmpty then
          Command.setVariable "OPTARG" (some rest) false
          finish index [] letter 0
        else
          match words[index - 1]? with
          | some argument =>
            Command.setVariable "OPTARG" (some argument) false
            finish (index + 1) [] letter 0
          | none =>
            if silent then
              Command.setVariable "OPTARG" (some [letter]) false
              finish index [] ':' 0
            else
              let _ ← Command.task
                (Task.write 2 ("No arg for -".toList ++ letter :: " option\n".toList))
              Command.unsetVariable "OPTARG"
              finish index [] '?' 0
  | _ => Command.fail "Usage: getopts optstring var [arg...]".toList

/-! Aliases: texts that stand for words where a command begins. -/

/-- The order in which aliases are told. -/
def aliasOrder (name : Text) : Nat :=
  name.foldl (fun sum c => sum + c.toNat) (16 * (name.headD '\x00').toNat) % 39

def showAlias (name text : Text) : Command Unit :=
  Command.printLine (name ++ '=' :: singleQuoted text)

/-- The equals sign of a word that defines an alias stands behind its first character. -/
def aliasDefinition? (word : Text) : Option (Text × Text) :=
  match word with
  | [] => none
  | c :: rest =>
    let name := rest.takeWhile (· ≠ '=')
    match rest.drop name.length with
    | _ :: text => some (c :: name, text)
    | [] => none

/-- Defines aliases, or shows them. -/
def defineAliases (words : List Text) : Command Nat := do
  if words.isEmpty then
    let sorted := (← get).aliases.mergeSort fun a b => aliasOrder a.1 ≤ aliasOrder b.1
    for (name, text) in sorted do showAlias name text
    return 0
  else
    let mut status := 0
    for word in words do
      match aliasDefinition? word with
      | some (name, text) =>
        modify fun s => { s with aliases := s.aliases.filter (·.1 ≠ name) ++ [(name, text)] }
      | none =>
        match (← get).aliases.lookup word with
        | some text => showAlias word text
        | none =>
          let _ ← Command.task
            (Task.write 2 ("alias: ".toList ++ word ++ " not found\n".toList))
          status := 1
    return status

/-- Takes aliases away. -/
def removeAliases (words : List Text) : Command Nat := do
  let (found, words) ← options "a" (words.length + 1) words
  if !found.isEmpty then
    modify fun s => { s with aliases := [] }
    return 0
  else
    let mut status := 0
    for word in words do
      if ((← get).aliases.lookup word).isSome then
        modify fun s => { s with aliases := s.aliases.filter (·.1 ≠ word) }
      else
        let _ ← Command.task
          (Task.write 2 ("unalias: ".toList ++ word ++ " not found\n".toList))
        status := 1
    return status

end KDispatch.Shell.Builtin
