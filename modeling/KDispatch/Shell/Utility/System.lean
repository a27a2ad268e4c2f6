import KDispatch.Shell.Condition
import KDispatch.Shell.Printf
import KDispatch.Shell.Utility.Basic

/-!
Utilities that tell about the system or that run other programs. How a program takes the place of the
running process is handed in.
-/

namespace KDispatch.Shell.Utility

/-- How a program takes the place of the running process. -/
abbrev Execute := (path : Text) → (words : List Text) → Task (Except SystemError Nat)

def succeed : Utility := fun _ _ => return 0

def refuse : Utility := fun _ _ => return 1

/-- Whether a word is one of the options of `echo`. -/
def isEchoOption : Text → Bool
  | '-' :: c :: letters => (c :: letters).all fun c => c = 'n' || c = 'e' || c = 'E'
  | _ => false

def echo : Utility := fun name words => do
  let options := words.takeWhile isEchoOption
  let texts := words.drop options.length
  let letters := options.flatten
  let escapes := (letters.filter fun c => c = 'e' || c = 'E').getLast? = some 'e'
  let text := [' '].intercalate texts
  let (text, stopped) := if escapes then Escape.expand (text.length + 1) text else (text, false)
  emit name (text ++ if letters.contains 'n' || stopped then [] else ['\n'])
  return 0

def printfWording : Printf.Wording where
  notNumber text := cited text ++ ": expected a numeric value".toList
  notWhole text := cited text ++ ": value not completely converted".toList
  outOfRange text := cited text ++ ": Numerical result out of range".toList
  format := .extended

def printf : Utility := fun name words => do
  let words := if words.head? = some ['-', '-'] then words.drop 1 else words
  match words with
  | [] => usage name "missing operand".toList 1
  | format :: arguments =>
    let printed := Printf.print printfWording format arguments
    emit name printed.output
    for complaint in printed.complaints do complain name complaint
    match printed.failure with
    | some reason =>
      complain name reason
      return 1
    | none => return if printed.complaints.isEmpty then 0 else 1

def test : Utility := fun name words => do
  match Condition.evaluate ⟨(← get).files, true⟩ words with
  | .ok value => return if value then 0 else 1
  | .error message =>
    complain name message
    return 2

def bracketTest : Utility := fun name words => do
  if words.getLast? = some [']'] then test name words.dropLast
  else
    complain name "missing ']'".toList
    return 2

/-- A number of seconds, which passes at once. -/
def sleep : Utility := fun name words => do
  let words := (← parse name [] 1 words).operands
  if words.isEmpty then usage name "missing operand".toList 1
  let units (text : Text) : Text :=
    match text.getLast? with
    | some c => if "smhd".toList.contains c then text.dropLast else text
    | none => text
  let unit (text : Text) : Nat :=
    match text.getLast? with
    | some 'm' => 60
    | some 'h' => 3600
    | some 'd' => 86400
    | _ => 1
  let mut failed := false
  let mut duration := 0
  for word in words do
    match Real.read? (units word) with
    | some (.finite false num den, []) => duration := duration + unit word * num * 1000000000 / den
    | _ =>
      complain name ("invalid time interval ".toList ++ cited word)
      failed := true
  if failed then
    let _ ← Task.write 2 ("Try '".toList ++ name ++ " --help' for more information.\n".toList)
    return 1
  else
    Task.moveClock duration
    Task.passTime
    return 0

/-- Writes a line again and again until nobody reads it. -/
def yes : Utility := fun name words => do
  let line := (if words.isEmpty then ['y'] else [' '].intercalate words) ++ ['\n']
  for _ in List.range (Task.pipeCapacity + 1) do emit name line
  return 0

def uname : Utility := fun name words => do
  let found ← parse name (letters "amnrsvpio") 1 words
  if let extra :: _ := found.operands then usage name ("extra operand ".toList ++ cited extra) 1
  let parts : List (Char × String) :=
    [('s', "Linux"), ('n', "localhost"), ('r', "6.1.0"), ('v', "#1 SMP"), ('m', "x86_64"),
      ('o', "GNU/Linux")]
  let shown := parts.filter fun (letter, _) =>
    found.has 'a' || found.has letter || (found.options.isEmpty && letter = 's')
  emit name ([' '].intercalate (shown.map (·.2.toList)) ++ ['\n'])
  return 0

def identity : Utility := fun name words => do
  let found ← parse name (letters "ugGnr") 1 words
  let others := found.operands.filter fun user => user ≠ "root".toList && user ≠ ['0']
  for user in others do complain name (cited user ++ ": no such user".toList)
  if !others.isEmpty then return 1
  emit name (if found.has 'n' then "root\n".toList
    else if found.options.isEmpty then "uid=0(root) gid=0(root) groups=0(root)\n".toList
    else "0\n".toList)
  return 0

def userName : Utility := fun name words => do
  let found ← parse name [] 1 words
  if let extra :: _ := found.operands then usage name ("extra operand ".toList ++ cited extra) 1
  emit name "root\n".toList
  return 0

/-- Tells the working directory, through links if it is asked to. -/
def showPath : Utility := fun name words => do
  let found ← parse name [⟨'L', "logical", false⟩, ⟨'P', "physical", false⟩] 1 words
  if !found.operands.isEmpty then complain name "ignoring non-option arguments".toList
  let m ← get
  let working := m.files.workingDirectory
  let given := (m.environment.lookup "PWD").getD []
  let isUsable := found.options.getLast?.any (·.1 = 'L') && given.head? = some '/' &&
    (m.files.locate (Task.path given)).toOption = some working &&
    !(given.splitOn '/').any fun part => part = ['.'] || part = ['.', '.']
  emit name ((if isUsable then given else Task.ofLocation working) ++ ['\n'])
  return 0

def printenv : Utility := fun name words => do
  let environment := (← get).environment
  if words.isEmpty then
    for (key, value) in environment do emit name (key.toList ++ '=' :: value ++ ['\n'])
    return 0
  else
    let mut status := 0
    for word in words do
      match environment.lookup (String.ofList word) with
      | some value => emit name (value ++ ['\n'])
      | none => status := 1
    return status

/-- Programs that a name may stand for: a path, or files in the directories of the search path. -/
def programs (name : Text) : Task (List Text) := do
  if name.contains '/' then return [name]
  let path := ((← get).environment.lookup "PATH").getD "/bin:/usr/bin".toList
  return (path.splitOn ':').map fun directory =>
    if directory.isEmpty then name else directory ++ '/' :: name

/-- Puts the first program that can be run in place of the process. -/
def executeFirst (execute : Execute) (words : List Text) (e : SystemError) :
    List Text → Task (Except SystemError Nat)
  | [] => return .error e
  | path :: paths => do
    match ← execute path words with
    | .ok status => return .ok status
    | .error .execFormat =>
      execute "/bin/sh".toList ("/bin/sh".toList :: path :: words.drop 1)
    | .error .notFound | .error .notADirectory => executeFirst execute words e paths
    | .error e => executeFirst execute words e paths

/-- Puts the program that words name in place of the process. -/
def become (execute : Execute) (name : Text) (words : List Text) : Task Nat := do
  let program := words.headD []
  match ← executeFirst execute words .notFound (← programs program) with
  | .ok status => return status
  | .error e =>
    complain name (cited program ++ ": ".toList ++ e.reason.toList)
    return if e = .notFound || e = .notADirectory then 127 else 126

/-- The words of a text between blanks, with quotes. -/
def splitWords : (fuel : Nat) → Text → (current : Option Text) → List Text
  | 0, _, current => current.toList
  | _ + 1, [], current => current.toList
  | fuel + 1, c :: rest, current =>
    let word := current.getD []
    if Number.isSpace c then current.toList ++ splitWords fuel rest none
    else if c = '\'' || c = '"' then
      let inner := rest.takeWhile (· ≠ c)
      splitWords fuel (rest.drop (inner.length + 1)) (some (word ++ inner))
    else if c = '\\' then
      match rest with
      | d :: rest => splitWords fuel rest (some (word ++ [d]))
      | [] => splitWords fuel [] (some word)
    else splitWords fuel rest (some (word ++ [c]))

/-- The options of `env` at the start of its words, with the texts that stand for several words taken
apart. -/
def envOptions (name : Text) : (fuel : Nat) → List Text → Task (List (Char × Text) × List Text)
  | 0, words => return ([], words)
  | fuel + 1, words => do
    let more (option : Char × Text) (rest : List Text) :
        Task (List (Char × Text) × List Text) := do
      let (options, words) ← envOptions name fuel rest
      return (option :: options, words)
    match words with
    | ['-', '-'] :: rest => return ([], rest)
    | ['-'] :: rest => more ('i', []) rest
    | ('-' :: letter :: text) :: rest =>
      match letter with
      | 'S' | 's' =>
        if letter = 'S' || "plit-string=".toList.isPrefixOf text then
          let (text, rest) := if text.isEmpty then (rest.headD [], rest.drop 1) else (text, rest)
          envOptions name fuel (splitWords (text.length + 1) text none ++ rest)
        else bad letter
      | 'v' =>
        match text with
        | 'S' :: text => envOptions name fuel (splitWords (text.length + 1) text none ++ rest)
        | _ => more ('v', []) rest
      | 'i' | '0' =>
        if text.isEmpty then more (letter, []) rest
        else more (letter, []) (('-' :: text) :: rest)
      | 'u' | 'C' =>
        if !text.isEmpty then more (letter, text) rest
        else
          match rest with
          | argument :: rest => more (letter, argument) rest
          | [] =>
            usage name ("option requires an argument -- '".toList ++ [letter, '\'']) 125
      | '-' =>
        if text = "ignore-environment".toList then more ('i', []) rest
        else if "unset=".toList.isPrefixOf text then more ('u', text.drop 6) rest
        else if "split-string=".toList.isPrefixOf text then
          envOptions name fuel (splitWords (text.length + 1) (text.drop 13) none ++ rest)
        else usage name ("unrecognized option '--".toList ++ text ++ ['\'']) 125
      | letter => bad letter
    | words => return ([], words)
where
  bad (letter : Char) : Task (List (Char × Text) × List Text) := do
    complain name ("invalid option -- '".toList ++ [letter, '\''])
    if letter = ' ' then
      complain name "use -[v]S to pass options in shebang lines".toList
    let _ ← Task.write 2 ("Try '".toList ++ name ++ " --help' for more information.\n".toList)
    Task.exit 125

/-- Runs a program with a changed environment, or shows the environment. -/
def env (execute : Execute) : Utility := fun name words => do
  let (options, words) ← envOptions name (words.length + 100) words
  if options.any (·.1 = 'i') then modify fun m => { m with environment := [] }
  for (letter, text) in options do
    if letter = 'u' then
      modify fun m =>
        { m with environment := m.environment.filter (·.1 ≠ String.ofList text) }
    if letter = 'C' then
      match ← Task.node text with
      | .ok (location, .directory) =>
        modify fun m => { m with files := { m.files with workingDirectory := location } }
      | .ok _ =>
        complain name ("cannot change directory to ".toList ++ quoted text ++ ": Not a directory".toList)
        Task.exit 125
      | .error e =>
        complain name ("cannot change directory to ".toList ++ quoted text ++ ": ".toList ++ e.reason.toList)
        Task.exit 125
  let assignments := words.takeWhile (·.contains '=')
  let command := words.drop assignments.length
  for word in assignments do
    let key := word.takeWhile (· ≠ '=')
    let value := word.drop (key.length + 1)
    modify fun m =>
      { m with
        environment := m.environment.filter (·.1 ≠ String.ofList key) ++ [(String.ofList key, value)] }
  if command.isEmpty then printenv name []
  else
    let status ← become execute name command
    if (status = 127 || status = 126) && (command.headD []).contains ' ' then
      complain name "use -[v]S to pass options in shebang lines".toList
    return status

/-- The words that are read from standard input: between blanks, with quotes. -/
def inputWords (byLine : Bool) (delimiter : Option Char) (text : Text) : List Text :=
  match delimiter with
  | some c =>
    let parts := text.splitOn c
    if parts.getLast? = some [] then parts.dropLast else parts
  | none =>
    if byLine then
      ((lines text).map fun line => line.dropWhile Number.isSpace).filter (!·.isEmpty)
    else splitWords (text.length + 1) text none

/-- Pieces of a list with at most the given length. -/
def inPieces {α : Type} (size : Nat) : (fuel : Nat) → List α → List (List α)
  | 0, _ => []
  | _ + 1, [] => []
  | fuel + 1, xs => xs.take size :: inPieces size fuel (xs.drop size)

/-- A text in which a mark is replaced. -/
def replaceMark (mark value : Text) : (fuel : Nat) → Text → Text
  | 0, text => text
  | _ + 1, [] => []
  | fuel + 1, c :: rest =>
    if !mark.isEmpty && mark.isPrefixOf (c :: rest) then
      value ++ replaceMark mark value fuel ((c :: rest).drop mark.length)
    else c :: replaceMark mark value fuel rest

/-- The quote that is not closed in a text, if there is one. -/
def openQuote? : (quote : Option Char) → Text → Option Char
  | quote, [] => quote
  | some q, c :: rest =>
    if c = '\n' then some q else openQuote? (if c = q then none else some q) rest
  | none, '\\' :: _ :: rest => openQuote? none rest
  | none, c :: rest => openQuote? (if c = '\'' || c = '"' then some c else none) rest

/-- The words of `xargs`, in which some options may go without their arguments. -/
def xargsWords : List Text → List Text
  | [] => []
  | ['-', 'i'] :: rest => "-I\x7b\x7d".toList :: xargsWords rest
  | ('-' :: 'i' :: mark) :: rest => ('-' :: 'I' :: mark) :: xargsWords rest
  | ['-', 'l'] :: rest => "-L1".toList :: xargsWords rest
  | ('-' :: 'l' :: count) :: rest => ('-' :: 'L' :: count) :: xargsWords rest
  | words@(('-' :: letter :: text) :: rest) =>
    if letter = '-' || !(text.isEmpty && "dInLPsEa".toList.contains letter) then
      ('-' :: letter :: text) :: xargsWords rest
    else words
  | words => words

/-- What is added to a status to tell that a program has not been started; no program ends with a status
that large. -/
def notStarted : Nat := 256

/-- Runs a program with words from standard input. -/
def xargs (execute : Execute) : Utility := fun name words => do
  let known : List Flag :=
    letters "0d:I:n:L:P:rtxs:E:a:" ++
      [⟨'0', "null", false⟩, ⟨'r', "no-run-if-empty", false⟩, ⟨'n', "max-args", true⟩,
        ⟨'t', "verbose", false⟩, ⟨'d', "delimiter", true⟩, ⟨'a', "arg-file", true⟩,
        ⟨'P', "max-procs", true⟩, ⟨'L', "max-lines", true⟩]
  let found ← match scan known false (words.length + 1) (xargsWords words) with
    | .ok found => pure found
    | .error message => usage name message.toList 1
  for letter in ['n', 'L'] do
    match found.last? letter with
    | some text =>
      match Number.integer? (some 10) text with
      | none =>
        usage name ("invalid number \"".toList ++ text ++ "\" for -".toList ++
          letter :: " option".toList) 1
      | some n =>
        if n < 1 then
          usage name ("value ".toList ++ text ++ " for -".toList ++ letter ::
            " option should be >= 1".toList) 1
    | none => pure ()
  let command := if found.operands.isEmpty then ["echo".toList] else found.operands
  let mark := found.last? 'I'
  let delimiter : Option Char :=
    if found.has '0' then some '\x00'
    else
      match found.last? 'd' with
      | some ['\\', 'n'] => some '\n'
      | some ['\\', 't'] => some '\t'
      | some ['\\', '0'] => some '\x00'
      | some (c :: _) => some c
      | _ => none
  let text ←
    match found.last? 'a' with
    | none => pure (((← Task.readAll 0).toOption).getD [])
    | some file =>
      match ← Task.readFile file with
      | .ok text => pure text
      | .error e => do
        complain name ("Cannot open input file ".toList ++ quoted file ++ ": ".toList ++
          e.reason.toList)
        Task.exit 1
  match if delimiter.isSome then none else openQuote? none text with
  | some quote =>
    complain name ("unmatched ".toList ++ (if quote = '"' then "double" else "single").toList ++
      " quote; by default quotes are special to xargs unless you use the -0 option".toList)
    Task.exit 1
  | none => pure ()
  let given := inputWords (mark.isSome || found.has 'L') delimiter text
  let given := match found.last? 'E' with
    | some mark => given.takeWhile (· ≠ mark)
    | none => given
  let size :=
    ((found.last? 'n').or (found.last? 'L')).bind fun t => (Number.integer? (some 10) t).map Int.toNat
  let calls : List (List Text) :=
    match mark with
    | some mark => given.map fun value =>
        command.map fun word => replaceMark mark value (word.length + 1) word
    | none =>
      let pieces := match size with
        | some n => inPieces (max n 1) (given.length + 1) given
        | none => if given.isEmpty then [] else [given]
      if pieces.isEmpty then (if found.has 'r' then [] else [command]) else pieces.map (command ++ ·)
  let mut status := 0
  for call in calls do
    if found.has 't' then
      let _ ← Task.write 2 ([' '].intercalate call ++ ['\n'])
    let halt ← Task.child do
      match ← Task.openFile "/dev/null".toList .read with
      | .ok number => Task.setDescriptor 0 number
      | .error _ => pure ()
      let program := call.headD []
      match ← executeFirst execute call .notFound (← programs program) with
      | .ok status => return status
      | .error e =>
        complain name (program ++ ": ".toList ++ e.reason.toList)
        return notStarted + (if e = .notFound then 127 else 126)
    match halt with
    | .exit 0 => pure ()
    | .exit 255 =>
      complain name (call.headD [] ++ ": exited with status 255; aborting".toList)
      Task.exit 124
    | .exit n => if notStarted ≤ n then Task.exit (n - notStarted) else status := 123
    | .killed signal =>
      complain name (call.headD [] ++ ": terminated by signal ".toList ++ decimal signal)
      Task.exit 125
  return status

end KDispatch.Shell.Utility
