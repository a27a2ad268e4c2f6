import KDispatch.Shell.Extended.Interpreter
import KDispatch.Shell.Utility.Basic

/-!
How the extended shell starts: the variables and functions that it takes from its environment, the
variables that it sets itself, the words that it is given, and where its commands come from.
-/

namespace KDispatch.Shell.Extended

/-- What the shell tells about itself. -/
def versionText : String := "5.2.21(1)-release"

def machineText : String := "x86_64-pc-linux-gnu"

def loadablesPath : String :=
  "/usr/local/lib/bash:/usr/lib/bash:/opt/local/lib/bash:/usr/pkg/lib/bash:/opt/pkg/lib/bash:."

/-- A variable with a value and attributes. -/
def marked (name value : String) (attributes : Attributes) : String × Variable :=
  (name, ⟨.single (some value.toList), attributes⟩)

/-- The variables that have values of their own whatever the environment holds. -/
def ownVariables (m : Machine) : List (String × Variable) :=
  let integer : Attributes := { Attributes.none with integer := true }
  let fixed : Attributes := { integer with readOnly := true }
  let version := ["5", "2", "21", "1", "release", machineText].map String.toList
  [marked "BASH_VERSION" versionText .none,
    ("BASH_VERSINFO",
      ⟨.indexed true (version.zipIdx.map fun (part, n) => (n, part)),
        { Attributes.none with readOnly := true }⟩),
    marked "OPTIND" "1" integer, marked "OPTERR" "1" .none, marked "IFS" " \t\n" .none,
    marked "EUID" "0" fixed, marked "UID" "0" fixed,
    ("PPID", ⟨.single (some (Number.decimal (m.parents.headD 1))), fixed⟩)]

/-- The path of the working directory: as the environment tells it, if that leads there. -/
def startDirectory (m : Machine) : Text :=
  let working := m.files.workingDirectory
  match m.environment.lookup "PWD" with
  | some path =>
    let leadsHere := (m.files.locate (Task.path path)).toOption = some working
    if path.head? = some '/' && leadsHere then path else Task.ofLocation working
  | none => Task.ofLocation working

/-- The variables that the shell sets if the environment does not hold them. -/
def defaultVariables (m : Machine) (name : Text) : List (String × Variable) :=
  let path := (m.environment.lookup "PATH").getD "/usr/local/sbin:/usr/local/bin:/usr/sbin:/usr/bin:/sbin:/bin".toList
  let shell :=
    if name.head? = some '/' then name
    else if name.contains '/' then startDirectory m ++ '/' :: name
    else (Builtin.commandFile? m.files path name).getD name
  [("BASH", .ofText shell), marked "BASH_LOADABLES_PATH" loadablesPath .none, ("PATH", .ofText path), marked "HOSTNAME" "localhost" .none,
    marked "HOSTTYPE" "x86_64" .none, marked "MACHTYPE" machineText .none,
    marked "OSTYPE" "linux-gnu" .none, marked "PS4" "+ " .none, marked "SHELL" "/bin/bash" .none,
    marked "TERM" "dumb" .none,
    ("OLDPWD", ⟨.single none, { Attributes.none with exported := true }⟩)]

/-- How deep the shells are that start each other. -/
def startDepth (m : Machine) : Int :=
  match m.environment.lookup "SHLVL" with
  | some text => ((Number.integer? (some 10) text).getD 0) + 1
  | none => 1

/-- How deep the shells may be before they are counted from the beginning. -/
def maximalDepth : Int := 1000

/-- The variables of a new shell. -/
def startVariables (m : Machine) (name : Text) : List (String × Variable) :=
  let exported : Attributes := { Attributes.none with exported := true }
  let depth := startDepth m
  let depth : Int := if depth < 0 then 0 else if maximalDepth ≤ depth then 1 else depth
  let isDirectory (path : Text) : Bool :=
    match m.files.locate (Task.path path) with
    | .ok location => m.files.node? location = some .directory
    | .error _ => false
  let own := ownVariables m ++
    [("SHLVL", ⟨.single (some (Number.decimal depth)), exported⟩),
      ("PWD", ⟨.single (some (startDirectory m)), exported⟩)]
  let inherited := m.environment.filterMap fun (key, value) =>
    if !isName key.toList || key = "_" then none
    else if key = "OLDPWD" && !isDirectory value then none
    else some (key, (⟨.single (some value), exported⟩ : Variable))
  let taken := inherited.map fun (key, entry) =>
    match own.lookup key with
    | some fixed => (key, { fixed with attributes := { fixed.attributes with exported := true } })
    | none => (key, entry)
  let missing (entries : List (String × Variable)) : List (String × Variable) :=
    entries.filter fun entry => (taken.lookup entry.1).isNone
  taken ++ missing own ++ missing (defaultVariables m name)

/-- The functions that the environment holds. -/
def startFunctions (m : Machine) : List (Text × Function) :=
  m.environment.filterMap fun (key, value) =>
    let key := key.toList
    let start := "BASH_FUNC_".toList
    let ending := "%%".toList
    if !start.isPrefixOf key || !ending.isSuffixOf key || !"() \x7b".toList.isPrefixOf value then none
    else
      let name := (key.drop start.length).take (key.length - start.length - ending.length)
      match Reader.completeCommand (Source.ofText (name ++ ' ' :: value) 1) with
      | .ok (some (.function line _ body), _) =>
        some (name, { body, file := "environment".toList, line, exported := true, readOnly := false })
      | _ => none

/-- The shell of a new process. -/
def newShell (m : Machine) (name : Text) : Shell :=
  { machine := m, name, arguments := [], globals := startVariables m name, scopes := []
    functions := startFunctions m, aliases := []
    options := ["braceexpand", "hashall", "interactive-comments"]
    settings := (Command.settingNames.filter (·.2)).map (·.1)
    traps := [], outerTraps := [], status := 0, outputStatus := 0, pipeStatuses := [], line := 0, command := none
    commandText := [], loops := 0, tested := false, calls := [], found := [], documents := [], nextDocument := 0
    root := m.process, lastJob := none, buffer := [], directory := startDirectory m, directories := []
    optionPlace := (1, none), seed := 42, started := m.files.clock.fdiv 1000000000, subshells := 0
    inParentheses := false, isPiped := false
    level := 1, lastWord := name, forgotten := [], isGiven := false, isScript := false, trapping := []
    processes := [], jobTexts := [], disabled := [] }

/-- What the words of the shell ask for. -/
structure Invocation where
  /-- Whether the commands are given as an argument. -/
  isGiven : Bool
  /-- Whether the commands are read from the input though there are arguments. -/
  readsInput : Bool
  /-- Further settings, each with the sign of its option. -/
  settings : List (Char × Text)
  words : List Text

namespace Invocation

/-- The long options, each with whether it takes an argument. -/
def longOptions : List (String × Bool) :=
  [("debug", false), ("debugger", false), ("dump-po-strings", false), ("dump-strings", false),
    ("help", false), ("init-file", true), ("login", false), ("noediting", false),
    ("noprofile", false), ("norc", false), ("posix", false), ("pretty-print", false),
    ("rcfile", true), ("restricted", false), ("verbose", false), ("version", false)]

/-- How the shell is to be called. -/
def usage (name : Text) : Text :=
  let name := String.ofList name
  let start := s!"Usage:\t{name} [GNU long option] [option] ...\n\t{name} [GNU long option] [option] " ++
    "script-file ...\nGNU long options:\n"
  let long := String.join (longOptions.map fun (option, _) => s!"\t--{option}\n")
  let short := "Shell options:\n\t-ilrsD or -c command or -O shopt_option\t\t(invocation only)\n" ++
    "\t-abefhkmnptuvxBCEHPT or -o option\n"
  (start ++ long ++ short).toList

/-- Reports a mistake in the words, and ends the shell. -/
def refuse {α : Type} (message : Text) (withUsage : Bool) : Command α := do
  let name := (← get).name
  let _ ← Command.task (Task.write 2 (name ++ ": ".toList ++ message ++ ['\n']))
  if withUsage then let _ ← Command.task (Task.write 2 (usage name))
  Command.setStatus 2
  throw .exit

/-- Writes to the standard output and ends the shell. -/
def tell {α : Type} (text : Text) : Command α := do
  let _ ← Command.task (Task.write 1 text)
  Command.setStatus 0
  throw .exit

/-- What the option `--help` shows besides how the shell is to be called. -/
def advice (name : Text) : Text :=
  let shell := String.ofList name
  let tick := String.singleton (Char.ofNat 0x60)
  let start := s!"GNU bash, version {versionText}-({machineText})\n"
  let more := s!"Type {tick}{shell} -c \"help set\"' for more information about shell options.\n" ++
    s!"Type {tick}{shell} -c help' for more information about shell builtin commands.\n" ++
    s!"Use the {tick}bashbug' command to report bugs.\n"
  start.toList ++ usage name ++ more.toList

/-- Reads the long options at the start of the words. -/
def readLong : List Text → Command (List Text)
  | [] => return []
  | word :: rest => do
    let isLong := "--".toList.isPrefixOf word && word.length ≠ 2
    let option := String.ofList (word.drop (if isLong then 2 else 1))
    match (if word.head? = some '-' then longOptions.lookup option else none) with
    | none =>
      if isLong then refuse (word ++ ": invalid option".toList) true else return word :: rest
    | some true =>
      match rest with
      | [] => refuse (option.toList ++ ": option requires an argument".toList) false
      | _ :: rest => readLong rest
    | some false =>
      match option with
      | "verbose" | "posix" => Builtin.setOption option true
      | "help" => tell (advice (← get).name)
      | "version" => tell s!"GNU bash, version {versionText} ({machineText})\n".toList
      | _ => pure ()
      readLong rest

/-- Sets the options of the letters of a word; gives the words after those that they take. -/
def readLetters (sign : Char) : Text → Invocation → Command Invocation
  | [], found => return found
  | letter :: letters, found => do
    match letter with
    | 'c' => readLetters sign letters { found with isGiven := true }
    | 's' => readLetters sign letters { found with readsInput := true }
    | 'l' | 'D' | 'r' | 'i' => readLetters sign letters found
    | 'O' =>
      match found.words with
      | [] =>
        Builtin.showSettings (sign = '+') false (Command.settingNames.map (·.1))
        let _ ← Command.flush
        readLetters sign letters found
      | name :: words =>
        readLetters sign letters
          { found with settings := found.settings ++ [(sign, name)], words }
    | 'o' =>
      match found.words with
      | [] =>
        Builtin.showOptions (sign = '+')
        let _ ← Command.flush
        readLetters sign letters found
      | name :: words =>
        let option := String.ofList name
        if Command.optionNames.contains option then
          Builtin.setOption option (sign = '-')
          readLetters sign letters { found with words }
        else
          let start := "line 0: ".toList ++ (← get).name ++ ": ".toList
          refuse (start ++ name ++ ": invalid option name".toList) false
    | letter =>
      match Command.optionLetters.lookup letter with
      | some name =>
        Builtin.setOption name (sign = '-')
        readLetters sign letters found
      | none => refuse (sign :: letter :: ": invalid option".toList) true

/-- Reads the short options at the start of the words. -/
def readShort : (fuel : Nat) → Invocation → Command Invocation
  | 0, found => return found
  | fuel + 1, found => do
    match found.words with
    | ['-'] :: rest | ['-', '-'] :: rest => return { found with words := rest }
    | (sign :: letters) :: rest =>
      if sign = '-' || sign = '+' then
        readShort fuel (← readLetters sign letters { found with words := rest })
      else return found
    | _ => return found

/-- Reads the words of the shell. -/
def ofWords (words : List Text) : Command Invocation := do
  let words ← readLong words
  readShort (words.length + 1) ⟨false, false, [], words⟩

end Invocation

namespace Evaluator

/-- Turns further settings on and off. -/
def applySettings : List (Char × Text) → Command Unit
  | [] => return
  | (sign, word) :: more => do
    let name := String.ofList word
    if Command.settingNames.any (·.1 = name) then
      Builtin.setSetting name (sign = '-')
      applySettings more
    else Invocation.refuse ("line 0: ".toList ++ word ++ ": invalid shell option name".toList) false

/-- Ends the shell because its commands cannot be read. -/
def refuseScript (start : Text) (file : Text) (reason : String) (status : Nat) : Command Unit := do
  let message := start ++ ": ".toList ++ file ++ ": ".toList ++ reason.toList ++ ['\n']
  let _ ← Command.task (Task.write 2 message)
  Command.setStatus status

/-- The file of a script: the path itself, or else a file in the search path. -/
def scriptFile (name : Text) : Command Text := do
  let files := (← get).machine.files
  let isThere := match files.locate (Task.path name) with
    | .ok location => (files.node? location).isSome
    | .error _ => false
  if isThere || name.contains '/' then return name
  else
    return ((Builtin.filesOf (← Builtin.path) name).find? (Builtin.isFile files)).getD name

/-- Runs the file that is to be run before every script. -/
def runFirst (ev : Evaluator) : Command Unit := do
  match ← Builtin.valueOf? "BASH_ENV" with
  | none => return
  | some path =>
    match ← Command.task (Task.readFile path) with
    | .error _ => return
    | .ok text =>
      let call : Call := ⟨"source".toList, path, 0, false, []⟩
      modify fun s => { s with calls := [call] }
      ensuring (untilBack (ev.runText ⟨"", true, .plain⟩ 1 text)) (modify fun s => { s with calls := [] })

/-- Runs the commands in a file. -/
def runScript (ev : Evaluator) (name : Text) (arguments : List Text) : Command Unit := do
  let shell := (← get).name
  let path ← scriptFile name
  match ← Command.task (Task.readFile path) with
  | .error .isADirectory => refuseScript path path SystemError.isADirectory.reason 126
  | .error e => refuseScript shell path e.reason (if e = .notFound then 127 else 126)
  | .ok text =>
    if isBinary text then refuseScript path path "cannot execute binary file" 126
    else
      modify fun s => { s with name, arguments, isScript := true }
      ev.runFirst
      ev.runText ⟨"", true, .plain⟩ 1 text

/-- The work of a shell that is given words. -/
def shellWork (ev : Evaluator) (words : List Text) : Command Unit := do
  let depth := startDepth (← get).machine
  if maximalDepth ≤ depth then
    let message := ": warning: shell level (".toList ++ Number.decimal depth ++
      ") too high, resetting to 1\n".toList
    let _ ← Command.task (Task.write 2 ((← get).name ++ message))
  let invocation ← Invocation.ofWords words
  applySettings invocation.settings
  match invocation.isGiven, invocation.words with
  | true, [] => Invocation.refuse "-c: option requires an argument".toList false
  | true, text :: words =>
    modify fun s => { s with name := words.headD s.name, arguments := words.drop 1, isGiven := true }
    ev.runFirst
    ev.runText ⟨"-c: ", true, .final⟩ 1 text
  | false, words =>
    match words, invocation.readsInput with
    | name :: arguments, false => ev.runScript name arguments
    | arguments, _ =>
      modify fun s => { s with arguments }
      ev.runFirst
      match ← Command.task (Task.readAll 0) with
      | .ok text => ev.runText ⟨"", true, .plain⟩ 1 text
      | .error _ => return

/-- The shell as a utility. -/
def shell (ev : Evaluator) : Utility := fun name words machine =>
  match runShell ev (ev.shellWork words) (newShell machine name) with
  | .ok status s => .ok (status % 256) s.machine
  | .error (.halt halt) s => .error halt s.machine
  | .error _ s => .ok s.status s.machine

end Evaluator

end KDispatch.Shell.Extended
