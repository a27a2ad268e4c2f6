import KDispatch.Shell.Builtin.Processes
import KDispatch.Shell.Extended.Parser
import KDispatch.Shell.Extended.Variable

/-!
The state of the extended shell: its machine, variables in scopes, functions, options and traps, and how it
reports mistakes.
-/

namespace KDispatch.Shell.Extended

/-- How a command is left other than by coming to its end. -/
inductive Jump where
  /-- The process has ended. -/
  | halt (halt : Halt)
  /-- The shell ends with its status, after the command for its end. -/
  | exit
  /-- A signal ends the shell, after the command for its end. -/
  | killed (signal : Nat)
  /-- The complete command is given up. -/
  | discard
  /-- Leaves loops. -/
  | leave (loops : Nat)
  /-- Goes on with the next round, after leaving inner loops. -/
  | again (loops : Nat)
  /-- Leaves a function or a file of commands. -/
  | back

/-- Variables that hide those of outer scopes. -/
structure Scope where
  /-- Whether it belongs to a function, or else to a single command. -/
  isFunction : Bool
  bindings : List (String × Variable)

/-- A function or a file of commands that is running. -/
structure Call where
  name : Text
  /-- The file that it is from. -/
  file : Text
  /-- The line of the call. -/
  line : Nat
  isFunction : Bool
  arguments : List Text

structure Function where
  body : Script
  file : Text
  line : Nat
  exported : Bool
  readOnly : Bool

/-- Commands that read from a pipe. -/
structure PipeReader where
  commands : Text
  /-- The description that they read from. -/
  reading : Nat
  /-- The description that is written to for them. -/
  writing : Nat
  /-- The descriptors that they have. -/
  descriptors : List (Nat × Nat)

/-- A pipe to commands that a word has been replaced by. -/
structure ProcessPipe where
  descriptor : Nat
  reader : Option PipeReader

structure Shell where
  machine : Machine
  name : Text
  arguments : List Text
  globals : List (String × Variable)
  /-- From the innermost one on. -/
  scopes : List Scope
  functions : List (Text × Function)
  aliases : List (Text × Text)
  /-- The names of the options that are set. -/
  options : List String
  /-- The names of the further settings that are on. -/
  settings : List String
  /-- The commands for signals, for the end of the shell as number 0, and for events of the shell. -/
  traps : List (Nat × Text)
  /-- The commands of the shell that a subshell is part of, until it sets some of its own. -/
  outerTraps : List (Nat × Text)
  status : Nat
  /-- The status of the last command inside the words of a command. -/
  outputStatus : Nat
  pipeStatuses : List Nat
  line : Nat
  /-- The builtin command that is running. -/
  command : Option Text
  /-- The text of the command that is running. -/
  commandText : Text
  loops : Nat
  /-- Whether the status of the running command is tested. -/
  tested : Bool
  /-- From the innermost one on. -/
  calls : List Call
  /-- The programs that have been found in the search path, and how often. -/
  found : List (Text × Text × Nat)
  documents : List (Nat × Document)
  nextDocument : Nat
  /-- The process of the shell, of which subshells are parts. -/
  root : Nat
  lastJob : Option Nat
  /-- What the running builtin has written to standard output, in reverse. -/
  buffer : Text
  /-- The path of the working directory, which may lead through links. -/
  directory : Text
  /-- The directories to go back to. -/
  directories : List Text
  /-- The place in the options that are gone through: the number of a word, and how far it has been read
  if it has been begun. -/
  optionPlace : Nat × Option Nat
  /-- The number that the next number without an order is made of. -/
  seed : Nat
  /-- When the seconds began to be counted. -/
  started : Int
  subshells : Nat
  /-- Whether the process is a subshell between parentheses, or inside one. -/
  inParentheses : Bool
  /-- Whether the process is a simple command or a group of a pipeline. -/
  isPiped : Bool
  /-- How deep the texts that are run stand inside each other. -/
  level : Nat
  /-- The last word of the command before. -/
  lastWord : Text
  /-- The names of the variables that have lost their meaning to the shell. -/
  forgotten : List String
  /-- Whether the commands are given as an argument. -/
  isGiven : Bool
  /-- Whether the commands come from a file. -/
  isScript : Bool
  /-- Whether a trap is running, so that it does not run inside itself. -/
  trapping : List Nat
  /-- Pipes to commands that words have been replaced by, for the command that runs. -/
  processes : List ProcessPipe
  /-- The commands that run beside the shell, by their processes. -/
  jobTexts : List (Nat × Text)
  /-- The builtin commands that have been turned off. -/
  disabled : List String

/-- Work of a shell. -/
abbrev Command := EStateM Jump Shell

namespace Command

/-- Does work of a process. -/
def task {α : Type} (work : Task α) : Command α := fun s =>
  let machine := s.machine
  let s := { s with machine := Machine.blank }
  match work machine with
  | .ok value machine => .ok value { s with machine }
  | .error halt machine => .error (.halt halt) { s with machine }

def setStatus (status : Nat) : Command Unit := modify fun s => { s with status }

/-- Writes what the running builtin has written so far; the reason if that is refused. -/
def flush : Command (Except SystemError Unit) := do
  let text := (← get).buffer
  if text.isEmpty then return .ok ()
  modify fun s => { s with buffer := [] }
  task (Task.write 1 text.reverse)

/-- Writes to the standard output of a builtin. -/
def print (text : Text) : Command Unit :=
  modify fun s => { s with buffer := text.reverse ++ s.buffer }

def printLine (text : Text) : Command Unit := print (text ++ ['\n'])

/-- The name that messages begin with: the file that commands come from. -/
def origin (s : Shell) : Text :=
  match s.calls with
  | call :: _ => if call.file.isEmpty then s.name else call.file
  | [] => s.name

/-- Reports something in a line of the script. -/
def complainAt (line : Nat) (kind : Text) (message : Text) : Command Unit := do
  let s ← get
  let start := origin s ++ ": ".toList ++ kind ++ "line ".toList ++ Number.decimal line ++ ": ".toList
  let _ ← task (Task.write 2 (start ++ message ++ ['\n']))

/-- Reports something about the shell's own work. -/
def complain (message : Text) : Command Unit := do complainAt (← get).line [] message

/-- Reports something about the work of the running builtin. -/
def warn (message : Text) : Command Unit := do
  let s ← get
  complain (match s.command with
    | some command => command ++ ": ".toList ++ message
    | none => message)

/-- Reports something and gives up the complete command. -/
def fail {α : Type} (message : Text) : Command α := do
  complain message
  setStatus 1
  throw .discard

/-- Reports something and ends the shell. -/
def abort {α : Type} (message : Text) : Command α := do
  complain message
  setStatus (if (← get).isGiven then 127 else 1)
  throw .exit

def hasOption (name : String) : Command Bool := return (← get).options.contains name

def hasSetting (name : String) : Command Bool := return (← get).settings.contains name

/-- The options that have letters, in the order in which they are told. -/
def optionLetters : List (Char × String) :=
  [('a', "allexport"), ('b', "notify"), ('e', "errexit"), ('f', "noglob"), ('h', "hashall"),
    ('k', "keyword"), ('m', "monitor"), ('n', "noexec"), ('p', "privileged"), ('t', "onecmd"),
    ('u', "nounset"), ('v', "verbose"), ('x', "xtrace"), ('B', "braceexpand"), ('C', "noclobber"),
    ('E', "errtrace"), ('H', "histexpand"), ('P', "physical"), ('T', "functrace")]

/-- The letters of the options that are set. -/
def letters (s : Shell) : Text :=
  let set := optionLetters.filterMap fun (letter, name) =>
    if s.options.contains name then some letter else none
  set ++ (if s.isGiven then ['c'] else []) ++ (if s.isGiven || s.isScript then [] else ['s'])

/-- The names of all options. -/
def optionNames : List String :=
  ["allexport", "braceexpand", "emacs", "errexit", "errtrace", "functrace", "hashall", "histexpand",
    "history", "ignoreeof", "interactive-comments", "keyword", "monitor", "noclobber", "noexec",
    "noglob", "nolog", "notify", "nounset", "onecmd", "physical", "pipefail", "posix", "privileged",
    "verbose", "vi", "xtrace"]

/-- The further settings, with what they are at the start. -/
def settingNames : List (String × Bool) :=
  [("autocd", false), ("assoc_expand_once", false), ("cdable_vars", false), ("cdspell", false),
    ("checkhash", false), ("checkjobs", false), ("checkwinsize", true), ("cmdhist", true),
    ("compat31", false), ("compat32", false), ("compat40", false), ("compat41", false),
    ("compat42", false), ("compat43", false), ("compat44", false), ("complete_fullquote", true),
    ("direxpand", false), ("dirspell", false), ("dotglob", false), ("execfail", false),
    ("expand_aliases", false), ("extdebug", false), ("extglob", false), ("extquote", true),
    ("failglob", false), ("force_fignore", true), ("globasciiranges", true), ("globskipdots", true),
    ("globstar", false), ("gnu_errfmt", false), ("histappend", false), ("histreedit", false),
    ("histverify", false), ("hostcomplete", true), ("huponexit", false), ("inherit_errexit", false),
    ("interactive_comments", true), ("lastpipe", false), ("lithist", false),
    ("localvar_inherit", false), ("localvar_unset", false), ("login_shell", false),
    ("mailwarn", false), ("no_empty_cmd_completion", false), ("nocaseglob", false),
    ("nocasematch", false), ("noexpand_translation", false), ("nullglob", false),
    ("patsub_replacement", true), ("progcomp", true), ("progcomp_alias", false),
    ("promptvars", true), ("restricted_shell", false), ("shift_verbose", false),
    ("sourcepath", true), ("varredir_close", false), ("xpg_echo", false)]

/-- The names that are on out of all names. -/
def joined (names on : List String) : Text :=
  [':'].intercalate ((names.filter on.contains).map String.toList)

/-- The next number without an order, below 32768. -/
def random : Command Nat := do
  let n := (← get).seed
  let next : Int := 16807 * (n % 127773 : Nat) - 2836 * (n / 127773 : Nat)
  let next := (if next < 0 then next + 2147483647 else next).toNat
  modify fun s => { s with seed := next }
  return ((next / 65536).xor (next % 65536)) % 32768

/-- The seconds and the microseconds since the beginning of time. -/
def clock (s : Shell) : Int × Int :=
  let now := s.machine.files.clock
  (now.fdiv 1000000000, (now.fmod 1000000000).fdiv 1000)

/-- The values of the variables that the shell itself keeps. -/
def ownValue? (name : String) : Command (Option Content) := do
  let s ← get
  let single (text : Text) : Command (Option Content) := return some (.single (some text))
  let list (values : List Text) : Command (Option Content) :=
    return some (.indexed true (values.zipIdx.map fun (value, n) => (n, value)))
  let main : List Text := if s.isScript then [s.name] else []
  if s.forgotten.contains name then return none
  else
    match name with
    | "LINENO" => single (Number.decimal s.line)
    | "RANDOM" => single (Number.decimal (← random))
    | "SRANDOM" => single (Number.decimal (← random))
    | "SECONDS" => single (Number.decimal ((clock s).1 - s.started))
    | "BASHPID" => single (Number.decimal s.machine.process)
    | "BASH_SUBSHELL" => single (Number.decimal s.subshells)
    | "BASH_COMMAND" => single s.commandText
    | "BASH_ARGV0" => single s.name
    | "EPOCHSECONDS" => single (Number.decimal (clock s).1)
    | "EPOCHREALTIME" =>
      let micro := Number.decimal (clock s).2
      single (Number.decimal (clock s).1 ++ '.' :: List.replicate (6 - micro.length) '0' ++ micro)
    | "SHELLOPTS" => single (joined optionNames s.options)
    | "BASHOPTS" => single (joined (settingNames.map (·.1)) s.settings)
    | "_" => single s.lastWord
    | "FUNCNAME" =>
      if s.calls.any (·.isFunction) then
        list (s.calls.map (·.name) ++ (if s.isScript then ["main".toList] else []))
      else if s.calls.isEmpty then return some (.single none)
      else list (s.calls.map (·.name) ++ (if s.isScript then ["main".toList] else []))
    | "BASH_SOURCE" => list (s.calls.map (·.file) ++ main)
    | "BASH_LINENO" =>
      list (s.calls.map (fun call => Number.decimal call.line) ++ (if s.isScript then [['0']] else []))
    | "PIPESTATUS" => list (s.pipeStatuses.map fun (n : Nat) => Number.decimal n)
    | "DIRSTACK" => list (s.directory :: s.directories)
    | "GROUPS" => list [['0']]
    | "BASH_ALIASES" => return some (.keyed true s.aliases)
    | "BASH_CMDS" => return some (.keyed true (s.found.map fun (name, path, _) => (name, path)))
    | _ => return none

/-- The entry of a variable in the innermost scope that has one. -/
def visible? (s : Shell) (name : String) : Option Variable :=
  (s.scopes.findSome? fun scope => scope.bindings.lookup name).or (s.globals.lookup name)

/-- The variable of a name, without following references. -/
def binding? (name : String) : Command (Option Variable) := do
  let s ← get
  match visible? s name with
  | some entry => return some entry
  | none =>
    match ← ownValue? name with
    | some content => return some ⟨content, .none⟩
    | none => return none

/-- Puts an entry in place of the one with its key. -/
def replaceEntry {α : Type} (key : String) (value : α) : List (String × α) → List (String × α)
  | [] => [(key, value)]
  | (k, v) :: rest => if k = key then (key, value) :: rest else (k, v) :: replaceEntry key value rest

/-- Puts an entry into the innermost scope that has one of its name, or else among the globals. -/
def placeEntry (name : String) (entry : Variable) : List Scope → Option (List Scope)
  | [] => none
  | scope :: scopes =>
    if (scope.bindings.lookup name).isSome then
      some ({ scope with bindings := replaceEntry name entry scope.bindings } :: scopes)
    else (placeEntry name entry scopes).map (scope :: ·)

/-- The place to begin with in the options when it is set by hand. -/
def placeOfIndex (value : Option Text) : Nat × Option Nat :=
  match Number.integer? (some 10) (value.getD []) with
  | some n => (max n.toNat 1, none)
  | none => (1, none)

/-- What setting a variable does to the shell besides. -/
def noticed (name : String) (value : Option Text) (s : Shell) : Shell :=
  match name with
  | "OPTIND" => { s with optionPlace := placeOfIndex value }
  | "PATH" => { s with found := [] }
  | _ => s

/-- Puts a variable in place. -/
def putVariable (name : String) (entry : Variable) : Command Unit :=
  modify fun s =>
    let s := noticed name entry.content.value? s
    match placeEntry name entry s.scopes with
    | some scopes => { s with scopes }
    | none => { s with globals := replaceEntry name entry s.globals }

/-- Puts a variable into the scope of the innermost function. -/
def putLocal (name : String) (entry : Variable) : Command Unit :=
  modify fun s =>
    let rec place : List Scope → List Scope
      | [] => []
      | scope :: scopes =>
        if scope.isFunction then
          { scope with bindings := replaceEntry name entry scope.bindings } :: scopes
        else scope :: place scopes
    { noticed name entry.content.value? s with scopes := place s.scopes }

/-- The entry of a variable in the scope of the innermost function. -/
def localOf? (s : Shell) (name : String) : Option Variable :=
  (s.scopes.find? (·.isFunction)).bind fun scope => scope.bindings.lookup name

/-- Takes the innermost entry of a variable away; in the running function an unset one stays. -/
def removeVariable (name : String) : Command Unit :=
  modify fun s =>
    let rec remove : (first : Bool) → List Scope → Option (List Scope)
      | _, [] => none
      | first, scope :: scopes =>
        if (scope.bindings.lookup name).isSome then
          let bindings :=
            if scope.isFunction && first then replaceEntry name Variable.unset scope.bindings
            else scope.bindings.filter (·.1 ≠ name)
          some ({ scope with bindings } :: scopes)
        else (remove (first && !scope.isFunction) scopes).map (scope :: ·)
    let s := noticed name none s
    let s := { s with forgotten := name :: s.forgotten }
    match remove true s.scopes with
    | some scopes => { s with scopes }
    | none => { s with globals := s.globals.filter (·.1 ≠ name) }

/-- Says that a variable cannot be changed. -/
def refuseChange (name : String) : Command Unit :=
  complain (name.toList ++ ": readonly variable".toList)

/-- What setting one of the shell's own variables does; `none` if there is no such variable. -/
def setOwn? (name : String) (value : Text) : Command (Option Unit) := do
  let number := ((Number.integer? (some 10) value).getD 0)
  if (← get).forgotten.contains name then return none
  else
    match name with
    | "RANDOM" => modify fun s => { s with seed := (number.emod 4294967296).toNat }
    | "SECONDS" => modify fun s => { s with started := (clock s).1 - number }
    | "BASH_ARGV0" => modify fun s => { s with name := value }
    | "LINENO" => modify fun s => { s with line := number.toNat }
    | "SRANDOM" | "BASHPID" | "BASH_SUBSHELL" | "BASH_COMMAND" | "EPOCHSECONDS" | "EPOCHREALTIME"
    | "FUNCNAME" | "BASH_SOURCE" | "BASH_LINENO" | "GROUPS" | "DIRSTACK" | "_" | "PIPESTATUS" => pure ()
    | _ => return none
    return some ()

/-- Sets a variable or an element of it; `false` if it cannot be changed, which has been reported
then. -/
def store (name : String) (key : Option Key) (value : Text) : Command Bool := do
  let s ← get
  let entry := (visible? s name).getD .unset
  if entry.attributes.readOnly || name = "SHELLOPTS" || name = "BASHOPTS" then
    refuseChange name
    return false
  else
    match ← setOwn? name value with
    | some () => return true
    | none =>
      let value := Variable.recased entry.attributes value
      let content := match key with
        | some key => entry.content.put key value
        | none => entry.content.putValue value
      let exported := entry.attributes.exported || s.options.contains "allexport"
      putVariable name ⟨content, { entry.attributes with exported }⟩
      return true

/-- Does work in a scope of its own. -/
def inScope {α : Type} (scope : Scope) (work : Command α) : Command α := fun s =>
  let depth := s.scopes.length
  let restore (s : Shell) : Shell := { s with scopes := s.scopes.drop (s.scopes.length - depth) }
  match work { s with scopes := scope :: s.scopes } with
  | .ok value s => .ok value (restore s)
  | .error jump s => .error jump (restore s)

/-- The first entries of their names, by name. -/
def sortedEntries (entries : List (String × Variable)) : List (String × Variable) :=
  let distinct := entries.foldl (fun (found : List (String × Variable)) entry =>
    if (found.lookup entry.1).isSome then found else entry :: found) []
  distinct.mergeSort fun a b => !Ordered.nameBefore b.1 a.1

/-- All variables that can be seen, by name. -/
def allVariables (s : Shell) : List (String × Variable) :=
  sortedEntries (s.scopes.flatMap (·.bindings) ++ s.globals)

/-- The variables that the shell itself keeps, as they are listed: most of them get a value only when they
are looked at. -/
def ownListing (s : Shell) : List (String × Variable) :=
  let fixed : Attributes := { Attributes.none with readOnly := true }
  let integer : Attributes := { Attributes.none with integer := true }
  let plain (name : String) : String × Variable := (name, .unset)
  let counted (name : String) : String × Variable := (name, ⟨.single none, integer⟩)
  let list (name : String) (values : List Text) : String × Variable :=
    (name, ⟨.indexed true (values.zipIdx.map fun (value, n) => (n, value)), .none⟩)
  let main : List Text := if s.isScript then [s.name] else []
  let lines := s.calls.map (fun call => Number.decimal call.line) ++ (if s.isScript then [['0']] else [])
  let entries :=
    [("BASHOPTS", ⟨.single (some (joined (settingNames.map (·.1)) s.settings)), fixed⟩),
      counted "BASHPID", ("BASH_ALIASES", ⟨.keyed true [], .none⟩), list "BASH_ARGC" [],
      list "BASH_ARGV" [], plain "BASH_ARGV0", ("BASH_CMDS", ⟨.keyed true [], .none⟩),
      plain "BASH_COMMAND", list "BASH_LINENO" lines,
      list "BASH_SOURCE" (s.calls.map (·.file) ++ main), plain "BASH_SUBSHELL",
      plain "COMP_WORDBREAKS", list "DIRSTACK" [], plain "EPOCHREALTIME", plain "EPOCHSECONDS",
      list "GROUPS" [], counted "HISTCMD", plain "LINENO", counted "RANDOM", plain "SECONDS",
      ("SHELLOPTS", ⟨.single (some (joined optionNames s.options)), fixed⟩), counted "SRANDOM",
      ("_", .ofText s.lastWord)]
  let calls : List (String × Variable) :=
    if s.calls.isEmpty then []
    else [list "FUNCNAME" (s.calls.map (·.name) ++ (if s.isScript then ["main".toList] else []))]
  let statuses : List (String × Variable) :=
    if s.pipeStatuses.isEmpty then []
    else [list "PIPESTATUS" (s.pipeStatuses.map fun (n : Nat) => Number.decimal n)]
  (entries ++ calls ++ statuses).filter fun entry => !s.forgotten.contains entry.1

/-- All variables as they are listed. -/
def listing (s : Shell) : List (String × Variable) :=
  let calls : List (String × Variable) :=
    if s.calls.isEmpty then [("FUNCNAME", ⟨.indexed false [], .none⟩)] else []
  sortedEntries (allVariables s ++ ownListing s ++ calls)

/-- The names of the variables that have values. -/
def namesInUse (s : Shell) : List String :=
  let hasValue (entry : String × Variable) : Bool :=
    match entry.2.content with
    | .single none | .indexed false _ | .keyed false _ => false
    | _ => true
  (sortedEntries ((allVariables s).filter hasValue ++ ownListing s)).map (·.1)

/-- The variables that programs are given, in the order of their chains. -/
def environment : Command (List (String × Text)) := do
  let s ← get
  let exported := (allVariables s).filterMap fun (name, entry) =>
    if entry.attributes.exported then entry.content.value?.map (name, ·) else none
  let functions := s.functions.filterMap fun (name, f) =>
    if f.exported then
      some (String.ofList ("BASH_FUNC_".toList ++ name ++ "%%".toList),
        f.body.definition (fun n => s.documents.lookup n) [] false)
    else none
  return inChainOrder (fun entry => entry.1.toList) exported ++ functions

/-- The names of a subject's variable, after references have been followed. -/
def target (name : String) : Command String := do
  let rec follow : (fuel : Nat) → String → Command String
    | 0, name => return name
    | fuel + 1, name => do
      match visible? (← get) name with
      | some ⟨.single (some next), attributes⟩ =>
        if attributes.reference && !next.isEmpty then follow fuel (String.ofList next) else return name
      | _ => return name
  follow 10 name

/-- The characters that separate fields. -/
def separators : Command Text := do
  match ← binding? "IFS" with
  | some entry => return entry.content.value?.getD [' ', '\t', '\n']
  | none => return [' ', '\t', '\n']

/-- What joins values when they become one text. -/
def joiner : Command Text := do
  match (← binding? "IFS").bind (·.content.value?) with
  | some ifs => return ifs.take 1
  | none => return [' ']

/-- Runs a command as a process of its own; only the machine keeps what it does. -/
def child (body : Command Nat) : Command Halt := fun s =>
  let machine := s.machine
  let outer := { s with machine := Machine.blank }
  let task : Task Nat := fun machine =>
    match body { outer with machine, buffer := [], subshells := outer.subshells + 1 } with
    | .ok status s => .ok status s.machine
    | .error (.halt halt) s => .error halt s.machine
    | .error (.killed signal) s => .error (.killed signal) s.machine
    | .error _ s => .ok s.status s.machine
  match Task.child task machine with
  | .ok halt machine => .ok halt { outer with machine }
  | .error halt machine => .error (.halt halt) { outer with machine }

end Command

end KDispatch.Shell.Extended
