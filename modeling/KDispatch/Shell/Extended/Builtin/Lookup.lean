import KDispatch.Shell.Extended.Builtin.Directories
import KDispatch.Shell.Extended.Builtin.Declaration

/-!
What names stand for: aliases, keywords, functions, builtin commands and programs in the search path; and
the builtins that tell it.
-/

namespace KDispatch.Shell.Extended.Builtin

/-- The names of all builtin commands. -/
def names : List String :=
  [".", ":", "[", "alias", "bg", "bind", "break", "builtin", "caller", "cd", "command", "compgen",
    "complete", "compopt", "continue", "declare", "dirs", "disown", "echo", "enable", "eval", "exec",
    "exit", "export", "false", "fc", "fg", "getopts", "hash", "help", "history", "jobs", "kill", "let",
    "local", "logout", "mapfile", "popd", "printf", "pushd", "pwd", "read", "readarray", "readonly",
    "return", "set", "shift", "shopt", "source", "suspend", "test", "times", "trap", "true", "type",
    "typeset", "ulimit", "umask", "unalias", "unset", "wait"]

/-- The builtins whose assignments stay. -/
def specialNames : List String :=
  [".", ":", "break", "continue", "eval", "exec", "exit", "export", "readonly", "return", "set",
    "shift", "source", "times", "trap", "unset"]

/-- Whether a name is that of a builtin that is on. -/
def isBuiltin (s : Shell) (name : Text) : Bool :=
  names.contains (String.ofList name) && !s.disabled.contains (String.ofList name)

/-- Whether a path leads to a file that can be run. -/
def isProgram (files : FileSystem) (path : Text) : Bool :=
  match files.locate (Task.path path) with
  | .ok location =>
    match files.node? location with
    | some (.file _ isExecutable) => isExecutable
    | _ => false
  | .error _ => false

/-- Whether a path leads to something other than a directory. -/
def isFile (files : FileSystem) (path : Text) : Bool :=
  match files.locate (Task.path path) with
  | .ok location =>
    match files.node? location with
    | some .directory | none => false
    | some _ => true
  | .error _ => false

/-- The files of a name in the directories of a search path. -/
def filesOf (path name : Text) : List Text :=
  if path.isEmpty then [name]
  else (Shell.Builtin.searchPath path).map fun directory =>
    if directory.isEmpty then "./".toList ++ name else Shell.Builtin.below directory name

/-- The programs of a name in a search path; a name with a slash is a path. -/
def programs (files : FileSystem) (path name : Text) : List Text :=
  if name.contains '/' then if isProgram files name then [name] else []
  else (filesOf path name).filter (isProgram files)

/-- The file that a name stands for as a command: a program if there is one, or else any file. -/
def commandFile? (files : FileSystem) (path name : Text) : Option Text :=
  ((programs files path name).head?).or ((filesOf path name).find? (isFile files))

/-- The search path for programs. -/
def path : Command Text := return (← valueOf? "PATH").getD []

/-- Keeps in mind where a program has been found, and how often. -/
def keepFound (name path : Text) (count : Nat) : Command Unit :=
  modify fun s => { s with found := s.found.filter (·.1 ≠ name) ++ [(name, path, count)] }

/-- The file that a name stands for as a command, which is kept in mind. -/
def find? (name : Text) : Command (Option Text) := do
  let s ← get
  match s.found.lookup name with
  | some (known, count) =>
    modify fun s =>
      { s with
        found := s.found.map fun entry => if entry.1 = name then (name, known, count + 1) else entry }
    return some known
  | none =>
    match commandFile? s.machine.files (← path) name with
    | some file =>
      if isProgram s.machine.files file && s.options.contains "hashall" then keepFound name file 1
      return some file
    | none => return none

/-- What a name stands for. -/
inductive Meaning where
  | alias (text : Text)
  | keyword
  | function (f : Function)
  | builtin
  | program (path : Text) (known : Bool)

/-- All that a name stands for, the first one first. -/
def meanings (functions all : Bool) (path : Text) (name : Text) : Command (List Meaning) := do
  let s ← get
  let aliases : List Meaning :=
    if s.settings.contains "expand_aliases" then (s.aliases.lookup name).toList.map .alias else []
  let keyword : List Meaning :=
    if keywords.contains (String.ofList name) then [.keyword] else []
  let function : List Meaning :=
    if functions then (s.functions.lookup name).toList.map .function else []
  let builtin : List Meaning := if isBuiltin s name then [.builtin] else []
  let before := aliases ++ keyword ++ function ++ builtin
  let files := s.machine.files
  if all then
    let found := (programs files path name).map fun file => Meaning.program file false
    return before ++ found
  else
    match before with
    | first :: _ => return [first]
    | [] =>
      match s.found.lookup name with
      | some (file, _) => return [.program file true]
      | none => return ((programs files path name).head?).toList.map (.program · false)

/-- How a meaning is told. -/
inductive Telling where
  | sentence
  | kind
  /-- The path of a program alone. -/
  | file
  /-- A word that leads to the same again. -/
  | word
  deriving DecidableEq

/-- Tells what a name stands for. -/
def tell (telling : Telling) (name : Text) (meaning : Meaning) : Command Unit := do
  let s ← get
  let add (text : String) : Command Unit := Command.printLine (name ++ text.toList)
  match telling, meaning with
  | .sentence, .alias text => Command.printLine (name ++ " is aliased to ".toList ++ marked text)
  | .sentence, .keyword => add " is a shell keyword"
  | .sentence, .function f =>
    add " is a function"
    Command.printLine (functionText s name f)
  | .sentence, .builtin => add " is a shell builtin"
  | .sentence, .program file known =>
    if known then Command.printLine (name ++ " is hashed (".toList ++ file ++ [')'])
    else Command.printLine (name ++ " is ".toList ++ file)
  | .kind, meaning =>
    Command.printLine (match meaning with
      | .alias _ => "alias"
      | .keyword => "keyword"
      | .function _ => "function"
      | .builtin => "builtin"
      | .program _ _ => "file").toList
  | .word, .alias text => Command.printLine ("alias ".toList ++ name ++ '=' :: Quoting.single text)
  | .word, .program file _ | .file, .program file _ => Command.printLine file
  | .word, _ => Command.printLine name
  | .file, _ => return

/-- Tells what names stand for. -/
def type (words : List Text) : Work Nat := do
  let (found, words) ← options "afptP" words
  let telling : Telling :=
    if has found 't' then .kind else if has found 'p' || has found 'P' then .file else .sentence
  let all := has found 'a'
  let mut status := 0
  for name in words do
    let files := (← (get : Command Shell)).machine.files
    let path ← (path : Command Text)
    let meanings ← if has found 'P' then
        let known := (programs files path name).map fun file => Meaning.program file false
        pure (if all then known else known.take 1)
      else (meanings (!has found 'f') all path name : Command (List Meaning))
    for meaning in meanings do tell telling name meaning
    if meanings.isEmpty then
      if telling = .sentence then Command.warn (name ++ ": not found".toList)
      status := 1
  return status

/-- Tells what names stand for, by words that lead to the same again or by sentences. -/
def describe (telling : Telling) (path : Text) (words : List Text) : Command Nat := do
  let mut status := 1
  for name in words do
    match ← meanings true false path name with
    | meaning :: _ =>
      tell telling name meaning
      status := 0
    | [] => if telling = .sentence then Command.warn (name ++ ": not found".toList)
  return status

/-- The programs that have been found, chain after chain. -/
def foundInOrder (s : Shell) : List (Text × Text × Nat) :=
  (s.found.reverse.map fun entry => ((hashOf entry.1).toNat % 256, entry)).mergeSort
    (fun a b => a.1 ≤ b.1) |>.map (·.2)

/-- Looks programs up, or shows those that have been found. -/
def hash (words : List Text) : Work Nat := do
  let (found, words) ← options "dlp:rt" words
  if has found 'r' then modify fun s : Shell => { s with found := [] }
  let known := foundInOrder (← (get : Command Shell))
  let notFound (word : Text) : Command Unit := Command.warn (word ++ ": not found".toList)
  if words.isEmpty then
    if has found 't' then
      Command.warn "-t: option requires an argument".toList
      return 1
    else if has found 'r' then return 0
    else if has found 'l' then
      for (name, path, _) in known do
        Command.printLine ("builtin hash -p ".toList ++ path ++ ' ' :: name)
    else if known.isEmpty then Command.printLine "hash: hash table empty".toList
    else
      Command.printLine "hits\tcommand".toList
      for (_, path, count) in known do
        let digits := Number.decimal count
        Command.printLine (List.replicate (4 - digits.length) ' ' ++ digits ++ '\t' :: path)
    return 0
  else
    let mut status := 0
    for word in words do
      let s ← (get : Command Shell)
      if has found 't' then
        match s.found.lookup word with
        | some (path, _) =>
          let _ ← (find? word : Command (Option Text))
          if has found 'l' then
            Command.printLine ("builtin hash -p ".toList ++ path ++ ' ' :: word)
          else if 1 < words.length then Command.printLine (word ++ '\t' :: path)
          else Command.printLine path
        | none =>
          notFound word
          status := 1
      else if has found 'd' then
        if (s.found.lookup word).isSome then
          modify fun s : Shell => { s with found := s.found.filter (·.1 ≠ word) }
        else
          notFound word
          status := 1
      else
        match argument? found 'p' with
        | some path => keepFound word path 0
        | none =>
          if word.contains '/' || isBuiltin s word || (s.functions.lookup word).isSome then pure ()
          else
            match (programs s.machine.files (← (path : Command Text)) word).head? with
            | some path => keepFound word path 0
            | none =>
              notFound word
              status := 1
    return status

def showAlias (entry : Text × Text) : Command Unit :=
  Command.printLine ("alias ".toList ++ entry.1 ++ '=' :: Quoting.single entry.2)

/-- Whether a text can be the name of an alias. -/
def isAliasName (name : Text) : Bool :=
  !name.isEmpty && name.all fun c => !(" \t\n/$&;()|<>\"'\\".toList.contains c || c.toNat = 0x60)

/-- Defines aliases, or shows them. -/
def defineAliases (words : List Text) : Work Nat := do
  let (found, words) ← options "p" words
  let all := (← (get : Command Shell)).aliases.mergeSort fun a b => !Ordered.precedes b.1 a.1
  if words.isEmpty || has found 'p' then
    for entry in all do showAlias entry
  let mut status := 0
  for word in words do
    let name := word.takeWhile (· ≠ '=')
    match word.drop name.length with
    | _ :: text =>
      if name.isEmpty then
        Command.warn (word ++ ": not found".toList)
        status := 1
      else if isAliasName name then
        modify fun s : Shell =>
          { s with aliases := s.aliases.filter (·.1 ≠ name) ++ [(name, text)] }
      else
        Command.warn (marked name ++ ": invalid alias name".toList)
        status := 1
    | [] =>
      match (← (get : Command Shell)).aliases.lookup word with
      | some text => showAlias (word, text)
      | none =>
        Command.warn (word ++ ": not found".toList)
        status := 1
  return status

/-- Takes aliases away. -/
def removeAliases (words : List Text) : Work Nat := do
  let (found, words) ← options "a" words
  if has found 'a' then
    modify fun s : Shell => { s with aliases := [] }
    return 0
  else
    if words.isEmpty then misused
    let mut status := 0
    for word in words do
      if ((← (get : Command Shell)).aliases.lookup word).isSome then
        modify fun s : Shell => { s with aliases := s.aliases.filter (·.1 ≠ word) }
      else
        Command.warn (word ++ ": not found".toList)
        status := 1
    return status

/-- Turns builtins on or off, or shows them. -/
def enable (words : List Text) : Work Nat := do
  let (found, words) ← options "adnpsf:" words
  let off := has found 'n'
  if words.isEmpty || has found 'p' then
    let s ← (get : Command Shell)
    for name in names do
      let isOff := s.disabled.contains name
      let isShown := (has found 'a' || isOff == off) && (!has found 's' || specialNames.contains name)
      if isShown then
        Command.printLine ((if isOff then "enable -n " else "enable ").toList ++ name.toList)
    return 0
  else
    let mut status := 0
    for word in words do
      let name := String.ofList word
      if names.contains name then
        modify fun s : Shell =>
          let others := s.disabled.filter (· ≠ name)
          { s with disabled := if off then name :: others else others }
      else
        Command.warn (word ++ ": not a shell builtin".toList)
        status := 1
    return status

/-- Tells where the running function has been called. -/
def caller (words : List Text) : Work Nat := do
  let words ← withoutOptions words
  let s ← (get : Command Shell)
  let calls := s.calls
  match words with
  | [] =>
    match calls with
    | [] =>
      Command.printLine "0 NULL".toList
      return 0
    | call :: rest =>
      let file := (rest.head?.map (·.file)).getD (if s.isScript then s.name else "NULL".toList)
      Command.printLine (Number.decimal call.line ++ ' ' :: file)
      return 0
  | word :: _ =>
    match integer? word with
    | none =>
      Command.warn (word ++ ": invalid number".toList)
      misused
    | some n =>
      if n < 0 then return 1
      else
        match calls[n.toNat]?, calls[n.toNat + 1]? with
        | none, _ => return 1
        | some call, next =>
          match next with
          | some outer =>
            Command.printLine (Number.decimal call.line ++ ' ' :: outer.name ++ ' ' :: outer.file)
            return 0
          | none =>
            if s.isScript then
              Command.printLine (Number.decimal call.line ++ " main ".toList ++ s.name)
              return 0
            else return 1

/-- Tells the words that begin with a text. -/
def complete (words : List Text) : Work Nat := do
  let (found, words) ← options "abcdefgjksuvo:A:G:W:F:C:X:P:S:" words
  let s ← (get : Command Shell)
  let stem := words.headD []
  let ifs ← (Command.separators : Command Text)
  let listed := match argument? found 'W' with
    | some text => (Splitting.split ifs (Glyph.ofText false true text)).map Glyph.text
    | none => []
  let action := (argument? found 'A').map String.ofList
  let functions := if action = some "function" then (sortedFunctions s).map (·.1) else []
  let builtins := if has found 'b' || action = some "builtin" then names.map String.toList else []
  let words :=
    if has found 'k' || action = some "keyword" then Extended.keywords.map String.toList else []
  let known :=
    if has found 'v' || action = some "variable" then
      (Command.namesInUse s).map String.toList else []
  let aliases := if has found 'a' || action = some "alias" then s.aliases.map (·.1) else []
  let all := listed ++ functions ++ builtins ++ words ++ known ++ aliases
  let matching := all.filter stem.isPrefixOf
  let start := (argument? found 'P').getD []
  let ending := (argument? found 'S').getD []
  for word in matching do Command.printLine (start ++ word ++ ending)
  return if matching.isEmpty then 1 else 0

end KDispatch.Shell.Extended.Builtin
