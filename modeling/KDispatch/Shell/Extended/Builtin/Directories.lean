import KDispatch.Shell.Extended.Builtin.Options

/-!
The builtins of the extended shell for its working directory and the directories to go back to.
-/

namespace KDispatch.Shell.Extended.Builtin

/-- The value of a variable. -/
def valueOf? (name : String) : Command (Option Text) :=
  return (← Command.binding? name).bind (·.content.value?)

/-- Goes to a directory, or tells why that cannot be done. -/
def enter (physical : Bool) (target : Text) : Command (Except SystemError Unit) := do
  let s ← get
  let path := if physical then target else Shell.Builtin.logicalPath s.directory target
  match s.machine.files.locate (Task.path path) with
  | .error e => return .error e
  | .ok location =>
    match s.machine.files.node? location with
    | none => return .error .notFound
    | some .directory =>
      let directory := if physical then Task.ofLocation location else path
      let old ← valueOf? "PWD"
      modify fun s =>
        { s with
          directory
          machine :=
            { s.machine with files := { s.machine.files with workingDirectory := location } } }
      let _ ← Command.store "OLDPWD" none (old.getD s.directory)
      let _ ← Command.store "PWD" none directory
      return .ok ()
    | some _ => return .error .notADirectory

/-- Goes to the first of some directories that can be gone to; shows it if it has been searched for. -/
def enterFirst (physical shows : Bool) (target : Text) : List (Text × Bool) → Work Unit
  | [] => refuse (target ++ (": " ++ SystemError.notFound.reason).toList)
  | (candidate, announced) :: rest => do
    match ← (enter physical candidate : Command _) with
    | .ok () =>
      if shows || announced then Command.printLine (← (get : Command Shell)).directory
    | .error e =>
      if rest.isEmpty then refuse (target ++ (": " ++ e.reason).toList)
      else enterFirst physical shows target rest

/-- Whether a path begins at the working directory or its parent by name. -/
def isDotted : Text → Bool
  | ['.'] | '.' :: '/' :: _ | ['.', '.'] | '.' :: '.' :: '/' :: _ => true
  | _ => false

/-- Goes to the directory of a name, for which other directories may be searched. -/
def goTo (physical : Bool) (target : Text) (shows : Bool) : Work Unit := do
  if target.isEmpty && !physical then
    let s ← (get : Command Shell)
    let _ ← (Command.store "OLDPWD" none s.directory : Command Bool)
  else
    let searched := ((← (valueOf? "CDPATH" : Command _)).getD [])
    let isDirect := target.head? = some '/' || isDotted target || searched.isEmpty
    let before :=
      if isDirect then []
      else (Shell.Builtin.searchPath searched).map fun directory =>
        (Shell.Builtin.below directory target, !directory.isEmpty)
    enterFirst physical shows target (before ++ [(target, false)])

/-- The directory that a word of `cd` stands for, and whether it is shown. -/
def cdTarget (words : List Text) : Work (Text × Bool) := do
  let needed (name : String) : Work Text := do
    match ← (valueOf? name : Command _) with
    | some value => return value
    | none => refuse (name.toList ++ " not set".toList)
  match words with
  | [] => return (← needed "HOME", false)
  | [['-']] => return (← needed "OLDPWD", true)
  | [word] => return (word, false)
  | _ => refuse "too many arguments".toList

/-- Whether paths without links are asked for. -/
def isPhysical (found : List Choice) : Work Bool := do
  let last := (found.filter fun o => o.letter = 'P' || o.letter = 'L').getLast?
  match last with
  | some choice => return choice.letter = 'P'
  | none => Command.hasOption "physical"

/-- Changes the working directory. -/
def changeDirectory (words : List Text) : Work Nat := do
  let (found, words) ← options "eLP@" words
  let (target, shows) ← cdTarget words
  goTo (← isPhysical found) target shows
  return 0

def showDirectory (words : List Text) : Work Nat := do
  let (found, _) ← options "LP" words
  let s ← (get : Command Shell)
  Command.printLine
    (if ← isPhysical found then Task.ofLocation s.machine.files.workingDirectory else s.directory)
  return 0

/-- A directory, in which a tilde stands for the home directory. -/
def withTilde (home : Option Text) (directory : Text) : Text :=
  match home with
  | some home =>
    if home.length ≤ 1 then directory
    else if directory = home then ['~']
    else if (home ++ ['/']).isPrefixOf directory then '~' :: directory.drop home.length
    else directory
  | none => directory

/-- Shows the directories to go back to, from the working directory on. -/
def showDirectories : Command Unit := do
  let home ← valueOf? "HOME"
  let s ← get
  Command.printLine ([' '].intercalate ((s.directory :: s.directories).map (withTilde home)))

/-- The place in a list of a length that a word with a sign names; none if it is out of range. -/
def stackPlace (length : Nat) (sign : Char) (n : Nat) : Option Nat :=
  if length ≤ n then none else some (if sign = '+' then n else length - 1 - n)

/-- Refuses a place that is out of range. -/
def refusePlace {α : Type} (word : Text) : Work α := do
  if (← (get : Command Shell)).directories.isEmpty then refuse "directory stack empty".toList
  else refuse (word ++ ": directory stack index out of range".toList)

/-- A number after a sign. -/
def signed? : Text → Option (Char × Nat)
  | sign :: c :: digits =>
    if (sign = '+' || sign = '-') && (c :: digits).all Char.isDigit then
      some (sign, (Number.digits 10 (c :: digits) 0 0).1)
    else none
  | _ => none

/-- Shows or clears the directories to go back to. -/
def dirs (words : List Text) : Work Nat := do
  let mut place : Option (Text × Char × Nat) := none
  let mut (long, single, numbered, clears) := (false, false, false, false)
  for word in words do
    match word with
    | ['-', 'l'] => long := true
    | ['-', 'p'] => single := true
    | ['-', 'v'] => numbered := true
    | ['-', 'c'] => clears := true
    | ['-', '-'] => pure ()
    | word =>
      match signed? word with
      | some (sign, n) => place := some (word, sign, n)
      | none =>
        if word.head? = some '-' || word.head? = some '+' then
          Command.warn (word ++ ": invalid number".toList)
        else Command.warn (word ++ ": invalid option".toList)
        misused
  if clears then
    modify fun s : Shell => { s with directories := [] }
    return 0
  else
    let home ← if long then pure none else (valueOf? "HOME" : Command _)
    let s ← (get : Command Shell)
    let all := s.directory :: s.directories
    let number (n : Nat) : Text :=
      let digits := Number.decimal n
      List.replicate (2 - digits.length) ' ' ++ digits ++ [' ', ' ']
    match place with
    | some (word, sign, n) =>
      match stackPlace all.length sign n with
      | some n =>
        Command.printLine ((if numbered then number n else []) ++ withTilde home (all.getD n []))
      | none => refusePlace word
    | none =>
      if numbered then
        for (directory, n) in all.zipIdx do
          Command.printLine (number n ++ withTilde home directory)
      else if single then
        for directory in all do Command.printLine (withTilde home directory)
      else Command.printLine ([' '].intercalate (all.map (withTilde home)))
    return 0

/-- What `pushd` and `popd` are given: whether the working directory stays, a place, and a directory. -/
structure StackRequest where
  stays : Bool
  place : Option (Text × Char × Nat)
  directory : Option Text

/-- Reads the words of `pushd` and `popd`. -/
def stackRequest (takesDirectory : Bool) : List Text → StackRequest → Work StackRequest
  | [], request => return request
  | word :: rest, request => do
    match word with
    | ['-', 'n'] => stackRequest takesDirectory rest { request with stays := true }
    | ['-', '-'] =>
      match rest with
      | [] => return request
      | directory :: _ => return { request with directory := some directory }
    | word =>
      match signed? word with
      | some (sign, n) =>
        stackRequest takesDirectory rest { request with place := some (word, sign, n) }
      | none =>
        if word = ['-'] && takesDirectory then
          return { request with directory := some word }
        else if word.head? = some '-' then
          Command.warn (word ++ ": invalid number".toList)
          misused
        else if !takesDirectory then
          Command.warn (word ++ ": invalid argument".toList)
          misused
        else if !rest.isEmpty then refuse "too many arguments".toList
        else return { request with directory := some word }

/-- Goes to the first of some directories and keeps the other ones. -/
def takeDirectories (stays : Bool) (all : List Text) : Work Unit := do
  match all with
  | [] => return
  | first :: rest =>
    if !stays then goTo false first false
    modify fun s : Shell => { s with directories := rest }

/-- Goes to a directory, which keeps the one before it. -/
def pushd (words : List Text) : Work Nat := do
  let request ← stackRequest true words ⟨false, none, none⟩
  let s ← (get : Command Shell)
  let all := s.directory :: s.directories
  match request.directory, request.place with
  | some directory, _ =>
    if request.stays then
      modify fun s : Shell => { s with directories := directory :: s.directories }
    else
      let (target, shows) ← cdTarget [directory]
      goTo false target shows
      modify fun s : Shell => { s with directories := all }
  | none, some (word, sign, n) =>
    match stackPlace all.length sign n with
    | none => refusePlace word
    | some n => takeDirectories request.stays (all.drop n ++ all.take n)
  | none, none =>
    match s.directories with
    | [] => refuse "no other directory".toList
    | next :: rest => takeDirectories request.stays (next :: s.directory :: rest)
  showDirectories
  return 0

/-- Goes back to a directory that has been kept. -/
def popd (words : List Text) : Work Nat := do
  let request ← stackRequest false words ⟨false, none, none⟩
  let s ← (get : Command Shell)
  let all := s.directory :: s.directories
  if s.directories.isEmpty then refuse "directory stack empty".toList
  match request.place with
  | some (word, sign, n) =>
    match stackPlace all.length sign n with
    | none => refusePlace word
    | some 0 => takeDirectories request.stays s.directories
    | some n => modify fun s : Shell => { s with directories := s.directories.eraseIdx (n - 1) }
  | none =>
    if request.stays then modify fun s : Shell => { s with directories := s.directories.drop 1 }
    else takeDirectories false s.directories
  showDirectories
  return 0

end KDispatch.Shell.Extended.Builtin
