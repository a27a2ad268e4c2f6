import KDispatch.Shell.Extended.Builtin.Declaration
import KDispatch.Shell.Extended.Expansion

/-!
The builtins that set and show the options of the extended shell and its positional parameters, and the one
that goes through options in words.
-/

namespace KDispatch.Shell.Extended.Builtin

/-- Fills a text up to a width. -/
def padded (width : Nat) (text : Text) : Text := text ++ List.replicate (width - text.length) ' '

/-- Sets an option or takes it back. -/
def setOption (name : String) (on : Bool) : Command Unit :=
  modify fun s =>
    let others := s.options.filter (· ≠ name)
    { s with options := if on then name :: others else others }

def setSetting (name : String) (on : Bool) : Command Unit :=
  modify fun s =>
    let others := s.settings.filter (· ≠ name)
    { s with settings := if on then name :: others else others }

/-- Shows all options, as a list or as commands that set them. -/
def showOptions (commands : Bool) : Command Unit := do
  for name in Command.optionNames do
    let on ← Command.hasOption name
    if commands then
      Command.printLine ((if on then "set -o " else "set +o ").toList ++ name.toList)
    else
      Command.printLine (padded 15 name.toList ++ '\t' :: (if on then "on" else "off").toList)

/-- Reports an option that has no letter. -/
def invalidLetter {α : Type} (sign letter : Char) : Work α := do
  Command.warn (sign :: letter :: ": invalid option".toList)
  misused

/-- Checks the letters of all options before any of them is set. -/
def checkLetters : List Text → Work Unit
  | [] => return
  | word :: rest => do
    match word with
    | ['-'] | ['-', '-'] => return
    | sign :: c :: letters =>
      if sign = '-' || sign = '+' then
        match (c :: letters).find? fun c => c ≠ 'o' && !(Command.optionLetters.any (·.1 = c)) with
        | some letter => invalidLetter sign letter
        | none => checkLetters (rest.drop (if (c :: letters).contains 'o' then 1 else 0))
      else return
    | _ => return
termination_by words => words.length
decreasing_by simp only [List.length_drop, List.length_cons]; omega

/-- Sets the options of the letters of a word; gives the words after those that name options. -/
def setLetters (sign : Char) : Text → List Text → Work (List Text)
  | [], words => return words
  | 'o' :: letters, words => do
    match words with
    | (c :: name) :: rest =>
      if c = '-' || c = '+' then
        showOptions (sign = '+')
        setLetters sign letters words
      else
        let name := String.ofList (c :: name)
        if Command.optionNames.contains name then
          setOption name (sign = '-')
          setLetters sign letters rest
        else
          Command.warn (name.toList ++ ": invalid option name".toList)
          finish 2
    | words =>
      showOptions (sign = '+')
      setLetters sign letters words
  | letter :: letters, words => do
    match Command.optionLetters.lookup letter with
    | some name =>
      setOption name (sign = '-')
      setLetters sign letters words
    | none => invalidLetter sign letter

/-- Sets the options at the start of the words; gives the words that become the positional parameters,
unless these stay. -/
def setOptions : (fuel : Nat) → List Text → Work (Option (List Text))
  | 0, _ => return none
  | fuel + 1, words => do
    match words with
    | [] => return none
    | ['-', '-'] :: rest => return some rest
    | ['-'] :: rest =>
      setOption "xtrace" false
      setOption "verbose" false
      return if rest.isEmpty then none else some rest
    | (sign :: letters) :: rest =>
      if sign = '-' || sign = '+' then
        let rest ← setLetters sign letters rest
        setOptions fuel rest
      else return some words
    | words => return some words

/-- Sets options and positional parameters, or shows variables. -/
def set (words : List Text) : Work Nat := do
  if words.isEmpty then
    showAssignments
    showFunctions true fun _ => true
  else
    checkLetters words
    match ← setOptions (words.length + 1) words with
    | some arguments => modify fun s : Shell => { s with arguments }
    | none => pure ()
  return 0

/-- Shows options or further settings. -/
def showSettings (commands : Bool) (ofOptions : Bool) (names : List String) : Command Unit := do
  for name in names do
    let on ← if ofOptions then Command.hasOption name else Command.hasSetting name
    if commands then
      let start := if ofOptions then (if on then "set -o " else "set +o ")
        else if on then "shopt -s " else "shopt -u "
      Command.printLine (start.toList ++ name.toList)
    else
      Command.printLine
        (padded 15 name.toList ++ '\t' :: (if on then "on" else "off").toList)

/-- Sets or shows further settings. -/
def shopt (words : List Text) : Work Nat := do
  let (found, words) ← options "psuoq" words
  let sets := has found 's'
  let unsets := has found 'u'
  let ofOptions := has found 'o'
  if sets && unsets then refuse "cannot set and unset shell options simultaneously".toList
  let known := if ofOptions then Command.optionNames else Command.settingNames.map (·.1)
  let isOn (name : String) : Command Bool :=
    if ofOptions then Command.hasOption name else Command.hasSetting name
  let invalid (word : Text) : Command Unit :=
    Command.warn (word ++ (if ofOptions then ": invalid option name" else
      ": invalid shell option name").toList)
  if words.isEmpty then
    let all ← (known.mapM fun name => do return (name, ← isOn name) : Command (List (String × Bool)))
    let shown := all.filter fun (_, on) => if sets then on else if unsets then !on else true
    if !has found 'q' then showSettings (has found 'p') ofOptions (shown.map (·.1))
    return 0
  else
    let mut status := 0
    for word in words do
      let name := String.ofList word
      if !known.contains name then
        invalid word
        status := 1
      else if sets || unsets then
        if ofOptions then setOption name sets else setSetting name sets
      else
        if !(← isOn name) then status := 1
        if !has found 'q' then showSettings (has found 'p') ofOptions [name]
    return status

/-- Gives the complete command up after too many arguments. -/
def tooMany {α : Type} : Work α := do
  Command.warn "too many arguments".toList
  Command.setStatus 1
  throw (m := Command) Jump.discard

/-- A number that a builtin may be given; a wrong one has been reported. -/
def number? (words : List Text) : Work (Option Int) := do
  let words := if words.head? = some ['-', '-'] then words.drop 1 else words
  match words with
  | [] => return some 1
  | word :: rest =>
    match integer? word with
    | none =>
      Command.warn (word ++ ": numeric argument required".toList)
      return none
    | some n =>
      if !rest.isEmpty then tooMany
      return some n

/-- Drops positional parameters. -/
def shift (words : List Text) : Work Nat := do
  match ← number? words with
  | none => return 1
  | some n =>
    let s ← (get : Command Shell)
    let outOfRange : Command Unit :=
      Command.warn ((match words.head? with
        | some word => word ++ ": ".toList
        | none => []) ++ "shift count out of range".toList)
    if n < 0 then
      outOfRange
      return 1
    else if (s.arguments.length : Int) < n then
      if s.settings.contains "shift_verbose" then outOfRange
      return 1
    else
      modify fun s : Shell => { s with arguments := s.arguments.drop n.toNat }
      return 0

/-- What a step through options has found. -/
inductive OptionStep where
  | finished
  | unknown (letter : Char)
  | missing (letter : Char)
  | found (letter : Char) (argument : Option Text)

/-- A step through the options in words from a place on, and the place after it. The place is the number
of a word, and how far it has been read if it has been begun. -/
def optionStep (known : String) (words : List Text) (place : Nat × Option Nat) :
    OptionStep × (Nat × Option Nat) :=
  let (index, offset) := place
  let current? : Option Text :=
    match words[index - 1]?, offset with
    | some word, some offset => if offset < word.length then some (word.drop offset) else none
    | _, _ => none
  let start? : Except (Nat × Option Nat) Text :=
    match current? with
    | some rest => .ok rest
    | none =>
      match words[index - 1]? with
      | none => .error (words.length + 1, none)
      | some ['-', '-'] => .error (index + 1, none)
      | some ('-' :: c :: rest) => .ok (c :: rest)
      | some _ => .error (index, none)
  match start? with
  | .error place => (.finished, place)
  | .ok [] => (.finished, (index, none))
  | .ok (letter :: rest) =>
    let length := (words.getD (index - 1) []).length
    let after : Nat × Option Nat :=
      if rest.isEmpty then (index + 1, none) else (index, some (length - rest.length))
    match choiceKind known letter with
    | none => (.unknown letter, after)
    | some false => (.found letter none, after)
    | some true =>
      if !rest.isEmpty then (.found letter (some rest), (index + 1, none))
      else
        match words[index]? with
        | some argument => (.found letter (some argument), (index + 2, none))
        | none => (.missing letter, (index + 1, none))

/-- Goes through the options in words. -/
def getopts (words : List Text) : Work Nat := do
  match ← withoutOptions words with
  | known :: name :: given =>
    let s ← (get : Command Shell)
    let words := if given.isEmpty then s.arguments else given
    let silent := known.head? = some ':'
    let letters := if silent then known.drop 1 else known
    let tells := !silent && ((Command.visible? s "OPTERR").bind (·.content.value?)) ≠ some ['0']
    let (step, place) := optionStep (String.ofList letters) words s.optionPlace
    let report (text : String) (letter : Char) : Command Unit := do
      if tells then
        let _ ← Command.task (Task.write 2 (s.name ++ text.toList ++ [letter, '\n']))
    let keep (argument : Option Text) : Command Unit := do
      match argument with
      | some text => let _ ← Command.store "OPTARG" none text
      | none => Command.removeVariable "OPTARG"
    let (letter, argument, status) : Char × Option Text × Nat ←
      match step with
      | .finished => pure ('?', none, 1)
      | .unknown letter => do
        report ": illegal option -- " letter
        pure ('?', if silent then some [letter] else none, 0)
      | .missing letter => do
        report ": option requires an argument -- " letter
        pure (if silent then ':' else '?', if silent then some [letter] else none, 0)
      | .found letter argument => pure (letter, argument, 0)
    let _ ← Command.store "OPTIND" none (Number.decimal place.1)
    modify fun s : Shell => { s with optionPlace := place }
    keep argument
    if !isName name then refuse (invalidName name)
    let stored ← Assigning.put (String.ofList name) none false [letter]
    return if stored then status else 1
  | _ => misused

/-- The mask after a change of letters, or what is wrong with it. -/
def changedMask (rights : Nat) (change : Text) : Except Text Nat :=
  let who := change.takeWhile fun c => c = 'u' || c = 'g' || c = 'o' || c = 'a'
  match change.drop who.length with
  | [] => .error (marked ['\x00'] ++ ": invalid symbolic mode operator".toList)
  | sign :: letters =>
    if sign ≠ '=' && sign ≠ '+' && sign ≠ '-' then
      .error (marked [sign] ++ ": invalid symbolic mode operator".toList)
    else
      match letters.find? fun c => !"rwxXugoast".toList.contains c with
      | some c => .error (marked [c] ++ ": invalid symbolic mode character".toList)
      | none =>
        match Shell.Builtin.changedRights? rights change with
        | some rights => .ok rights
        | none => .error (marked [sign] ++ ": invalid symbolic mode operator".toList)

/-- Shows or sets the rights that new files do not get. -/
def umask (words : List Text) : Work Nat := do
  let (found, words) ← options "Sp" words
  let mask := (← (get : Command Shell)).machine.mask
  let put (mask : Nat) : Command Unit :=
    modify fun s => { s with machine := { s.machine with mask } }
  match words with
  | [] =>
    let start := if has found 'p' then "umask ".toList ++ (if has found 'S' then "-S ".toList else []) else []
    Command.printLine (start ++
      (if has found 'S' then Shell.Builtin.rightsText mask else Shell.Builtin.octalDigits mask))
    return 0
  | word :: _ =>
    if (word.headD ' ').isDigit then
      if word.all fun c => '0' ≤ c && c ≤ '7' then
        put ((Number.digits 8 word 0 0).1 % 512)
      else refuse (word ++ ": octal number out of range".toList)
    else
      let changed := (word.splitOn ',').foldl
        (fun (rights : Except Text Nat) change => rights.bind (changedMask · change)) (.ok (511 - mask))
      match changed with
      | .ok rights => put (511 - rights)
      | .error message => refuse message
    if has found 'S' then
      Command.printLine (Shell.Builtin.rightsText (← (get : Command Shell)).machine.mask)
    return 0

/-- The limits of a process: their names and units, letters and sizes of units. -/
def limitNames : List (String × String × Char × Nat) :=
  [("real-time non-blocking time", "microseconds, ", 'R', 1),
    ("core file size", "blocks, ", 'c', 512), ("data seg size", "kbytes, ", 'd', 1024),
    ("scheduling priority", "", 'e', 1), ("file size", "blocks, ", 'f', 1024),
    ("pending signals", "", 'i', 1), ("max locked memory", "kbytes, ", 'l', 1024),
    ("max memory size", "kbytes, ", 'm', 1024), ("open files", "", 'n', 1),
    ("pipe size", "512 bytes, ", 'p', 512), ("POSIX message queues", "bytes, ", 'q', 1),
    ("real-time priority", "", 'r', 1), ("stack size", "kbytes, ", 's', 1024),
    ("cpu time", "seconds, ", 't', 1), ("max user processes", "", 'u', 1),
    ("virtual memory", "kbytes, ", 'v', 1024), ("file locks", "", 'x', 1)]

/-- A limit in its unit. -/
def limitText (limit : Option Nat) (unit : Nat) : Text :=
  match limit with
  | some n => Number.decimal (n / unit : Nat)
  | none => "unlimited".toList

/-- Sets a limit or shows limits. -/
def limits (words : List Text) : Work Nat := do
  let known := "SHa" ++ String.ofList (limitNames.map (·.2.2.1))
  let (found, words) ← options known words
  let m := (← (get : Command Shell)).machine
  let limitOf (letter : Char) : Limit := (m.limits.lookup letter).getD ⟨none, none⟩
  let highest := has found 'H'
  let shown (letter : Char) (unit : Nat) : Text :=
    limitText (if highest then (limitOf letter).highest else (limitOf letter).current) unit
  if has found 'a' then
    for (name, unitName, letter, unit) in limitNames do
      let unitText := '(' :: unitName.toList ++ ['-', letter, ')']
      let fill := List.replicate (20 - unitText.length) ' '
      Command.printLine (padded 20 name.toList ++ fill ++ unitText ++ ' ' :: shown letter unit)
    return 0
  else
    let letter := ((found.filter fun o => !"SHa".toList.contains o.letter).getLast?.map (·.letter)).getD 'f'
    let unit := ((limitNames.find? (·.2.2.1 = letter)).map (·.2.2.2)).getD 1
    match words with
    | [] =>
      Command.printLine (shown letter unit)
      return 0
    | word :: _ =>
      let old := limitOf letter
      let value ←
        if word = "unlimited".toList then pure none
        else if word = "hard".toList then pure old.highest
        else if word = "soft".toList then pure old.current
        else if word.all Char.isDigit then pure (some ((Number.digits 10 word 0 0).1 * unit))
        else refuse (word ++ ": invalid number".toList)
      let both := has found 'S' == has found 'H'
      let next : Limit :=
        { current := if both || has found 'S' then value else old.current
          highest := if both || has found 'H' then value else old.highest }
      let name := ((limitNames.find? (·.2.2.1 = letter)).map (·.1)).getD ""
      let refuseLimit (e : SystemError) : Work Unit :=
        refuse (name.toList ++ ": cannot modify limit: ".toList ++ e.reason.toList)
      if Shell.Builtin.isAbove next.highest old.highest then refuseLimit .notPermitted
      if Shell.Builtin.isAbove next.current next.highest then refuseLimit .invalidArgument
      modify fun s : Shell =>
        let limits := (letter, next) :: s.machine.limits.filter (·.1 ≠ letter)
        { s with machine := { s.machine with limits } }
      return 0

/-- Shows how much time has been used. -/
def times (_ : List Text) : Work Nat := do
  Command.printLine "0m0.000s 0m0.000s".toList
  Command.printLine "0m0.000s 0m0.000s".toList
  return 0

end KDispatch.Shell.Extended.Builtin
