import KDispatch.Shell.Condition
import KDispatch.Shell.Printf
import KDispatch.Shell.State

/-!
The options of builtin commands, the builtins that write texts or test conditions, and the rights that new
files do not get.
-/

namespace KDispatch.Shell.Builtin

/-- The kind of an option: none, one without an argument, or one with an argument. -/
def optionKind (known : String) (letter : Char) : Option Bool :=
  let rec find : List Char → Option Bool
    | [] => none
    | c :: ':' :: rest => if c = letter then some true else find rest
    | c :: rest => if c = letter then some false else find rest
  if letter = ':' then none else find known.toList

/-- The options in a word after its hyphen, and the words after it. -/
def optionsIn (known : String) : (fuel : Nat) → Text → List Text →
    Command (List (Char × Text) × List Text)
  | 0, _, words => return ([], words)
  | _ + 1, [], words => return ([], words)
  | fuel + 1, letter :: rest, words => do
    match optionKind known letter with
    | none => Command.fail ("Illegal option -".toList ++ [letter])
    | some false =>
      let (more, words) ← optionsIn known fuel rest words
      return ((letter, []) :: more, words)
    | some true =>
      if !rest.isEmpty then return ([(letter, rest)], words)
      else
        match words with
        | argument :: words => return ([(letter, argument)], words)
        | [] => Command.fail ("No arg for -".toList ++ letter :: " option".toList)

/-- The options at the start of the words, and the words after them. -/
def options (known : String) : (fuel : Nat) → List Text →
    Command (List (Char × Text) × List Text)
  | 0, words => return ([], words)
  | fuel + 1, words => do
    match words with
    | ['-', '-'] :: words => return ([], words)
    | ('-' :: c :: rest) :: words =>
      let (found, words) ← optionsIn known (rest.length + 2) (c :: rest) words
      let (more, words) ← options known fuel words
      return (found ++ more, words)
    | _ => return ([], words)

/-- The words after the options of a builtin that has none. -/
def withoutOptions (words : List Text) : Command (List Text) := do
  return (← options "" (words.length + 1) words).2

/-- Writes its words with blanks between them and a line end. -/
def echo (words : List Text) : Command Nat := do
  let (lineEnd, words) := match words with
    | ['-', 'n'] :: words => (false, words)
    | words => (true, words)
  let rec go : List Text → Command Unit
    | [] => if lineEnd then Command.print ['\n'] else return
    | word :: rest => do
      let (text, stopped) := Escape.expand (word.length + 1) word
      Command.print text
      if stopped then return
      else if rest.isEmpty then
        if lineEnd then Command.print ['\n'] else return
      else
        Command.print [' ']
        go rest
  go words
  return 0

/-- What is said about arguments that are no numbers. -/
def printfWording : Printf.Wording where
  notNumber text := text ++ ": expected numeric value".toList
  notWhole text := text ++ ": not completely converted".toList
  outOfRange text := text ++ ": Numerical result out of range".toList
  format := .double

def printf (words : List Text) : Command Nat := do
  match ← withoutOptions words with
  | [] => Command.fail "usage: printf format [arg ...]".toList
  | format :: arguments =>
    let printed := Printf.print printfWording format arguments
    Command.print printed.output
    for complaint in printed.complaints do Command.warn complaint
    match printed.failure with
    | some reason => Command.fail reason
    | none => return if printed.complaints.isEmpty then 0 else 1

/-- Tests a condition; a true one gives status 0. -/
def condition (words : List Text) : Command Nat := do
  match Condition.evaluate ⟨(← get).machine.files, false⟩ words with
  | .ok value => return if value then 0 else 1
  | .error message => Command.fail message

/-- Tests a condition between brackets. -/
def bracketCondition (words : List Text) : Command Nat := do
  if words.getLast? = some [']'] then condition words.dropLast
  else Command.fail "missing ]".toList

/-! The rights that new files do not get, in octal digits and in letters for the user, the group and others. -/

/-- The bit of a right. -/
def rightOf? (letter : Char) : Option Nat :=
  match letter with
  | 'r' => some 4
  | 'w' => some 2
  | 'x' => some 1
  | _ => none

/-- The rights that are left by a mask, for the user, the group and others. -/
def rightsText (mask : Nat) : Text :=
  let letters (n : Nat) : Text :=
    (if n &&& 4 = 0 then ['r'] else []) ++ (if n &&& 2 = 0 then ['w'] else []) ++
      (if n &&& 1 = 0 then ['x'] else [])
  "u=".toList ++ letters (mask / 64) ++ ",g=".toList ++ letters (mask / 8) ++
    ",o=".toList ++ letters mask

def octalDigits (mask : Nat) : Text :=
  [512, 64, 8, 1].map fun n => Nat.digitChar (mask / n % 8)

/-- The rights after a change such as `u=rw`, or nothing if it is no change. -/
def changedRights? (rights : Nat) (change : Text) : Option Nat :=
  let who := change.takeWhile fun c => c = 'u' || c = 'g' || c = 'o' || c = 'a'
  let everybody := who.isEmpty || who.contains 'a'
  let shifts : List Nat :=
    (if everybody || who.contains 'u' then [64] else []) ++
      (if everybody || who.contains 'g' then [8] else []) ++
      (if everybody || who.contains 'o' then [1] else [])
  let spread (n : Nat) : Nat := shifts.foldl (fun rights shift => rights + shift * n) 0
  match change.drop who.length with
  | sign :: letters =>
    (letters.mapM rightOf?).bind fun bits =>
      let given := spread (bits.foldl (· ||| ·) 0)
      let cleared (n : Nat) : Nat := rights - (rights &&& n)
      match sign with
      | '=' => some (cleared (spread 7) ||| given)
      | '+' => some (rights ||| given)
      | '-' => some (cleared given)
      | _ => none
  | [] => none

def setMask (mask : Nat) : Command Unit :=
  modify fun s => { s with machine := { s.machine with mask } }

/-- Shows or sets the mask. -/
def umask (words : List Text) : Command Nat := do
  let (found, words) ← options "S" (words.length + 1) words
  let mask := (← get).machine.mask
  match words with
  | [] =>
    Command.printLine (if found.isEmpty then octalDigits mask else rightsText mask)
    return 0
  | word :: _ =>
    if (word.headD ' ').isDigit then
      if word.all fun c => '0' ≤ c && c ≤ '7' then
        setMask ((Number.digits 8 word 0 0).1 % 512)
        return 0
      else Command.fail ("Illegal number: ".toList ++ word)
    else
      let changed := (word.splitOn ',').foldl
        (fun (rights : Option Nat) change => rights.bind (changedRights? · change))
        (some (511 - mask))
      match changed with
      | some rights =>
        setMask (511 - rights)
        return 0
      | none => Command.fail ("Illegal mode: ".toList ++ word)

end KDispatch.Shell.Builtin
