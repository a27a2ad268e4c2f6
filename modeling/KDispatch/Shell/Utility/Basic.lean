import KDispatch.Shell.Machine
import KDispatch.Shell.Number
import KDispatch.Text.Utf8

/-!
What the utility programs have in common: options, messages, and reading from named files or from
standard input. A name in a message is shown so that a shell would read it back: in single quotes, and with what
cannot be shown in the form of escapes. Other words are cited in single quotes with backslashes.
-/

namespace KDispatch.Shell.Utility

/-- A character that cannot be shown, as it stands behind a backslash. -/
def escapeOf (c : Char) : Text :=
  match c.toNat with
  | 7 => ['a']
  | 8 => ['b']
  | 9 => ['t']
  | 10 => ['n']
  | 11 => ['v']
  | 12 => ['f']
  | 13 => ['r']
  | n =>
    let digits := Nat.toDigits 8 n
    List.replicate (3 - digits.length) '0' ++ digits

def isShowable (c : Char) : Bool := 32 ≤ c.toNat && c.toNat < 127

/-- The inside of a quoted name; `escaping` tells whether an escape has come just before. -/
def quotedRest : (escaping : Bool) → Text → Text
  | _, [] => ['\'']
  | _, '\'' :: rest => "'\\''".toList ++ quotedRest false rest
  | escaping, c :: rest =>
    if isShowable c then (if escaping then ['\'', '\''] else []) ++ c :: quotedRest false rest
    else (if escaping then [] else ['\'', '$', '\'']) ++ '\\' :: escapeOf c ++ quotedRest true rest

/-- Whether a character means the same between quotes of both kinds. -/
def isHarmless (c : Char) : Bool := c.isAlphanum || "%+,-./:]_@' ".toList.contains c

/-- A name in quotes. -/
def quoted (name : Text) : Text :=
  if name.contains '\'' && name.all isHarmless then '"' :: name ++ ['"']
  else '\'' :: quotedRest false name

/-- Whether a shell would not take a name as it stands, or a colon behind it might seem to be part of
it. -/
def needsQuotes (name : Text) : Bool :=
  let isSpecial (c : Char) : Bool :=
    !isShowable c || " !\"$&'()*:;<=>?[\\^|".toList.contains c || c.toNat = 0x60
  name.isEmpty || name = ['\x7b'] || name = ['\x7d'] || name.any isSpecial ||
    name.head? = some '#' || name.head? = some '~'

/-- A name at the start of a message, in quotes only if it needs them. -/
def named (name : Text) : Text := if needsQuotes name then quoted name else name

/-- A word in quotes that is no name of a file. -/
def cited (word : Text) : Text :=
  '\'' :: (word.flatMap fun c =>
    if c = '\'' || c = '\\' then ['\\', c]
    else if isShowable c then [c]
    else '\\' :: escapeOf c) ++ ['\'']

end KDispatch.Shell.Utility

/-!
What the utility programs have in common: options, messages, and reading from named files or from
standard input.
-/

namespace KDispatch.Shell

/-- A utility is given the name that it has been called by, and the words after it. -/
abbrev Utility := (name : Text) → (words : List Text) → Task Nat

namespace Utility

/-- Writes a message. -/
def complain (name message : Text) : Task Unit := do
  let _ ← Task.write 2 (name ++ ": ".toList ++ message ++ ['\n'])

/-- Writes a message on a file and what the system says about it. -/
def complainOf (name start file : Text) (e : SystemError) : Task Unit :=
  complain name (start ++ named file ++ ": ".toList ++ e.reason.toList)

/-- What a utility says when its output is refused, and its status then. -/
def refusal (program : String) (e : SystemError) : List String × Nat :=
  let isClosed := e = .badDescriptor
  let usual := "write error: " ++ e.reason
  let streamed := "standard output: " ++ e.reason
  match program with
  | "ls" | "grep" | "egrep" | "fgrep" | "printenv" => ([usual], 2)
  | "cat" => ([if isClosed then streamed else usual], 1)
  | "cmp" => (if isClosed then [] else [streamed], if isClosed then 1 else 2)
  | "diff" => ([streamed], 2)
  | "env" => ([usual], 125)
  | "expr" => ([usual], 3)
  | "rev" => (if isClosed then [] else [usual], if isClosed then 0 else 1)
  | "sed" =>
    (["couldn't " ++ (if isClosed then "close" else "flush") ++ " stdout: " ++ e.reason], 4)
  | "sort" => (["fflush failed: 'standard output': " ++ e.reason, "write error"], 2)
  | "cksum" | "sum" | "wc" => ([if isClosed then usual else "write error"], 1)
  | "yes" => ([streamed], 1)
  | _ => ([usual], 1)

/-- The part of a path after its last slash. -/
def afterSlash (path : Text) : Text := (path.reverse.takeWhile (· ≠ '/')).reverse

/-- How much a utility may hold back before it writes. -/
def bufferSize : Nat := 4096

/-- Writes to standard output; the utility ends if that is refused. -/
def emit (name text : Text) : Task Unit := do
  match ← Task.write 1 text with
  | .ok () => return
  | .error e =>
    let program := String.ofList (afterSlash name)
    if program = "head" && bufferSize < text.length then
      complain name ("error writing 'standard output': ".toList ++ e.reason.toList)
      Task.exit 1
    let (messages, status) := refusal program e
    for message in messages do complain name message.toList
    Task.exit status

/-- An option: its letter, its long name, and whether it has an argument. -/
structure Flag where
  letter : Char
  long : String
  argument : Bool

/-- Options by their letters; a colon after a letter stands for an argument. -/
def letters (text : String) : List Flag :=
  let rec go : List Char → List Flag
    | [] => []
    | c :: ':' :: rest => ⟨c, "", true⟩ :: go rest
    | c :: rest => ⟨c, "", false⟩ :: go rest
  go text.toList

/-- What has been found in the words of a utility. -/
structure Found where
  options : List (Char × Text)
  operands : List Text

def Found.has (found : Found) (letter : Char) : Bool := found.options.any (·.1 = letter)

/-- The argument of the last option with a letter. -/
def Found.last? (found : Found) (letter : Char) : Option Text :=
  (found.options.filter (·.1 = letter)).getLast?.map (·.2)

/-- The arguments of all options with a letter. -/
def Found.all (found : Found) (letter : Char) : List Text :=
  (found.options.filter (·.1 = letter)).map (·.2)

/-- The options in a word after its hyphen; the words after it are left. -/
def scanLetters (known : List Flag) : Text → List Text →
    Except String (List (Char × Text) × List Text)
  | [], words => .ok ([], words)
  | letter :: rest, words =>
    match known.find? (·.letter = letter) with
    | none => .error ("invalid option -- '" ++ String.ofList [letter] ++ "'")
    | some option =>
      if option.argument then
        if rest.isEmpty then
          match words with
          | argument :: words => .ok ([(letter, argument)], words)
          | [] => .error ("option requires an argument -- '" ++ String.ofList [letter] ++ "'")
        else .ok ([(letter, rest)], words)
      else
        match scanLetters known rest words with
        | .ok (more, words) => .ok ((letter, []) :: more, words)
        | .error e => .error e

/-- The option that a word with two dashes is. -/
def scanLong (known : List Flag) (word : Text) (words : List Text) :
    Except String ((Char × Text) × List Text) :=
  let name := String.ofList (word.takeWhile (· ≠ '='))
  let value := word.drop (name.length)
  let matching := known.filter fun o => o.long ≠ "" && name.toList.isPrefixOf o.long.toList
  match (matching.find? (·.long = name)).or (if matching.length = 1 then matching.head? else none) with
  | none => .error ("unrecognized option '--" ++ String.ofList word ++ "'")
  | some option =>
    match option.argument, value, words with
    | true, _ :: value, words => .ok ((option.letter, value), words)
    | true, [], argument :: words => .ok ((option.letter, argument), words)
    | true, [], [] => .error ("option '--" ++ option.long ++ "' requires an argument")
    | false, [], words => .ok ((option.letter, []), words)
    | false, _ :: _, _ => .error ("option '--" ++ option.long ++ "' doesn't allow an argument")

/-- Tells options and operands apart; with `mixed` options may come after operands. -/
def scan (known : List Flag) (mixed : Bool) : (fuel : Nat) → List Text → Except String Found
  | 0, words => .ok ⟨[], words⟩
  | fuel + 1, words =>
    match words with
    | [] => .ok ⟨[], []⟩
    | ['-', '-'] :: operands => .ok ⟨[], operands⟩
    | ('-' :: '-' :: long) :: rest => do
      let (option, rest) ← scanLong known long rest
      let found ← scan known mixed fuel rest
      return { found with options := option :: found.options }
    | ('-' :: c :: more) :: rest => do
      let (options, rest) ← scanLetters known (c :: more) rest
      let found ← scan known mixed fuel rest
      return { found with options := options ++ found.options }
    | operand :: rest =>
      if mixed then do
        let found ← scan known mixed fuel rest
        return { found with operands := operand :: found.operands }
      else .ok ⟨[], words⟩

/-- Ends a utility that has been called in a wrong way. -/
def usage {α : Type} (name : Text) (message : Text) (status : Nat) : Task α := do
  complain name message
  let _ ← Task.write 2
    ("Try '".toList ++ name ++ " --help' for more information.\n".toList)
  Task.exit status

/-- Asks a question; only a line that begins with `y` means yes. -/
def confirm (name question : Text) : Task Bool := do
  let _ ← Task.write 2 (name ++ ": ".toList ++ question ++ "? ".toList)
  match ← Task.readLine 0 with
  | .ok answer => return answer.head? = some 'y' || answer.head? = some 'Y'
  | .error _ => return false

/-- The options and operands of a utility, which ends with the given status if it does not know an
option. -/
def parse (name : Text) (known : List Flag) (status : Nat) (words : List Text) : Task Found := do
  match scan known true (words.length + 1) words with
  | .ok found => return found
  | .error message => usage name message.toList status

/-- The files that a utility reads: its operands, or standard input if there are none. -/
def inputs (operands : List Text) : List Text := if operands.isEmpty then [['-']] else operands

/-- The content of a file, or of standard input. -/
def content (file : Text) : Task (Except SystemError Text) :=
  if file = ['-'] then Task.readAll 0 else Task.readFile file

/-- Does something with the content of each file; a file that cannot be read gives status 1. -/
def forEach (name : Text) (files : List Text) (work : Text → Text → Task Unit) : Task Nat := do
  let mut status := 0
  for file in files do
    match ← content file with
    | .ok text => work file text
    | .error e =>
      complainOf name [] file e
      status := 1
  return status

/-- The parts of a text that end in a character, without their ends; the last one may have none. -/
def partsOf (separator : Char) (text : Text) : List Text :=
  let parts := text.splitOn separator
  if parts.getLast? = some [] then parts.dropLast else parts

/-- The lines of a text without their ends. -/
def lines (text : Text) : List Text := partsOf '\n' text

/-- The lines of a text with their ends; the last one may have none. -/
def fullLines (text : Text) : List Text :=
  let parts := text.splitOn '\n'
  let complete := parts.dropLast.map (· ++ ['\n'])
  match parts.getLast? with
  | some (c :: last) => complete ++ [c :: last]
  | _ => complete

/-- Lines as a text. -/
def unlines (lines : List Text) : Text := lines.flatMap (· ++ ['\n'])

/-- Text to the left or right of blanks that fill a width. -/
def padLeft (width : Nat) (text : Text) : Text := List.replicate (width - text.length) ' ' ++ text

def decimal (n : Nat) : Text := (toString n).toList

end Utility

end KDispatch.Shell
