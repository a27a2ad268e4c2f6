import KDispatch.Shell.Number
import KDispatch.Shell.Regex

/-! Reading the scripts that edit lines. -/

/-! ## Scripts

Scripts for editing lines: lists of commands, each with the lines that it is for.
-/

namespace KDispatch.Shell.Utility.Sed

inductive Address where
  | line (n : Nat)
  | last
  /-- Every so many lines. -/
  | spaced (first distance : Nat)
  | regex (r : Regex) (mode : Regex.Mode)
  /-- The expression that has been used last. -/
  | lastRegex

def Address.isRegex : Address → Bool
  | .regex _ _ | .lastRegex => true
  | _ => false

inductive RangeEnd where
  | address (a : Address)
  /-- So many lines more. -/
  | count (n : Nat)
  /-- Up to a line whose number is a multiple. -/
  | multiple (n : Nat)

/-- The lines that a command is for. -/
inductive Lines where
  | all
  | one (a : Address)
  | range (first : Address) (last : RangeEnd)

/-- Whether line 0 is named where there can be no such line. -/
def Lines.misusesZero : Lines → Bool
  | .one (.line 0) => true
  | .range (.line 0) (.address a) => !a.isRegex
  | .range (.line 0) _ => true
  | _ => false

def Lines.isAll : Lines → Bool
  | .all => true
  | _ => false

def Lines.isRange : Lines → Bool
  | .range _ _ => true
  | _ => false

/-- A part of what takes the place of a match. -/
inductive Piece where
  | text (t : Text)
  | group (n : Nat)
  | caseChange (letter : Char)

structure Substitution where
  regex : Option Regex
  mode : Regex.Mode
  replacement : List Piece
  every : Bool
  /-- Which match is the first one to be replaced. -/
  nth : Option Nat
  prints : Bool
  file : Option Text

inductive Action where
  | openBlock
  | closeBlock
  | substitute (s : Substitution)
  | translate (pairs : List (Char × Char))
  /-- Text that is shown after the line, before it, or in place of it. -/
  | append (t : Text)
  | insert (t : Text)
  | change (t : Text)
  | label (name : Text)
  /-- Goes on at a label: always, after a substitution, or without one. -/
  | branch (letter : Char) (name : Text)
  | quit (prints : Bool) (status : Nat)
  /-- Shows a file after the line. -/
  | read (file : Text)
  /-- Shows the next line of a file after the line. -/
  | readLine (file : Text)
  /-- Writes the line, or its first part only. -/
  | write (file : Text) (first : Bool)
  /-- Shows the line with all characters visible, in rows of a length. -/
  | list (length : Option Nat)
  /-- A command with a letter and nothing more. -/
  | plain (letter : Char)

structure Command where
  lines : Lines
  inverted : Bool
  action : Action

/-- The labels of a script. -/
def labels (commands : List Command) : List Text :=
  commands.filterMap fun c => match c.action with
    | .label name => some name
    | _ => none

/-- A label that is missing in a script. -/
def missingLabel? (commands : List Command) : Option Text :=
  let known := labels commands
  (commands.filterMap fun c => match c.action with
    | .branch _ name => if name.isEmpty || known.contains name then none else some name
    | _ => none).head?

/-- The files that a script reads. -/
def filesRead (commands : List Command) : List Text :=
  commands.filterMap fun c => match c.action with
    | .read file | .readLine file => some file
    | _ => none

/-- The files that a script writes. -/
def filesWritten (commands : List Command) : List Text :=
  commands.filterMap fun c => match c.action with
    | .write file _ => some file
    | .substitute s => s.file
    | _ => none

/-! ## Reading

Reading scripts. A mistake is told with the number of characters that are left behind it.
-/

/-- What is left of a script. -/
structure Source where
  rest : Text
  extended : Bool

inductive Mistake where
  /-- A mistake with `left` characters behind it. -/
  | before (left : Nat) (message : String)
  /-- An expression with the name of a class in only one pair of brackets. -/
  | bareClass

abbrev Reader := StateT Source (Except Mistake)

namespace Reader

def rest : Reader Text := return (← get).rest

def setRest (rest : Text) : Reader Unit := modify fun s => { s with rest }

def fail {α : Type} (message : String) : Reader α := do throw (.before (← rest).length message)

/-- Fails behind the next character. -/
def failAtNext {α : Type} (message : String) : Reader α := do
  throw (.before ((← rest).length - 1) message)

def isBlank (c : Char) : Bool := c = ' ' || c = '\t'

def skipBlanks : Reader Unit := modify fun s => { s with rest := s.rest.dropWhile isBlank }

/-- A number at the start of the rest. -/
def number? : Reader (Option Nat) := do
  match Number.digits 10 (← rest) 0 0 with
  | (_, 0, _) => return none
  | (n, _, rest) =>
    setRest rest
    return some n

/-- The character that a letter and digits behind a backslash stand for, and the text after them. -/
def produced? : Text → Option (Char × Text)
  | 'a' :: rest => some (Char.ofNat 7, rest)
  | 'f' :: rest => some (Char.ofNat 12, rest)
  | 'n' :: rest => some ('\n', rest)
  | 'r' :: rest => some ('\r', rest)
  | 't' :: rest => some ('\t', rest)
  | 'v' :: rest => some (Char.ofNat 11, rest)
  | 'c' :: c :: rest =>
    some (Char.ofNat (((c.toUpper.toNat % 128) + 64) % 128), rest)
  | 'd' :: rest => coded 10 3 rest
  | 'o' :: rest => coded 8 3 rest
  | 'x' :: rest => coded 16 2 rest
  | _ => none
where
  coded (base length : Nat) (rest : Text) : Option (Char × Text) :=
    match Number.digits base (rest.take length) 0 0 with
    | (_, 0, _) => none
    | (n, count, _) => some (Char.ofNat (n % 256), rest.drop count)

/-- The text with the characters that escapes stand for in their places. -/
def resolved : (fuel : Nat) → Text → Text
  | 0, text => text
  | _ + 1, [] => []
  | fuel + 1, '\\' :: rest =>
    match produced? rest, rest with
    | some (c, rest), _ => c :: resolved fuel rest
    | none, d :: rest => '\\' :: d :: resolved fuel rest
    | none, [] => ['\\']
  | fuel + 1, c :: rest => c :: resolved fuel rest

/-- The rest of a set of characters in an expression, up to its closing bracket; `named` is the sign
around a name in it that is still open. -/
def setRest? (named : Option Char) : Text → Option (Text × Text)
  | [] | '\n' :: _ => none
  | c :: d :: rest =>
    let keepBoth (named : Option Char) : Option (Text × Text) :=
      (setRest? named rest).map fun (t, rest) => (c :: d :: t, rest)
    let keep : Option (Text × Text) :=
      (setRest? named (d :: rest)).map fun (t, rest) => (c :: t, rest)
    match named with
    | some sign => if c = sign && d = ']' then keepBoth none else keep
    | none =>
      if c = ']' then some ([c], d :: rest)
      else if c = '[' && (d = ':' || d = '.' || d = '=') then keepBoth (some d)
      else keep
  | [c] => if c = ']' && named.isNone then some ([c], []) else none

/-- A set of characters in an expression, after its opening bracket. A closing bracket that comes first
belongs to the set. -/
def set? (text : Text) : Option (Text × Text) :=
  let start := if text.head? = some '^' then ['^'] else []
  let rest := text.drop start.length
  let start := if rest.head? = some ']' then start ++ [']'] else start
  (setRest? none (text.drop start.length)).map fun (t, rest) => (start ++ t, rest)

/-- Text up to a delimiter that is not escaped. A line may end in it unless it is an expression. -/
def delimited (delimiter : Char) (regex : Bool) : (fuel : Nat) → Text → Option (Text × Text)
  | 0, _ => none
  | _ + 1, [] => none
  | fuel + 1, c :: after =>
    let keep (chars : Text) (after : Text) : Option (Text × Text) :=
      (delimited delimiter regex fuel after).map fun (t, rest) => (chars ++ t, rest)
    if c = delimiter then some ([], after)
    else
      match c, after with
      | '\\', d :: after =>
        if d = delimiter then keep [d] after
        else if d = '\n' && regex then keep ['\n'] after
        else keep ['\\', d] after
      | '[', after =>
        if regex then (set? after).bind fun (t, rest) => keep ('[' :: t) rest
        else keep ['['] after
      | '\n', after => if regex then none else keep ['\n'] after
      | c, after => keep [c] after

def regexOf (text : Text) : Reader (Regex × Nat) := do
  match Regex.parse ⟨(← get).extended, true⟩ (resolved (text.length + 1) text) with
  | .ok ⟨r, groups, remarks⟩ =>
    if remarks.contains .bareClass then throw .bareClass
    return (r, groups)
  | .error message => fail message

def regexAddress (delimiter : Char) (after : Text) : Reader (Option Address) := do
  match delimited delimiter true (after.length + 1) after with
  | none =>
    setRest []
    fail "unterminated address regex"
  | some (text, after) =>
    let flags := after.takeWhile fun c => c = 'I' || c = 'M'
    setRest (after.drop flags.length)
    if text.isEmpty then return some .lastRegex
    else
      let (r, _) ← regexOf text
      return some (.regex r ⟨flags.contains 'I', flags.contains 'M'⟩)

/-- An address, if one comes next. -/
def address? : Reader (Option Address) := do
  match ← rest with
  | '$' :: after =>
    setRest after
    return some .last
  | '/' :: after => regexAddress '/' after
  | ['\\'] =>
    setRest []
    fail "unterminated address regex"
  | '\\' :: c :: after => regexAddress c after
  | _ =>
    match ← number? with
    | none => return none
    | some n =>
      match ← rest with
      | '~' :: after =>
        setRest after
        let distance := (← number?).getD 0
        return some (if distance = 0 then .line n else .spaced n distance)
      | _ => return some (.line n)

/-- The lines that the next command is for. -/
def lines : Reader Lines := do
  match ← address? with
  | none => return .all
  | some first =>
    skipBlanks
    match ← rest with
    | ',' :: after =>
      setRest after
      skipBlanks
      match ← rest with
      | '+' :: after =>
        setRest after
        return .range first (.count ((← number?).getD 0))
      | '~' :: after =>
        setRest after
        return .range first (.multiple ((← number?).getD 0))
      | _ =>
        match ← address? with
        | some other => return .range first (.address other)
        | none => failAtNext "unexpected `,'"
    | _ => return .one first

/-- The parts of a replacement. -/
def pieces : (fuel : Nat) → Text → List Piece
  | 0, _ => []
  | _ + 1, [] => []
  | fuel + 1, '\\' :: rest =>
    match produced? rest, rest with
    | some (c, rest), _ => .text [c] :: pieces fuel rest
    | none, c :: rest =>
      let first : Piece :=
        if c.isDigit then .group (c.toNat - '0'.toNat)
        else if "ULEul".toList.contains c then .caseChange c
        else .text [c]
      first :: pieces fuel rest
    | none, [] => [.text ['\\']]
  | fuel + 1, '&' :: rest => .group 0 :: pieces fuel rest
  | fuel + 1, c :: rest => .text [c] :: pieces fuel rest

/-- The name of a file, which is the rest of the line. -/
def fileName : Reader Text := do
  skipBlanks
  let line := (← rest).takeWhile (· ≠ '\n')
  modify fun s => { s with rest := s.rest.drop (line.length + 1) }
  if line.isEmpty then fail "missing filename in r/R/w/W commands"
  return line

def labelName : Reader Text := do
  skipBlanks
  let name := (← rest).takeWhile fun c => !Number.isSpace c && c ≠ ';'
  modify fun s => { s with rest := s.rest.drop name.length }
  return name

/-- The flags of a substitution, up to the end of the command. -/
def flags : (fuel : Nat) → Substitution → Reader Substitution
  | 0, s => return s
  | fuel + 1, s => do
    skipBlanks
    match ← rest with
    | 'g' :: after =>
      setRest after
      if s.every then fail "multiple `g' options to `s' command"
      flags fuel { s with every := true }
    | 'p' :: after =>
      setRest after
      if s.prints then fail "multiple `p' options to `s' command"
      flags fuel { s with prints := true }
    | 'i' :: after | 'I' :: after =>
      setRest after
      flags fuel { s with mode := { s.mode with ignoresCase := true } }
    | 'm' :: after | 'M' :: after =>
      setRest after
      flags fuel { s with mode := { s.mode with multiline := true } }
    | 'w' :: after =>
      setRest after
      return { s with file := some (← fileName) }
    | '\n' :: after | ';' :: after =>
      setRest after
      return s
    | '\x7d' :: _ | '#' :: _ | [] => return s
    | _ =>
      match ← number? with
      | some n =>
        if s.nth.isSome then fail "multiple number options to `s' command"
        else if n = 0 then fail "number option to `s' command may not be zero"
        else flags fuel { s with nth := some n }
      | none => failAtNext "unknown option to `s'"

def groupsUsed (pieces : List Piece) : Nat :=
  pieces.foldl (fun n p => match p with
    | .group k => max n k
    | _ => n) 0

/-- The two texts between delimiters. -/
def bothTexts (regex : Bool) (name : String) : Reader (Text × Text) := do
  let unterminated {α : Type} : Reader α := do
    setRest []
    fail ("unterminated `" ++ name ++ "' command")
  match ← rest with
  | [] | '\n' :: _ => unterminated
  | delimiter :: after =>
    match delimited delimiter regex (after.length + 1) after with
    | none => unterminated
    | some (first, after) =>
      match delimited delimiter false (after.length + 1) after with
      | none => unterminated
      | some (second, after) =>
        setRest after
        return (first, second)

def substitution : Reader Substitution := do
  let (pattern, replacement) ← bothTexts true "s"
  let parts := pieces (replacement.length + 1) replacement
  let s ← flags 40 ⟨none, ⟨false, false⟩, parts, false, none, false, none⟩
  if pattern.isEmpty then return s
  else
    let (r, groups) ← regexOf pattern
    let used := groupsUsed parts
    if groups < used then
      fail ("invalid reference \\" ++ toString used ++ " on `s' command's RHS")
    return { s with regex := some r }

/-- The characters that are exchanged for others, of which some may be escaped. -/
def translated : (fuel : Nat) → Text → Text
  | 0, text => text
  | _ + 1, [] => []
  | fuel + 1, '\\' :: rest =>
    match produced? rest, rest with
    | some (c, rest), _ => c :: translated fuel rest
    | none, c :: rest => c :: translated fuel rest
    | none, [] => ['\\']
  | fuel + 1, c :: rest => c :: translated fuel rest

def exchange : Reader (List (Char × Char)) := do
  let (source, target) ← bothTexts false "y"
  let source := translated (source.length + 1) source
  let target := translated (target.length + 1) target
  if source.length ≠ target.length then fail "strings for `y' command are different lengths"
  return source.zip target

/-- Text up to the end of a line that no backslash goes before. -/
def givenText : (fuel : Nat) → Text → Text × Text
  | 0, rest => ([], rest)
  | _ + 1, [] => (['\n'], [])
  | _ + 1, '\n' :: rest => (['\n'], rest)
  | fuel + 1, '\\' :: rest =>
    match produced? rest, rest with
    | some (c, rest), _ => go fuel c rest
    | none, c :: rest => go fuel c rest
    | none, [] => (['\n'], [])
  | fuel + 1, c :: rest => go fuel c rest
where
  go (fuel : Nat) (c : Char) (rest : Text) : Text × Text :=
    let (more, last) := givenText fuel rest
    (c :: more, last)

/-- The text of a command that adds text. A backslash before it keeps the blanks behind it. -/
def textArgument : Reader Text := do
  skipBlanks
  let start ← rest
  if start.isEmpty then fail "expected \\ after `a', `c' or `i'"
  let text? : Option Text := match start with
    | '\\' :: after =>
      match after.dropWhile isBlank with
      | '\n' :: text => if text.isEmpty then none else some text
      | [] => none
      | _ => some after
    | text => some text
  match text? with
  | none =>
    setRest []
    return []
  | some text =>
    let (text, after) := givenText (text.length + 1) text
    setRest after
    return text

/-- Checks that nothing else follows a command. -/
def endOfCommand : Reader Unit := do
  skipBlanks
  match ← rest with
  | [] => return
  | '\n' :: after | ';' :: after => setRest after
  | '\x7d' :: _ | '#' :: _ => return
  | _ => failAtNext "extra characters after command"

/-- The action of a command, after its lines. -/
def action (lines : Lines) : Reader Action := do
  match ← rest with
  | [] => fail "missing command"
  | letter :: after =>
    setRest after
    let finish (action : Action) : Reader Action := do
      endOfCommand
      return action
    match letter with
    | '\x7b' => return .openBlock
    | '\x7d' =>
      if !lines.isAll then fail "\x7d doesn't want any addresses"
      finish .closeBlock
    | 's' => return .substitute (← substitution)
    | 'y' => finish (.translate (← exchange))
    | 'a' => return .append (← textArgument)
    | 'i' => return .insert (← textArgument)
    | 'c' => return .change (← textArgument)
    | ':' =>
      if !lines.isAll then fail ": doesn't want any addresses"
      let name ← labelName
      if name.isEmpty then fail "\":\" lacks a label"
      return .label name
    | 'b' | 't' | 'T' => return .branch letter (← labelName)
    | 'v' =>
      let _ ← labelName
      return .label []
    | 'q' | 'Q' =>
      if lines.isRange then fail "command only uses one address"
      skipBlanks
      finish (.quit (letter = 'q') ((← number?).getD 0))
    | 'l' =>
      skipBlanks
      finish (.list (← number?))
    | 'r' => return .read (← fileName)
    | 'R' => return .readLine (← fileName)
    | 'w' => return .write (← fileName) false
    | 'W' => return .write (← fileName) true
    | '=' | 'd' | 'D' | 'F' | 'g' | 'G' | 'h' | 'H' | 'n' | 'N' | 'p' | 'P' | 'x' | 'z' =>
      finish (.plain letter)
    | c => fail ("unknown command: `" ++ String.ofList [c] ++ "'")

/-- The next command. -/
def command : Reader Command := do
  let lines ← lines
  skipBlanks
  if lines.misusesZero then failAtNext "invalid usage of line address 0"
  let inverted ←
    match ← rest with
    | '!' :: after => do
      setRest after
      skipBlanks
      if (← rest).head? = some '!' then failAtNext "multiple `!'s"
      pure true
    | _ => pure false
  return ⟨lines, inverted, ← action lines⟩

/-- All commands of a script, of which so many blocks are open. -/
def commands : (fuel : Nat) → (blocks : Nat) → Reader (List Command)
  | 0, _ => return []
  | fuel + 1, blocks => do
    modify fun s => { s with rest := s.rest.dropWhile fun c => Number.isSpace c || c = ';' }
    match ← rest with
    | [] =>
      if 0 < blocks then throw (.before 0 "unmatched `\x7b'")
      return []
    | '#' :: after =>
      setRest (after.dropWhile (· ≠ '\n'))
      commands fuel blocks
    | '\x7d' :: after =>
      if blocks = 0 then
        setRest after
        fail "unexpected `\x7d'"
      let first ← command
      return first :: (← commands fuel (blocks - 1))
    | _ =>
      let first ← command
      let opened := match first.action with
        | .openBlock => 1
        | _ => 0
      return first :: (← commands fuel (blocks + opened))

end Reader

/-- Reads a script. -/
def parse (extended : Bool) (text : Text) : Except Mistake (List Command) :=
  ((Reader.commands (text.length + 1) 0).run ⟨text, extended⟩).map (·.1)

end KDispatch.Shell.Utility.Sed
