import KDispatch.Shell.Scan.Reader
import KDispatch.Shell.Scan.Search
import KDispatch.Shell.Utility.Records.Value

/-!
Programs of a language whose names carry a sign for what they hold: one value, a list of values, or a table
of values by keys. Every expression can be asked for one value or for a list of values.
-/

namespace KDispatch.Shell.Sigil

/-- How the names of a declaration are bound. -/
inductive Declaration where
  /-- To a new place, for the rest of the block. -/
  | my
  /-- To the place that all of the program shares. -/
  | our
  /-- To a place that is kept between the runs of a block. -/
  | state
  deriving DecidableEq

/-- A sign and the name behind it. -/
structure Name where
  sigil : Char
  text : String
  deriving DecidableEq

inductive PrintKind where
  | plain
  | line
  | formatted
  deriving DecidableEq

inductive JumpKind where
  | next
  | last
  | redo
  deriving DecidableEq

mutual

inductive Expr where
  | integer (n : Int)
  | number (x : Float)
  | text (text : Text)
  /-- A text with expressions in it. -/
  | joined (parts : List Expr)
  | named (name : Name)
  | declared (kind : Declaration) (isList : Bool) (names : List Name)
  /-- A shared place that gets its value back at the end of the block. -/
  | localized (target : Expr)
  /-- An element of a list; the list is a variable or behind a reference. -/
  | element (list index : Expr)
  | entry (table key : Expr)
  | elements (list indices : Expr)
  | entries (table keys : Expr)
  /-- Keys with their values. -/
  | keyedEntries (table keys : Expr)
  /-- What a reference leads to, as something with a sign. -/
  | target (sigil : Char) (reference : Expr)
  /-- The index of the last element of a list. -/
  | lastIndex (list : Expr)
  | list (items : List Expr)
  /-- Some items of a list that is no variable. -/
  | picked (list indices : Expr)
  | reference (target : Expr)
  | newList (items : List Expr)
  | newTable (items : List Expr)
  | closure (name : String) (body : List Statement)
  /-- A call of a function of the program; without arguments in parentheses it may pass its own on. -/
  | call (name : String) (arguments : List Expr) (passesOn : Bool)
  | callCode (code : Expr) (arguments : List Expr) (passesOn : Bool)
  | method (object : Expr) (name : String) (chosen : Option Expr) (arguments : List Expr)
  /-- A function of the language. -/
  | function (name : String) (arguments : List Expr)
  | unary (operator : String) (operand : Expr)
  | binary (operator : String) (a b : Expr)
  | both (a b : Expr)
  | either (a b : Expr)
  | orDefined (a b : Expr)
  | conditional (condition a b : Expr)
  | assign (target value : Expr)
  /-- An assignment of what an operator makes of the old value and another one. -/
  | update (operator : String) (target value : Expr)
  | step (isBefore : Bool) (delta : Int) (target : Expr)
  | range (a b : Expr)
  | matching (target : Option Expr) (pattern : Expr) (flags : String)
  | substitution (target : Option Expr) (pattern replacement : Expr) (flags : String)
  | transliteration (target : Option Expr) (source replacement : Text) (flags : String)
  | patternObject (pattern : Expr) (flags : String)
  | readLine (handle : Expr)
  | files (pattern : Expr)
  | fileTest (letter : Char) (operand : Expr)
  | print (kind : PrintKind) (handle : Option Expr) (arguments : List Expr)
  | sorted (comparison : Option Expr) (items : List Expr)
  | mapped (body : Expr) (items : List Expr)
  | filtered (body : Expr) (items : List Expr)
  | block (body : List Statement)
  /-- A block whose failures are kept. -/
  | attempt (body : List Statement)
  | jump (kind : JumpKind) (label : Option String)
  | returned (value : Option Expr)
  /-- A word that stands for itself: a handle or the name of a class. -/
  | word (name : String)
  /-- The output of a command of the system. -/
  | output (command : Expr)

inductive Statement where
  | expression (line : Nat) (e : Expr)
  | choice (line : Nat) (branches : List (Expr × List Statement)) (otherwise : List Statement)
  | loop (line : Nat) (label : Option String) (condition : Option Expr) (isUntil : Bool)
    (body more : List Statement)
  /-- A body that is run once before its condition is tested. -/
  | repeating (line : Nat) (condition : Expr) (isUntil : Bool) (body : List Statement)
  | counting (line : Nat) (label : Option String) (start condition step : Option Expr)
    (body : List Statement)
  | each (line : Nat) (label : Option String) (item : Option (Bool × Name)) (items : Expr)
    (body : List Statement)
  | block (label : Option String) (body : List Statement)
  | sub (line : Nat) (name : String) (body : List Statement)
  | package (name : String) (body : Option (List Statement))
  /-- Classes whose methods are taken over. -/
  | parents (classes : Expr)
  /-- Statements for the beginning or the end of the program. -/
  | special (atEnd : Bool) (body : List Statement)

end

instance : Inhabited Expr := ⟨.integer 0⟩

/-- A program: its statements and the text behind its end. -/
structure Program where
  statements : List Statement
  data : Option Text

/-! ## Text that is read

The text of a program as it is read: blanks and comments, names, numbers, texts between delimiters, and
here-documents, whose lines are taken out of the text when they are announced.
-/

structure Source where
  rest : Text
  line : Nat
  /-- The lines of here-documents that have been taken out before the next end of a line. -/
  taken : Nat
  /-- The names of the functions that the program defines. -/
  subs : List String
  /-- The package that names belong to. -/
  package : String
  file : Text

/-- What is wrong with a program, and where. -/
structure SyntaxError where
  message : Text
  line : Nat

abbrev Reader := StateT Source (Except SyntaxError)

namespace Reader

def fuel : Reader Nat := return 8 * (← get).rest.length + 64

def peek? : Reader (Option Char) := return (← get).rest.head?

/-- Refuses the program where it has been read to. -/
def unexpected {α : Type} : Reader α := do
  let s ← get
  let near := s.rest.takeWhile (· ≠ '\n')
  let message :=
    if near.isEmpty then "syntax error".toList
    else "syntax error at ".toList ++ s.file ++ " line ".toList ++ (toString s.line).toList ++
      ", near \"".toList ++ near ++ ['"']
  throw ⟨message, s.line⟩

/-- Moves on by one character, over the lines that have been taken out after a line. -/
def skipChar : Reader Unit :=
  modify fun s =>
    match s.rest with
    | '\n' :: rest => { s with rest, line := s.line + 1 + s.taken, taken := 0 }
    | _ :: rest => { s with rest }
    | [] => s

def skip : (count : Nat) → Reader Unit
  | 0 => return
  | count + 1 => do
    skipChar
    skip count

def startsWith (text : String) : Reader Bool := return text.toList.isPrefixOf (← get).rest

/-- Reads a text if it comes next. -/
def skipIf (text : String) : Reader Bool := do
  if ← startsWith text then
    skip text.length
    return true
  else return false

/-- Reads characters as long as something holds. -/
def takeWhile (holds : Char → Bool) : Reader Text := do
  let found := (← get).rest.takeWhile holds
  skip found.length
  return found

def isNameStart (c : Char) : Bool := c.isAlpha || c = '_'

def isNameChar (c : Char) : Bool := c.isAlphanum || c = '_'

def isBlank (c : Char) : Bool := c = ' ' || (9 ≤ c.toNat && c.toNat ≤ 13)

/-- Leaves out a part of documentation, up to its end. -/
def skipManual : (fuel : Nat) → Reader Unit
  | 0 => return
  | fuel + 1 => do
    let line ← takeWhile (· ≠ '\n')
    skipChar
    if "=cut".toList.isPrefixOf line || (← peek?).isNone then return else skipManual fuel

/-- Leaves out blanks, comments and documentation. -/
def skipBlanks : (fuel : Nat) → Reader Unit
  | 0 => return
  | fuel + 1 => do
    match (← get).rest with
    | '\n' :: '=' :: c :: _ =>
      skipChar
      if c.isAlpha then skipManual fuel
      skipBlanks fuel
    | c :: _ =>
      if isBlank c then
        skipChar
        skipBlanks fuel
      else if c = '#' then
        let _ ← takeWhile (· ≠ '\n')
        skipBlanks fuel
      else return
    | [] => return

def blanks : Reader Unit := do skipBlanks (← fuel)

/-- The next character after blanks. -/
def next? : Reader (Option Char) := do
  blanks
  peek?

/-- Reads a sign that has to come next, after blanks. -/
def expect (sign : String) : Reader Unit := do
  blanks
  if !(← skipIf sign) then unexpected

/-- Reads a sign after blanks if it comes next. -/
def sign? (sign : String) : Reader Bool := do
  blanks
  skipIf sign

/-- A name, which may lead through packages, at the start of a text. -/
def nameIn : (fuel : Nat) → Text → Text
  | 0, _ => []
  | fuel + 1, text =>
    let part := text.takeWhile isNameChar
    match text.drop part.length with
    | ':' :: ':' :: rest =>
      if rest.head?.any isNameStart || part.isEmpty then part ++ ':' :: ':' :: nameIn fuel rest
      else part ++ [':', ':']
    | _ => part

/-- The name that comes next, which is not read yet. -/
def word? : Reader (Option String) := do
  let rest := (← get).rest
  match rest with
  | c :: _ =>
    if isNameStart c then return some (String.ofList (nameIn (rest.length + 1) rest)) else return none
  | [] => return none

/-- Whether a text is the word that comes next. -/
def atWord (word : String) : Reader Bool := return (← word?) = some word

/-- Reads a word if it comes next, after blanks. -/
def skipWord (word : String) : Reader Bool := do
  blanks
  if ← atWord word then
    skip word.length
    return true
  else return false

/-- Reads a name. -/
def name : Reader String := do
  blanks
  match ← word? with
  | some word =>
    skip word.length
    return word
  | none => unexpected

/-- What comes after a name, behind blanks in the text. -/
def behind (length : Nat) : Reader Text := do
  let before ← get
  skip length
  blanks
  let rest := (← get).rest
  set before
  return rest

/-- The sign that closes what a sign opens. -/
def closing (opening : Char) : Char :=
  match opening with
  | '(' => ')'
  | '[' => ']'
  | '\x7b' => '\x7d'
  | '<' => '>'
  | c => c

/-- Reads a text up to the sign that closes it; backslashes stay as they stand. -/
def textUpTo (opening close : Char) : (fuel depth : Nat) → Reader Text
  | 0, _ => unexpected
  | fuel + 1, depth => do
    match ← peek? with
    | none =>
      throw ⟨"Can't find string terminator ".toList ++ (if close = '"' then ['\'', '"', '\'']
        else ['"', close, '"']) ++ " anywhere before EOF".toList, (← get).line⟩
    | some c =>
      skipChar
      if c = '\\' then
        match ← peek? with
        | some d =>
          skipChar
          return '\\' :: d :: (← textUpTo opening close fuel depth)
        | none => textUpTo opening close fuel depth
      else if c = close then
        if depth = 0 then return []
        else return c :: (← textUpTo opening close fuel (depth - 1))
      else if c = opening then return c :: (← textUpTo opening close fuel (depth + 1))
      else return c :: (← textUpTo opening close fuel depth)

/-- Reads a text between delimiters, of which the first comes next. -/
def delimited : Reader (Char × Text) := do
  match ← peek? with
  | some opening =>
    skipChar
    let close := closing opening
    return (opening, ← textUpTo opening close (← fuel) 0)
  | none => unexpected

/-- A text without the backslashes before backslashes and delimiters. -/
def plainText (opening : Char) : Text → Text
  | '\\' :: c :: rest =>
    if c = '\\' || c = opening || c = closing opening then c :: plainText opening rest
    else '\\' :: plainText opening (c :: rest)
  | c :: rest => c :: plainText opening rest
  | [] => []
termination_by text => text.length

/-- A text without the backslashes before delimiters. -/
def withoutDelimiters (opening : Char) : Text → Text
  | '\\' :: c :: rest =>
    if c = opening && closing opening = opening then c :: withoutDelimiters opening rest
    else '\\' :: c :: withoutDelimiters opening rest
  | c :: rest => c :: withoutDelimiters opening rest
  | [] => []

/-- Reads the number of digits with underscores among them. -/
def digitsOf (base : Nat) (text : Text) : Int :=
  Scan.Reader.numberOf base (text.filter (· ≠ '_'))

/-- Reads a number. -/
def number : Reader Expr := do
  let isDigit (c : Char) : Bool := c.isDigit || c = '_'
  if (← skipIf "0x") || (← skipIf "0X") then
    return .integer (digitsOf 16 (← takeWhile fun c => Scan.Reader.isHexDigit c || c = '_'))
  else if (← skipIf "0o") || (← skipIf "0O") then return .integer (digitsOf 8 (← takeWhile isDigit))
  else if (← skipIf "0b") || (← skipIf "0B") then
    return .integer (digitsOf 2 (← takeWhile isDigit))
  else
    let whole ← takeWhile isDigit
    let rest := (← get).rest
    let hasPoint := rest.head? = some '.' && rest[1]? ≠ some '.'
    let places ← if hasPoint then do
        skipChar
        takeWhile isDigit
      else pure []
    let after := (← get).rest
    let exponent : Text :=
      match after with
      | e :: more =>
        let sign := more.takeWhile fun c => c = '+' || c = '-'
        let digits := (more.drop sign.length).takeWhile Char.isDigit
        if (e = 'e' || e = 'E') && sign.length ≤ 1 && !digits.isEmpty then e :: sign ++ digits else []
      | [] => []
    skip exponent.length
    if hasPoint || !exponent.isEmpty then
      return .number (Records.numberAt ((whole ++ '.' :: places).filter (· ≠ '_') ++ exponent))
    else if whole.head? = some '0' && 1 < whole.length then return .integer (digitsOf 8 whole)
    else return .integer (digitsOf 10 whole)

/-- Takes the lines of a here-document out of the text behind the line. -/
def hereLines (delimiter : Text) (indented : Bool) : Reader Text := do
  let s ← get
  let here := s.rest.takeWhile (· ≠ '\n')
  let rec lines : (fuel : Nat) → Text → (List Text × Text)
    | 0, text => ([], text)
    | fuel + 1, text =>
      if text.isEmpty then ([], [])
      else
        let line := text.takeWhile (· ≠ '\n')
        let rest := text.drop (line.length + 1)
        let compared := if indented then line.dropWhile isBlank else line
        if compared = delimiter then ([], rest)
        else
          let (more, rest) := lines fuel rest
          (line :: more, rest)
  let behind := s.rest.drop (here.length + 1)
  let (found, rest) := lines (behind.length + 1) behind
  let margin (line : Text) : Nat := (line.takeWhile isBlank).length
  let filled := found.filter fun line => !line.all isBlank
  let cut := (filled.map margin).foldl min ((filled.head?.map margin).getD 0)
  let found := if indented then found.map fun line => line.drop (min cut (margin line)) else found
  let count := found.length + 1
  set { s with rest := here ++ '\n' :: rest, taken := s.taken + count }
  return found.flatMap (· ++ ['\n'])

/-- Does work on another text. -/
def within {α : Type} (text : Text) (work : Reader α) : Reader α := do
  let outer ← get
  set { outer with rest := text, taken := 0 }
  let found ← work
  set outer
  return found

end Reader

/-- The names after a word in a text. -/
def namesAfter (word : Text) : (fuel : Nat) → Text → List String
  | 0, _ => []
  | _ + 1, [] => []
  | fuel + 1, c :: rest =>
    if word.isPrefixOf (c :: rest) then
      let behind := ((c :: rest).drop word.length).dropWhile Reader.isBlank
      let name := Reader.nameIn (behind.length + 1) behind
      if name.isEmpty then namesAfter word fuel rest
      else String.ofList name :: namesAfter word fuel rest
    else namesAfter word fuel rest

end KDispatch.Shell.Sigil
