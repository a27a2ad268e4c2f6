import KDispatch.Text.Utf8

/-!
Shell scripts as trees: words made of texts and expansions, redirections, and commands with the ways
to put them together. All texts are byte texts. While a script is read it is known what is left of it, the line
it has come to, and the here-documents that are still to be read at the next end of a line.
-/

namespace KDispatch.Shell

/-- What is used in place of a parameter that is missing. -/
inductive Fallback where
  /-- A word. -/
  | substitute
  /-- A word, which the parameter becomes too. -/
  | assign
  /-- Nothing: the script fails with a word as its message. -/
  | fail
  /-- A word if the parameter is not missing, and else nothing. -/
  | alternative
  deriving DecidableEq

/-- How a redirection opens a file. -/
inductive OpenMode where
  | read
  | readWrite
  | write
  /-- Writes even to a file that is protected from it. -/
  | overwrite
  | append
  deriving DecidableEq

mutual

/-- A piece of a word. Unquoted pieces are split into fields after their expansion. -/
inductive Part where
  | text (quoted : Bool) (content : Text)
  /-- Stands where quotation marks do: quotes make a field even if they hold nothing. -/
  | quotes
  | parameter (quoted : Bool) (name : String) (use : ParameterUse)
  /-- The output of a command. -/
  | output (quoted : Bool) (script : Script)
  | arithmetic (quoted : Bool) (expression : List Part)

/-- What is done with the value of a parameter. -/
inductive ParameterUse where
  | value
  | length
  /-- With `orEmpty` an empty parameter counts as missing. -/
  | fallback (fallback : Fallback) (orEmpty : Bool) (word : List Part)
  /-- Cuts off what matches a pattern at an end of the value. -/
  | cut (atEnd : Bool) (longest : Bool) (pattern : List Part)
  | malformed

inductive Redirection where
  | file (descriptor : Nat) (mode : OpenMode) (target : List Part)
  /-- Makes a descriptor lead where another one does; the other one is read or written. -/
  | duplicate (descriptor : Nat) (source : List Part)
  /-- Reads the here-document of the given number. -/
  | document (descriptor : Nat) (number : Nat)

inductive Script where
  | nothing
  | simple (line : Nat) (assignments : List (String × List Part)) (words : List (List Part))
      (redirections : List Redirection)
  | redirected (line : Nat) (body : Script) (redirections : List Redirection)
  | subshell (line : Nat) (body : Script) (redirections : List Redirection)
  | background (line : Nat) (body : Script) (redirections : List Redirection)
  | pipeline (commands : List Script)
  | negation (script : Script)
  | sequence (first second : Script)
  /-- The second command runs if the first one succeeds. -/
  | both (first second : Script)
  /-- The second command runs if the first one fails. -/
  | either (first second : Script)
  | choice (condition whenTrue whenFalse : Script)
  /-- Repeats the body while the success of the condition is as given. -/
  | loop (success : Bool) (condition body : Script)
  | each (line : Nat) (name : String) (words : List (List Part)) (body : Script)
  | select (line : Nat) (word : List Part) (branches : List (List (List Part) × Script))
  | function (line : Nat) (name : String) (body : Script)

end

abbrev Word := List Part

/-- The text of a word that has unquoted text only. -/
def Word.plain? : Word → Option Text
  | [] => some []
  | .text false content :: parts => (Word.plain? parts).map (content ++ ·)
  | _ :: _ => none

/-- Puts neighbouring texts of the same kind together. -/
def Word.merge : Word → Word
  | [] => []
  | .text quoted content :: parts =>
    match Word.merge parts with
    | .text quoted' content' :: rest =>
      if quoted = quoted' then .text quoted (content ++ content') :: rest
      else .text quoted content :: .text quoted' content' :: rest
    | rest => .text quoted content :: rest
  | part :: parts => part :: Word.merge parts

/-- Whether any piece of a word is quoted. -/
def Word.hasQuotes (word : Word) : Bool :=
  word.any fun
    | .text quoted _ => quoted
    | .quotes => true
    | .parameter quoted _ _ => quoted
    | .output quoted _ => quoted
    | .arithmetic _ _ => false

def isNameStart (c : Char) : Bool := c.isAlpha || c = '_'

def isNameChar (c : Char) : Bool := c.isAlphanum || c = '_'

/-- Whether a text can name a variable or a function. -/
def isName : Text → Bool
  | [] => false
  | c :: cs => isNameStart c && cs.all isNameChar

/-!
The text of a script as it is read: what is left of it, the line it has come to, and the
here-documents that are still to be read at the next end of a line.
-/

inductive Token where
  /-- The end of the text. -/
  | finish
  | lineEnd
  | redirection (descriptor : Option Nat) (sign : String)
  | operator (sign : String)
  | word (word : Word)
  /-- A word that is a keyword where it stands. -/
  | keyword (sign : String) (word : Word)

/-- A here-document that a redirection has announced. -/
structure AnnouncedDocument where
  number : Nat
  delimiter : Text
  /-- Whether expansions are made in it. -/
  expands : Bool
  dropsTabs : Bool

structure Source where
  rest : Text
  line : Nat
  /-- Texts that stand for words where a command begins. -/
  aliases : List (Text × Text)
  /-- The aliases that have been replaced, each with the length of the text behind it. -/
  replaced : List (Text × Nat)
  /-- A token that has been read and put back. -/
  next : Option Token
  /-- Here-documents to be read at the end of the line. -/
  announced : List AnnouncedDocument
  /-- The number of the next here-document. -/
  nextDocument : Nat
  /-- The here-documents read so far. -/
  documents : List (Nat × Word)

/-- The source of a text that begins in the given line. -/
def Source.ofText (text : Text) (line nextDocument : Nat) : Source :=
  { rest := text, line, aliases := [], replaced := [], next := none, announced := [], nextDocument,
    documents := [] }

structure SyntaxError where
  line : Nat
  message : String

abbrev Reader := StateT Source (Except SyntaxError)

namespace Reader

def fail {α : Type} (message : String) : Reader α := do throw ⟨(← get).line, message⟩

/-- Drops backslashes before line ends, with the line ends; tells how many there were. -/
def dropContinuations : Text → Nat × Text
  | '\\' :: '\n' :: rest =>
    let (count, rest) := dropContinuations rest
    (count + 1, rest)
  | text => (0, text)

/-- Puts the line back together if it has been broken here. -/
def joinLines : Reader Unit :=
  modify fun s =>
    let (count, rest) := dropContinuations s.rest
    { s with rest, line := s.line + count }

/-- The next character as it stands in the text. -/
def peekRaw? : Reader (Option Char) := return (← get).rest.head?

/-- The next character. -/
def peek? : Reader (Option Char) := do
  joinLines
  peekRaw?

/-- Goes past the next character. -/
def skip : Reader Unit :=
  modify fun s =>
    match s.rest with
    | '\n' :: rest => { s with rest, line := s.line + 1 }
    | _ :: rest => { s with rest }
    | [] => s

/-- Reads the next character as it stands in the text. -/
def nextRaw? : Reader (Option Char) := do
  let c ← peekRaw?
  skip
  return c

/-- Reads the next character. -/
def next? : Reader (Option Char) := do
  joinLines
  nextRaw?

/-- Goes past the next character if it is the given one. -/
def skipIf (c : Char) : Reader Bool := do
  if (← peek?) = some c then
    skip
    return true
  else return false

/-- Reads characters as long as they have a property. -/
def takeWhile (p : Char → Bool) : (fuel : Nat) → Reader Text
  | 0 => return []
  | fuel + 1 => do
    match ← peek? with
    | some c =>
      if p c then
        skip
        return c :: (← takeWhile p fuel)
      else return []
    | none => return []

/-- A bound for the number of characters left. -/
def fuel : Reader Nat := do
  let s ← get
  return s.aliases.foldl (fun length (_, text) => length + text.length) (s.rest.length + 1)

end Reader

end KDispatch.Shell
