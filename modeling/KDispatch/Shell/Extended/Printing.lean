import KDispatch.Shell.Extended.Syntax

/-!
Scripts as texts that read back as the same scripts. Compound commands go over several lines with
indentation, and the bodies of here-documents follow the line that they are announced on.
-/

namespace KDispatch.Shell.Extended

/-- A text while it is written. -/
structure Printer where
  /-- The text so far, in reverse. -/
  written : Text
  indentation : Nat
  step : Nat
  /-- How many definitions of functions surround the place. -/
  functions : Nat
  /-- How many commands are not to be indented, as they go on in a line. -/
  inline : Nat
  /-- How many connections surround the place. -/
  connections : Nat
  /-- Here-documents whose bodies are still to be written. -/
  deferred : List Nat
  /-- Whether a body has just been written. -/
  afterDocument : Bool

abbrev Printing := StateM Printer

namespace Printing

def write (text : Text) : Printing Unit :=
  modify fun p => { p with written := text.reverse ++ p.written }

def indent : Printing Unit := do write (List.replicate (← get).indentation ' ')

/-- Goes to a new line that begins with the given text. -/
def newLine (text : String) : Printing Unit := do
  write ['\n']
  indent
  write text.toList

/-- Ends a command, unless its last character does so. -/
def semicolon : Printing Unit := do
  match (← get).written with
  | '&' :: _ | '\n' :: _ => return
  | _ => write [';']

def deeper (work : Printing Unit) : Printing Unit := do
  modify fun p => { p with indentation := p.indentation + p.step }
  work
  modify fun p => { p with indentation := p.indentation - p.step }

/-- Lets the next command go on in the line. -/
def goOn : Printing Unit := modify fun p => { p with inline := p.inline + 1 }

def number (n : Nat) : Text := (toString n).toList

/-- A descriptor where it is not the usual one. -/
def handle (usual : Nat) : Handle → Text
  | .number n => if n = usual then [] else number n
  | .stored target => '\x7b' :: target ++ ['\x7d']

def shownHandle : Handle → Text
  | .number n => number n
  | .stored target => '\x7b' :: target ++ ['\x7d']

/-- Writes the bodies of here-documents. -/
def bodies (documents : Nat → Option Document) (numbers : List Nat) : Printing Unit := do
  write ['\n']
  for n in numbers do
    match documents n with
    | some document => write (document.source ++ document.delimiter ++ ['\n'])
    | none => pure ()
  modify fun p => { p with afterDocument := true }

/-- Writes what follows a command, and then the bodies that have been put off. -/
def deferred (documents : Nat → Option Document) (after : String) : Printing Unit := do
  let shows := after ≠ "" && after ≠ ";"
  if shows then write after.toList
  let numbers := (← get).deferred
  if !numbers.isEmpty then
    modify fun p => { p with deferred := [] }
    bodies documents numbers
    if shows then write [' ']

/-- Writes the bodies that have been put off, if there are any. -/
def flushDeferred (documents : Nat → Option Document) : Printing Unit := do
  if !(← get).deferred.isEmpty then deferred documents ""

def quotedDelimiter (document : Document) : Text :=
  if document.expands then document.delimiter
  else
    let quote : Text := ['\'']
    quote ++ document.delimiter ++ quote

/-- A redirection, without the body of a here-document. -/
def redirection (documents : Nat → Option Document) : Redirection → Text
  | .file h mode target =>
    let (shown, sign) : Text × String := match mode with
      | .read => (handle 0 h, "< ")
      | .readWrite => (shownHandle h, "<> ")
      | .write => (handle 1 h, "> ")
      | .overwrite => (handle 1 h, ">| ")
      | .append => (handle 1 h, ">> ")
    shown ++ sign.toList ++ target.source
  | .outputs appends target => (if appends then "&>> " else "&> ").toList ++ target.source
  | .duplicate h writes source =>
    let sign := (if writes then ">&" else "<&").toList
    if source.source = ['-'] then shownHandle h ++ ">&-".toList
    else if source.source.all Char.isDigit then shownHandle h ++ sign ++ source.source
    else handle (if writes then 1 else 0) h ++ sign ++ source.source
  | .document h n =>
    match documents n with
    | some document =>
      handle 0 h ++ (if document.dropsTabs then "<<-" else "<<").toList ++ quotedDelimiter document
    | none => []
  | .line h word => handle 0 h ++ "<<< ".toList ++ word.source

/-- Writes redirections; the bodies of here-documents wait for the end of the line inside a connection. -/
def redirections (documents : Nat → Option Document) (list : List Redirection) : Printing Unit := do
  modify fun p => { p with afterDocument := false }
  write ([' '].intercalate (list.map (redirection documents)))
  let numbers := list.filterMap fun
    | .document _ n => some n
    | _ => none
  if !numbers.isEmpty then
    if 0 < (← get).connections then modify fun p => { p with deferred := numbers }
    else bodies documents numbers

def element (e : Element) : Text :=
  match e.key with
  | some key =>
    '[' :: key.source ++ (if e.appends then "]+=".toList else "]=".toList) ++ e.value.source
  | none => e.value.source

/-- What stands before the value of an assignment. -/
def target (a : Assignment) : Text :=
  let subscript : Text := match a.subscript with
    | some word => '[' :: word.source ++ [']']
    | none => []
  a.name.toList ++ subscript ++ (if a.appends then "+=".toList else "=".toList)

def assignment (a : Assignment) : Text :=
  target a ++ (match a.value with
    | .text word => word.source
    | .list source _ => '(' :: source ++ [')'])

def argument : Argument → Text
  | .word word => word.source
  | .assignment a => assignment a

def words (separator : String) (list : List Word) : Text :=
  separator.toList.intercalate (list.map (·.source))

def test : Test → Text
  | .unary operator operand => operator.toList ++ ' ' :: operand.source
  | .binary operator a b => a.source ++ ' ' :: operator.toList ++ ' ' :: b.source
  | .not t => '!' :: ' ' :: test t
  | .both a b => test a ++ " && ".toList ++ test b
  | .either a b => test a ++ " || ".toList ++ test b
  | .grouped t => "( ".toList ++ test t ++ " )".toList

def branchEnd : BranchEnd → String
  | .leaves => ";;"
  | .falls => ";&"
  | .tests => ";;&"

/-- The sign between two commands. -/
inductive Connector where
  | semicolon
  | lineEnd
  | and
  | or
  | pipe
  deriving DecidableEq

/-- Writes the sign between two commands of a connection. -/
def connect (documents : Nat → Option Document) (connector : Connector) : Printing Unit := do
  match connector with
  | .and =>
    deferred documents " && "
    goOn
  | .or =>
    deferred documents " || "
    goOn
  | .pipe =>
    write " |".toList
    if !(← get).deferred.isEmpty then
      deferred documents ""
      write [' ']
    write [' ']
    goOn
  | .lineEnd =>
    if (← get).deferred.isEmpty then
      modify fun p => { p with afterDocument := false }
      write ['\n']
    else deferred documents ""
    if 0 < (← get).functions then write ['\n'] else goOn
  | .semicolon =>
    if (← get).deferred.isEmpty then
      if (← get).afterDocument then modify fun p => { p with afterDocument := false }
      else write [';']
    else deferred documents ";"
    if 0 < (← get).functions then write ['\n']
    else
      write [' ']
      goOn

/-- Begins a connection. -/
def start : Printing Unit := do
  if 0 < (← get).inline then modify fun p => { p with inline := p.inline - 1 }
  else indent
  goOn
  modify fun p => { p with connections := p.connections + 1 }

def connection (documents : Nat → Option Document) (connector : Connector)
    (first second : Printing Unit) : Printing Unit := do
  start
  first
  connect documents connector
  second
  flushDeferred documents
  modify fun p => { p with connections := p.connections - 1 }

/-- Writes the body of a function between braces, and its redirections. -/
def definition (documents : Nat → Option Document) (body : Printing Unit)
    (more : List Redirection) : Printing Unit := do
  indent
  write "\x7b \n".toList
  modify fun p => { p with functions := p.functions + 1 }
  deeper do
    body
    flushDeferred documents
  modify fun p => { p with functions := p.functions - 1 }
  if more.isEmpty then newLine "\x7d"
  else
    newLine "\x7d "
    redirections documents more

mutual

/-- Writes a command. -/
def script (documents : Nat → Option Document) : Script → Printing Unit
  | .nothing => pure ()
  | .redirected body more => do
    script documents body
    write [' ']
    redirections documents more
  | .sequence _ (.background first) second => do
    background documents first
    write [' ']
    goOn
    script documents second
    flushDeferred documents
    modify fun p => { p with connections := p.connections - 1 }
  | .sequence _ (.sequence lines first (.background middle)) last => do
    start
    script documents first
    connect documents (if lines then .lineEnd else .semicolon)
    background documents middle
    write [' ']
    goOn
    script documents last
    flushDeferred documents
    modify fun p => { p with connections := p.connections - 2 }
  | .sequence lines first second =>
    connection documents (if lines then .lineEnd else .semicolon) (script documents first) (script documents second)
  | .both first second =>
    connection documents .and (script documents first) (script documents second)
  | .either first second =>
    connection documents .or (script documents first) (script documents second)
  | .background body => do
    background documents body
    modify fun p => { p with connections := p.connections - 1 }
  | .pipeline commands => pipeline documents commands
  | body => do
    if 0 < (← get).inline then modify fun p => { p with inline := p.inline - 1 }
    else indent
    single documents body

/-- Writes a command in the background and the sign for it. -/
def background (documents : Nat → Option Document) (body : Script) : Printing Unit := do
  start
  script documents body
  write " &".toList
  flushDeferred documents

def pipeline (documents : Nat → Option Document) : List Script → Printing Unit
  | [] => pure ()
  | [last] => script documents last
  | first :: more =>
    connection documents .pipe (script documents first) (pipeline documents more)

/-- Writes a command that is no connection, from where it begins. -/
def single (documents : Nat → Option Document) : Script → Printing Unit
  | .simple _ assignments arguments more => do
    write ([' '].intercalate (assignments.map assignment ++ arguments.map argument))
    if !more.isEmpty then
      if !(assignments.isEmpty && arguments.isEmpty) then write [' ']
      redirections documents more
  | .group body => do
    write "\x7b ".toList
    let inFunction := 0 < (← get).functions
    if inFunction then
      write ['\n']
      deeper do
        script documents body
        flushDeferred documents
      write ['\n']
      indent
    else
      goOn
      script documents body
      flushDeferred documents
      semicolon
      write [' ']
    write ['\x7d']
  | .subshell _ body => do
    write "( ".toList
    goOn
    script documents body
    flushDeferred documents
    write " )".toList
  | .negation body => do
    write "! ".toList
    goOn
    script documents body
  | .timed portable body => do
    write (if portable then "time -p " else "time ").toList
    goOn
    script documents body
  | .choice condition whenTrue whenFalse => do
    write "if ".toList
    goOn
    script documents condition
    semicolon
    write " then\n".toList
    deeper do
      script documents whenTrue
      flushDeferred documents
    match whenFalse with
    | some whenFalse => do
      semicolon
      newLine "else\n"
      deeper do
        script documents whenFalse
        flushDeferred documents
    | none => pure ()
    semicolon
    newLine "fi"
  | .loop success condition body => do
    write (if success then "while " else "until ").toList
    goOn
    script documents condition
    flushDeferred documents
    semicolon
    write " do\n".toList
    deeper do
      script documents body
      flushDeferred documents
    semicolon
    newLine "done"
  | .each _ name list body => do
    write ("for ".toList ++ name.source ++ " in ".toList ++ (match list with
      | some list => words " " list
      | none => "\"$@\"".toList))
    loopBody documents body
  | .menu _ name list body => do
    write ("select ".toList ++ name.source ++ " in ".toList ++ (match list with
      | some list => words " " list
      | none => "\"$@\"".toList))
    loopBody documents body
  | .count _ first condition step body => do
    let shown (expression : Word) : Text :=
      if expression.source.isEmpty then ['1'] else expression.source
    write ("for ((".toList ++ shown first ++ "; ".toList ++ shown condition ++ "; ".toList ++
      shown step ++ "))".toList)
    newLine "do\n"
    deeper (script documents body)
    semicolon
    newLine "done"
  | .select _ word list => do
    write ("case ".toList ++ word.source ++ " in ".toList)
    deeper (branches documents list)
    newLine "esac"
  | .arithmetic _ expression => write ("((".toList ++ expression.source ++ "))".toList)
  | .condition _ t => write ("[[ ".toList ++ test t ++ " ]]".toList)
  | .function _ name (.redirected (.group body) more) => do
    write ("function ".toList ++ name ++ " () \n".toList)
    definition documents (script documents body) more
  | .function _ name (.group body) => do
    write ("function ".toList ++ name ++ " () \n".toList)
    definition documents (script documents body) []
  | .function _ name body => do
    write ("function ".toList ++ name ++ " () \n".toList)
    definition documents (script documents body) []
  | .companion _ name body => do
    write ("coproc ".toList ++ name.toList ++ [' '])
    goOn
    script documents body
  | _ => pure ()

def loopBody (documents : Nat → Option Document) (body : Script) : Printing Unit := do
  write [';']
  newLine "do\n"
  deeper do
    script documents body
    flushDeferred documents
  semicolon
  newLine "done"

def branches (documents : Nat → Option Document) :
    List (List Word × Script × BranchEnd) → Printing Unit
  | [] => pure ()
  | (patterns, body, ending) :: more => do
    newLine ""
    write (words " | " patterns ++ ")\n".toList)
    deeper do
      script documents body
      flushDeferred documents
    newLine (branchEnd ending)
    branches documents more

end

def empty : Printer := ⟨[], 0, 4, 0, 0, 0, [], false⟩

end Printing

/-- The text of a command. -/
def Script.text (documents : Nat → Option Document) (script : Script) : Text :=
  ((Printing.script documents script).run Printing.empty).2.written.reverse

/-- The definition of a function, over several lines or, apart from the closing brace, in one. -/
def Script.definition (documents : Nat → Option Document) (name : Text) (lines : Bool)
    (body : Script) : Text :=
  let (inner, more) : Script × List Redirection := match body with
    | .redirected (.group inner) more => (inner, more)
    | .group inner => (inner, [])
    | inner => (inner, [])
  let work : Printing Unit := do
    Printing.write (name ++ (if name.isEmpty then "() " else " () ").toList)
    if lines then Printing.write ['\n']
    modify fun p =>
      if lines then { p with indentation := 4, functions := 1 }
      else { p with indentation := 1, step := 0, functions := 1 }
    Printing.write (if lines then "\x7b \n" else "\x7b ").toList
    Printing.script documents inner
    Printing.flushDeferred documents
    modify fun p => { p with indentation := 0 }
    if more.isEmpty then Printing.newLine "\x7d"
    else
      Printing.newLine "\x7d "
      Printing.redirections documents more
  (work.run Printing.empty).2.written.reverse

/-! ## Text that is read

The text of a script as it is read: what is left of it, the line it has come to, the source of the word
that is read, and the here-documents that are still to be read at the next end of a line.
-/

inductive Token where
  /-- The end of the text. -/
  | finish
  | lineEnd
  | redirection (handle : Option Handle) (sign : String)
  | operator (sign : String)
  | word (word : Word)
  | assignment (assignment : Assignment)
  /-- An arithmetic command. -/
  | arithmetic (expression : Word)

/-- A here-document that a redirection has announced. -/
structure AnnouncedDocument where
  number : Nat
  delimiter : Text
  expands : Bool
  dropsTabs : Bool
  /-- The line of the announcement. -/
  line : Nat

/-- A line of a script: its number and its text. -/
structure SourceLine where
  number : Nat
  text : Text

structure Source where
  rest : Text
  line : Nat
  /-- What has been read of the line, in reverse. -/
  passed : Text
  /-- The source of the word that is read, in reverse. -/
  seen : Text
  /-- A token that has been read and put back. -/
  next : Option Token
  /-- The line on which the last token ended. -/
  place : SourceLine
  /-- Texts that stand for words where a command begins. -/
  aliases : List (Text × Text)
  /-- The aliases that have been replaced, each with the length of the text behind it. -/
  replaced : List (Text × Nat)
  /-- Whether patterns with alternatives are read as such. -/
  alternatives : Bool
  /-- Whether the commands are read that stand inside a word. -/
  nested : Bool
  /-- Here-documents to be read at the end of the line. -/
  announced : List AnnouncedDocument
  /-- The number of the next here-document. -/
  nextDocument : Nat
  /-- The here-documents read so far. -/
  documents : List (Nat × Document)
  /-- What is to be said about the text, with the lines it is said about. -/
  warnings : List (Nat × Text)

/-- The source of a text that begins in the given line. -/
def Source.ofText (text : Text) (line : Nat) : Source :=
  { rest := text, line, passed := [], seen := [], next := none, place := ⟨line, []⟩, aliases := [],
    replaced := [], alternatives := false, nested := false, announced := [], nextDocument := 0,
    documents := [], warnings := [] }

/-- Why a text cannot be read: messages with their lines, and the status that the shell ends with. -/
structure SyntaxError where
  messages : List (Nat × Text)
  status : Nat

abbrev Reader := StateT Source (Except SyntaxError)

namespace Reader

/-- Fails with messages, after the warnings. -/
def failWith {α : Type} (messages : List (Nat × Text)) : Reader α := do
  throw ⟨(← get).warnings ++ messages, 2⟩

/-- A text between the marks that messages quote with. -/
def marked (text : Text) : Text := Char.ofNat 0x60 :: text ++ ['\'']

/-- Fails at the end of a text in which something that began in a line has not been closed. -/
def unclosed {α : Type} (line : Nat) (sign : Text) : Reader α :=
  failWith [(line, "unexpected EOF while looking for matching ".toList ++ marked sign)]

/-- The line that is read. -/
def currentLine : Reader SourceLine := do
  let s ← get
  return ⟨s.line, s.passed.reverse ++ s.rest.takeWhile (· ≠ '\n')⟩

/-- Drops backslashes before line ends, with the line ends; tells how many there were. -/
def dropContinuations : Text → Nat × Text
  | '\\' :: '\n' :: rest =>
    let (count, rest) := dropContinuations rest
    (count + 1, rest)
  | text => (0, text)

/-- Puts the line back together if it has been broken here. -/
def joinLines : Reader Unit :=
  modify fun s =>
    match s.rest with
    | '\\' :: '\n' :: _ =>
      let (count, rest) := dropContinuations s.rest
      { s with rest, line := s.line + count, passed := [] }
    | _ => s

/-- The next character as it stands in the text. -/
def peekRaw? : Reader (Option Char) := return (← get).rest.head?

/-- The next character. -/
def peek? : Reader (Option Char) := do
  joinLines
  peekRaw?

/-- Goes past the next character. -/
def skip : Reader Unit :=
  modify fun s =>
    match s.rest with
    | '\n' :: rest => { s with rest, line := s.line + 1, passed := [], seen := '\n' :: s.seen }
    | c :: rest => { s with rest, passed := c :: s.passed, seen := c :: s.seen }
    | [] => s

/-- Reads the next character as it stands in the text. -/
def nextRaw? : Reader (Option Char) := do
  let c ← peekRaw?
  skip
  return c

/-- Goes past the next character if it is the given one. -/
def skipIf (c : Char) : Reader Bool := do
  if (← peek?) = some c then
    skip
    return true
  else return false

/-- Whether the text goes on with the given characters. -/
def startsWith (text : String) : Reader Bool := return text.toList.isPrefixOf (← get).rest

/-- Reads characters as long as they have a property. -/
def takeWhile (p : Char → Bool) : (fuel : Nat) → Reader Text
  | 0 => return []
  | fuel + 1 => do
    match ← peek? with
    | some c =>
      if p c then
        skip
        return c :: (← takeWhile p fuel)
      else return []
    | none => return []

/-- A bound for the number of characters left. -/
def fuel : Reader Nat := do
  let s ← get
  return s.aliases.foldl (fun length (_, text) => length + text.length) (s.rest.length + 1)

/-- Reads something and keeps its source. -/
def capture {α : Type} (read : Reader α) : Reader (Text × α) := do
  let before := (← get).seen
  modify fun s => { s with seen := [] }
  let value ← read
  let source := (← get).seen
  modify fun s => { s with seen := source ++ before }
  return (source.reverse, value)

/-- Reads something unless it is not there; then nothing has been read. -/
def attempt {α : Type} (read : Reader (Option α)) : Reader (Option α) := do
  let before ← get
  match ← read with
  | some value => return some value
  | none =>
    set before
    return none

end Reader

end KDispatch.Shell.Extended
