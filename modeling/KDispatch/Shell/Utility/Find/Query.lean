import KDispatch.Shell.Regex
import KDispatch.Shell.Utility.Files

/-!
Queries for files: tests and actions with the ways to put them together, and how they are read from words.
-/

namespace KDispatch.Shell.Utility

/-- How a number is compared. -/
inductive Comparison where
  | less
  | equal
  | greater
  deriving DecidableEq

def Comparison.holds (comparison : Comparison) (a b : Int) : Bool :=
  match comparison with
  | .less => a < b
  | .equal => a = b
  | .greater => b < a

/-- What a file is asked for. -/
inductive FileTest where
  | always (value : Bool)
  /-- Its name or whole path matches a pattern. -/
  | name (whole ignoresCase : Bool) (pattern : Text)
  | regex (r : Regex) (ignoresCase : Bool)
  | linkTarget (ignoresCase : Bool) (pattern : Text)
  | kind (letters : List Char)
  | size (comparison : Comparison) (count unit : Nat)
  | empty
  /-- It has been changed later than at a time. -/
  | newer (time : Int)
  /-- Its age in units of so many seconds; parts of a unit count as one if `up` says so. -/
  | age (comparison : Comparison) (count unit : Nat) (up : Bool)
  | mode (comparison : Char) (bits : Nat)
  | links (comparison : Comparison) (count : Nat)
  | index (comparison : Comparison) (count : Nat)
  | owner (isRoot : Bool)
  | executable
  | same (location : Location)

inductive FileAction where
  | print (ending : Text)
  | format (text : Text)
  | delete
  | prune
  | quit
  /-- Runs a program on one file, in its directory if `inside` says so. -/
  | run (inside : Bool) (words : List Text)
  /-- Runs a program on many files at once; the number tells it from others. -/
  | runMany (number : Nat) (inside : Bool) (words : List Text)

/-- A query. -/
inductive Query where
  | test (t : FileTest)
  | action (a : FileAction)
  | not (q : Query)
  | both (a b : Query)
  | either (a b : Query)
  /-- The second one counts. -/
  | list (a b : Query)

namespace Query

/-- Whether a query does something with the files it finds. -/
def hasAction : Query → Bool
  | .test _ => false
  | .action .prune | .action .quit => false
  | .action _ => true
  | .not q => q.hasAction
  | .both a b | .either a b | .list a b => a.hasAction || b.hasAction

/-- The settings that hold for a whole query. -/
structure Settings where
  least : Nat
  most : Option Nat
  /-- Whether what is in a directory comes before it. -/
  insideFirst : Bool
  /-- Whether all links are followed. -/
  follows : Bool
  /-- The letters for how expressions are written. -/
  syntaxName : String

/-- Where reading a query has come to. -/
structure Reading where
  words : List Text
  settings : Settings
  /-- How many programs are run on many files at once. -/
  programs : Nat
  files : FileSystem
  /-- The last word that has been used. -/
  previous : Text

abbrev Reader := StateT Reading (Except Text)

def fail {α : Type} (message : Text) : Reader α := throw message

def word? : Reader (Option Text) := do
  match (← get).words with
  | [] => return none
  | word :: words =>
    modify fun s => { s with words, previous := word }
    return some word

/-- A word in quotes of two kinds. -/
def marked (word : Text) : Text := Char.ofNat 0x60 :: word ++ ['\'']

def argument (name : Text) : Reader Text := do
  match (← get).words with
  | [] => fail ("missing argument to ".toList ++ marked name)
  | word :: words =>
    modify fun s => { s with words }
    return word

/-- A number with a sign that tells how it is compared. -/
def comparison? (text : Text) : Option (Comparison × Nat × Text) :=
  let (comparison, rest) : Comparison × Text :=
    match text with
    | '+' :: rest => (.greater, rest)
    | '-' :: rest => (.less, rest)
    | rest => (.equal, rest)
  match Number.digits 10 rest 0 0 with
  | (_, 0, _) => none
  | (n, _, rest) => some (comparison, n, rest)

/-- A number that is compared, with nothing after it. -/
def compared (name : Text) : Reader (Comparison × Nat) := do
  let text ← argument name
  match comparison? text with
  | some (comparison, n, []) => return (comparison, n)
  | _ => fail ("invalid argument ".toList ++ marked text ++ " to ".toList ++ marked name)

def sizeTest (text : Text) : Reader Query := do
  let unit? (letter : Char) : Option Nat :=
    match letter with
    | 'b' => some 512
    | 'c' => some 1
    | 'w' => some 2
    | 'k' => some 1024
    | 'M' => some 1048576
    | 'G' => some 1073741824
    | _ => none
  match comparison? text with
  | some (comparison, n, []) => return .test (.size comparison n 512)
  | some (comparison, n, [letter]) =>
    match unit? letter with
    | some unit => return .test (.size comparison n unit)
    | none => fail ("invalid -size type ".toList ++ marked [letter])
  | _ =>
    match text.getLast? with
    | some letter =>
      if (unit? letter).isSome || letter.isDigit then
        fail ("Invalid argument ".toList ++ marked text ++ " to -size".toList)
      else fail ("invalid -size type ".toList ++ marked [letter])
    | none => fail "invalid null argument to -size".toList

def kindTest (text : Text) : Reader Query := do
  let parts := text.splitOn ','
  let letters ← parts.mapM fun part => do
    match part with
    | [letter] =>
      if "bcdpflsD".toList.contains letter then pure letter
      else fail ("Unknown argument to -type: ".toList ++ [letter])
    | [] => fail "Arguments to -type should contain at least one letter".toList
    | letter :: _ =>
      if "bcdpflsD".toList.contains letter then
        fail "Must separate multiple arguments to -type using: ','".toList
      else fail ("Unknown argument to -type: ".toList ++ [letter])
  return .test (.kind letters)

/-- A test for the rights of a file. -/
def modeTest (text : Text) : Reader Query := do
  let (sign, change) := match text with
    | '-' :: change => ('-', change)
    | '/' :: change => ('/', change)
    | change => ('=', change)
  match changedMode? 0 false change 0 with
  | some bits => return .test (.mode sign bits)
  | none => fail ("invalid mode ".toList ++ cited text)

/-- An expression whose signs of repetition need no backslashes where others do. -/
def adapted : Text → Text
  | '\\' :: c :: rest => '\\' :: c :: adapted rest
  | c :: rest => if c = '+' || c = '?' then '\\' :: c :: adapted rest else c :: adapted rest
  | [] => []

def regexTest (ignoresCase : Bool) (text : Text) : Reader Query := do
  let name := (← get).settings.syntaxName
  let extended := ["posix-extended", "posix-egrep", "egrep", "awk", "posix-awk", "gnu-awk"].contains name
  let isBasic := ["posix-basic", "grep", "sed", "ed"].contains name
  match Regex.parse ⟨extended, false⟩ (if extended || isBasic then text else adapted text) with
  | .ok parsed => return .test (.regex parsed.regex ignoresCase)
  | .error message => fail ("failed to compile regular expression '".toList ++ text ++ "': ".toList ++ message.toList)

/-- The words of a program up to the sign that ends them. -/
def programWords (name : Text) : (fuel : Nat) → List Text → Reader (List Text × Bool)
  | 0, _ => fail ("missing argument to ".toList ++ marked name)
  | fuel + 1, before => do
    match (← get).words with
    | [] => fail ("missing argument to ".toList ++ marked name)
    | word :: words =>
      modify fun s => { s with words }
      if word = [';'] then return (before.reverse, false)
      else if word = ['+'] && before.head? = some "\x7b\x7d".toList then return (before.reverse, true)
      else programWords name fuel (word :: before)

def runAction (inside : Bool) (name : Text) : Reader Query := do
  let (words, isMany) ← programWords name ((← get).words.length + 1) []
  if words.isEmpty then fail ("invalid argument ".toList ++ marked [';'] ++ " to ".toList ++ marked name)
  if isMany then
    let number := (← get).programs
    modify fun s => { s with programs := number + 1 }
    return .action (.runMany number inside words.dropLast)
  else return .action (.run inside words)

/-- When a file was changed that another one has to be newer than. -/
def timeOf (path : Text) : Reader Int := do
  let files := (← get).files
  match files.openToRead (Task.path path) with
  | .ok location => return files.timeOf location
  | .error e => fail (quoted path ++ ": ".toList ++ e.reason.toList)

def changeSettings (change : Settings → Settings) : Reader Query := do
  modify fun s => { s with settings := change s.settings }
  return .test (.always true)

def depthArgument (name : Text) : Reader Nat := do
  let text ← argument name
  if !text.isEmpty && text.all Char.isDigit then return (Number.digits 10 text 0 0).1
  else
    fail ("Expected a positive decimal integer argument to ".toList ++ name ++ ", but got ".toList ++
      cited text)

/-- A test or an action. -/
def basic (previous word : Text) : Reader Query := do
  let test (t : FileTest) : Reader Query := return .test t
  match String.ofList word with
  | "-true" | "-noleaf" | "-warn" | "-nowarn" | "-xdev" | "-mount" | "-daystart"
  | "-readable" | "-writable" | "-ignore_readdir_race" | "-noignore_readdir_race" => test (.always true)
  | "-false" | "-nouser" | "-nogroup" => test (.always false)
  | "-name" => test (.name false false (← argument word))
  | "-iname" => test (.name false true (← argument word))
  | "-path" | "-wholename" => test (.name true false (← argument word))
  | "-ipath" | "-iwholename" => test (.name true true (← argument word))
  | "-lname" => test (.linkTarget false (← argument word))
  | "-ilname" => test (.linkTarget true (← argument word))
  | "-regex" => regexTest false (← argument word)
  | "-iregex" => regexTest true (← argument word)
  | "-regextype" =>
    let name ← argument word
    changeSettings fun s => { s with syntaxName := String.ofList name }
  | "-type" | "-xtype" => kindTest (← argument word)
  | "-size" => sizeTest (← argument word)
  | "-empty" => test .empty
  | "-newer" | "-anewer" | "-cnewer" | "-newermm" => test (.newer (← timeOf (← argument word)))
  | "-newermt" =>
    let text ← argument word
    match Calendar.read? (← get).files.clock text with
    | some time => test (.newer time)
    | none => fail ("I cannot figure out how to interpret ".toList ++ cited text ++
        " as a date or time".toList)
  | "-mtime" | "-atime" | "-ctime" =>
    let (comparison, n) ← compared word
    test (.age comparison n 86400 false)
  | "-mmin" | "-amin" | "-cmin" =>
    let (comparison, n) ← compared word
    test (.age comparison n 60 true)
  | "-perm" => modeTest (← argument word)
  | "-links" =>
    let (comparison, n) ← compared word
    test (.links comparison n)
  | "-inum" =>
    let (comparison, n) ← compared word
    test (.index comparison n)
  | "-user" | "-group" =>
    let name ← argument word
    if name = "root".toList || name = ['0'] then test (.owner true)
    else if name.all Char.isDigit || name = "daemon".toList || name = "nobody".toList then test (.owner false)
    else fail (cited name ++ " is not the name of a known ".toList ++ word.drop 1)
  | "-uid" | "-gid" =>
    let (comparison, n) ← compared word
    test (.owner (comparison.holds 0 n))
  | "-executable" => test .executable
  | "-samefile" =>
    let path ← argument word
    match (← get).files.openToRead (Task.path path) with
    | .ok location => test (.same location)
    | .error e => fail (quoted path ++ ": ".toList ++ e.reason.toList)
  | "-maxdepth" =>
    let n ← depthArgument word
    changeSettings fun s => { s with most := some n }
  | "-mindepth" =>
    let n ← depthArgument word
    changeSettings fun s => { s with least := n }
  | "-depth" | "-d" => changeSettings fun s => { s with insideFirst := true }
  | "-follow" => changeSettings fun s => { s with follows := true }
  | "-print" => return .action (.print ['\n'])
  | "-print0" => return .action (.print ['\x00'])
  | "-printf" => return .action (.format (← argument word))
  | "-prune" => return .action .prune
  | "-quit" => return .action .quit
  | "-delete" =>
    let _ ← changeSettings fun s => { s with insideFirst := true }
    return .action .delete
  | "-exec" => runAction false word
  | "-execdir" => runAction true word
  | _ =>
    if word.head? = some '-' then fail ("unknown predicate ".toList ++ marked word)
    else
      let isThere := ((← get).files.openToRead (Task.path word)).isOk
      let hint := if isThere && !previous.isEmpty then
          "\npossible unquoted pattern after predicate ".toList ++ marked previous ++ ['?']
        else []
      fail ("paths must precede expression: ".toList ++ marked word ++ hint)

/-- Whether a word ends what an operator stands behind. -/
def isBinary (word : Text) : Bool :=
  ["-o", "-or", "-a", "-and", ","].contains (String.ofList word)

mutual

/-- Queries with commas between them. -/
def listOf : (fuel : Nat) → Reader Query
  | 0 => fail "invalid expression".toList
  | fuel + 1 => do
    let first ← eitherOf fuel
    match (← get).words with
    | [','] :: words =>
      modify fun s => { s with words }
      return .list first (← listOf fuel)
    | _ => return first

/-- Queries of which one has to hold. -/
def eitherOf : (fuel : Nat) → Reader Query
  | 0 => fail "invalid expression".toList
  | fuel + 1 => do
    let first ← bothOf fuel
    match (← get).words with
    | word :: words =>
      if word = "-o".toList || word = "-or".toList then
        modify fun s => { s with words }
        if words.isEmpty then fail "invalid expression".toList
        return .either first (← eitherOf fuel)
      else return first
    | [] => return first

/-- Queries that all have to hold. -/
def bothOf : (fuel : Nat) → Reader Query
  | 0 => fail "invalid expression".toList
  | fuel + 1 => do
    let first ← single fuel
    match (← get).words with
    | [] => return first
    | word :: words =>
      if word = "-a".toList || word = "-and".toList then
        modify fun s => { s with words }
        if words.isEmpty then fail "invalid expression".toList
        return .both first (← bothOf fuel)
      else if isBinary word || word = [')'] then return first
      else return .both first (← bothOf fuel)

/-- A query without operators between queries. -/
def single : (fuel : Nat) → Reader Query
  | 0 => fail "invalid expression".toList
  | fuel + 1 => do
    let previous := (← get).previous
    match ← word? with
    | none => fail "invalid expression".toList
    | some word =>
      match String.ofList word with
      | "!" | "-not" =>
        if (← get).words.isEmpty then fail ("expected an expression after ".toList ++ cited word)
        return .not (← single fuel)
      | "(" =>
        if (← get).words.head? = some [')'] then
          fail "invalid expression; empty parentheses are not allowed.".toList
        if (← get).words.isEmpty then
          fail ("invalid expression; expected to find a ')' but didn't see one. " ++
            "Perhaps you need an extra predicate after '('").toList
        let inner ← listOf fuel
        match (← get).words with
        | [')'] :: words =>
          modify fun s => { s with words }
          return inner
        | _ =>
          fail ("invalid expression; I was expecting to find a ')' somewhere " ++
            "but did not see one.").toList
      | ")" => fail "invalid expression; you have too many ')'".toList
      | _ =>
        if isBinary word then
          fail ("invalid expression; you have used a binary operator ".toList ++ cited word ++
            " with nothing before it.".toList)
        basic previous word

end

/-- The query that words spell, and its settings. -/
def ofWords (files : FileSystem) (follows : Bool) (words : List Text) :
    Except Text (Query × Settings) := do
  let start : Reading :=
    ⟨words, ⟨0, none, false, follows, "findutils-default"⟩, 0, files, []⟩
  if words.isEmpty then return (.action (.print ['\n']), start.settings)
  let (query, reading) ← (listOf (8 * words.length + 8)).run start
  if !reading.words.isEmpty then throw "you have too many ')'".toList
  let query := if query.hasAction then query else .both query (.action (.print ['\n']))
  return (query, reading.settings)

end Query

end KDispatch.Shell.Utility
