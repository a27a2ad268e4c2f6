import KDispatch.Shell.Regex
import KDispatch.Shell.Syntax
import KDispatch.Shell.Utility.Records.Value

/-!
A language of patterns and actions for records: its programs and their words and signs.
-/

/-! ## Programs

A language of patterns and actions for texts that consist of records, which consist of fields. All texts
are byte texts.
-/

namespace KDispatch.Shell.Records

/-- An operation on two numbers. -/
inductive Operation where
  | add
  | subtract
  | multiply
  | divide
  | remainder
  | power
  deriving DecidableEq

inductive Comparison where
  | equal
  | unequal
  | less
  | lessOrEqual
  | greater
  | greaterOrEqual
  deriving DecidableEq

/-- The functions of the language. -/
inductive Function where
  | length
  | substring
  | index
  | split
  | sub
  | gsub
  | find
  | format
  | sine
  | cosine
  | arctangent
  | exponential
  | logarithm
  | root
  | whole
  | random
  | seed
  | lower
  | upper
  | system
  | close
  | flush
  | now
  | calendar
  | instant
  deriving DecidableEq

/-- A regular expression and how it has been written. -/
structure Matcher where
  source : Text
  regex : Regex

/-- Where a record is read from. -/
inductive Origin where
  /-- The files that the program has been given. -/
  | main
  | file
  | command
  deriving DecidableEq

inductive Expr where
  | number (value : Float)
  | text (content : Text)
  /-- Whether the record has a match; as an argument, the expression itself. -/
  | regex (matcher : Matcher)
  | variable (name : String)
  | element (array : String) (subscripts : List Expr)
  | field (index : Expr)
  | assign (operation : Option Operation) (target value : Expr)
  /-- Counts up or down; the value is that from before if `old` says so. -/
  | step (up old : Bool) (target : Expr)
  /-- An expression in brackets that could be assigned to without them. -/
  | bracketed (e : Expr)
  | negated (e : Expr)
  | plus (e : Expr)
  | not (e : Expr)
  | binary (operation : Operation) (a b : Expr)
  | compared (comparison : Comparison) (a b : Expr)
  | joined (a b : Expr)
  /-- Whether a text has a match. -/
  | found (positive : Bool) (text pattern : Expr)
  | both (a b : Expr)
  | either (a b : Expr)
  | choice (condition whenTrue whenFalse : Expr)
  | member (subscripts : List Expr) (array : String)
  | call (name : String) (arguments : List Expr)
  | apply (function : Function) (arguments : List Expr)
  | read (origin : Origin) (source : Option Expr) (target : Option Expr)
  deriving Inhabited

/-- Where output goes. -/
inductive Sink where
  | file
  | append
  | command
  deriving DecidableEq

inductive Statement where
  | nothing
  | expression (e : Expr)
  | print (arguments : List Expr) (sink : Option (Sink × Expr))
  | format (arguments : List Expr) (sink : Option (Sink × Expr))
  | sequence (first second : Statement)
  | choice (condition : Expr) (whenTrue whenFalse : Statement)
  | loop (condition : Expr) (body : Statement)
  | loopAfter (body : Statement) (condition : Expr)
  | count (start : Statement) (condition : Option Expr) (step body : Statement)
  | each (variableName array : String) (body : Statement)
  | leave
  | again
  | next
  | nextFile
  | exit (status : Option Expr)
  | give (value : Option Expr)
  | delete (array : String) (subscripts : Option (List Expr))
  deriving Inhabited

inductive Pattern where
  | start
  | finish
  | always
  | test (e : Expr)
  /-- From a record that passes the first test to one that passes the second. -/
  | range (number : Nat) (first last : Expr)

structure Rule where
  pattern : Pattern
  action : Statement

structure Routine where
  name : String
  parameters : List String
  body : Statement

structure Program where
  rules : List Rule
  routines : List Routine

end KDispatch.Shell.Records

/-! ## Tokens

The words and signs of a program, which are read one at a time: where an operand may begin, a slash
begins a regular expression, and elsewhere it divides.
-/

namespace KDispatch.Shell.Records

inductive Token where
  | finish
  | lineEnd
  | number (value : Float) (source : Text)
  | text (content : Text)
  | name (name : String)
  /-- A name with a bracket right behind it. -/
  | callee (name : String)
  | function (f : Function) (name : String)
  | keyword (name : String)
  | sign (sign : String)
  deriving Inhabited

namespace Token

def keywords : List String :=
  ["BEGIN", "END", "function", "if", "else", "while", "for", "do", "break", "continue", "next",
    "nextfile", "exit", "return", "delete", "in", "getline", "print", "printf"]

def functions : List (String × Function) :=
  [("length", .length), ("substr", .substring), ("index", .index), ("split", .split), ("sub", .sub),
    ("gsub", .gsub), ("match", .find), ("sprintf", .format), ("sin", .sine), ("cos", .cosine),
    ("atan2", .arctangent), ("exp", .exponential), ("log", .logarithm), ("sqrt", .root),
    ("int", .whole), ("rand", .random), ("srand", .seed), ("tolower", .lower), ("toupper", .upper),
    ("system", .system), ("close", .close), ("fflush", .flush), ("systime", .now),
    ("strftime", .calendar), ("mktime", .instant)]

/-- The signs, longer ones before those that they begin with. -/
def signs : List String :=
  ["&&", "||", "==", "!=", "<=", ">=", "++", "--", "+=", "-=", "*=", "/=", "%=", "^=", "!~", ">>",
    "\x7b", "\x7d", "(", ")", "[", "]", ";", ",", "+", "-", "*", "/", "%", "^", "!", ">", "<", "|",
    "?", ":", "~", "$", "="]

/-- A token as a message cites it. -/
def cited : Token → Text
  | .finish | .lineEnd => "end of line".toList
  | .number _ source => source
  | .text content => content
  | .name n | .callee n | .function _ n | .keyword n => n.toList
  | .sign s => s.toList

def isSign (sign : String) : Token → Bool
  | .sign s => s = sign
  | _ => false

def isKeyword (name : String) : Token → Bool
  | .keyword n => n = name
  | _ => false

end Token

/-- What is wrong with a program. -/
structure Mistake where
  line : Nat
  message : Text

/-- Goes past blanks, comments and broken line ends; gives the number of those. -/
def skipBlanks : Text → Nat × Text
  | [] => (0, [])
  | '\\' :: '\n' :: rest =>
    let (count, rest) := skipBlanks rest
    (count + 1, rest)
  | '\\' :: '\r' :: '\n' :: rest =>
    let (count, rest) := skipBlanks rest
    (count + 1, rest)
  | c :: rest =>
    if c = ' ' || c = '\t' || c = '\r' then skipBlanks rest
    else if c = '#' then skipComment rest
    else (0, c :: rest)
where
  skipComment : Text → Nat × Text
    | [] => (0, [])
    | '\n' :: rest => (0, '\n' :: rest)
    | _ :: rest => skipComment rest

/-- The character for an escape in a text after its backslash, with the backslash if the escape is not
known, and the text after it. -/
def decodeEscape : Text → Text × Text
  | [] => (['\\'], [])
  | c :: rest =>
    match c with
    | '"' => (['"'], rest)
    | '\\' => (['\\'], rest)
    | 'a' => ([Char.ofNat 7], rest)
    | 'b' => ([Char.ofNat 8], rest)
    | 'f' => ([Char.ofNat 12], rest)
    | 'n' => (['\n'], rest)
    | 'r' => (['\r'], rest)
    | 't' => (['\t'], rest)
    | 'v' => ([Char.ofNat 11], rest)
    | '\n' => ([], rest)
    | 'x' =>
      let digits := (rest.take 2).takeWhile fun d => (Number.digitValue? 16 d).isSome
      if digits.isEmpty then (['\\', 'x'], rest)
      else ([Char.ofNat ((Number.digits 16 digits 0 0).1 % 256)], rest.drop digits.length)
    | c =>
      if '0' ≤ c && c ≤ '7' then
        let digits := ((c :: rest).take 3).takeWhile fun d => '0' ≤ d && d ≤ '7'
        ([Char.ofNat ((Number.digits 8 digits 0 0).1 % 256)], (c :: rest).drop digits.length)
      else (['\\', c], rest)

/-- A text with its escapes replaced. -/
def decoded : (fuel : Nat) → Text → Text
  | 0, _ => []
  | _ + 1, [] => []
  | fuel + 1, '\\' :: rest =>
    let (shown, rest) := decodeEscape rest
    shown ++ decoded fuel rest
  | fuel + 1, c :: rest => c :: decoded fuel rest

/-- The characters of a text up to the quotation mark at its end, and what is behind it. -/
def quotedPart : (fuel : Nat) → Text → Option (Text × Text)
  | 0, _ => none
  | _ + 1, [] | _ + 1, '\n' :: _ => none
  | _ + 1, '"' :: rest => some ([], rest)
  | fuel + 1, '\\' :: c :: rest =>
    (quotedPart fuel rest).map fun (more, last) => ('\\' :: c :: more, last)
  | fuel + 1, c :: rest => (quotedPart fuel rest).map fun (more, last) => (c :: more, last)

/-- The characters of a regular expression up to the slash at its end, and what is behind it. -/
def regexPart : (fuel : Nat) → (boxed : Bool) → Text → Option (Text × Text)
  | 0, _, _ => none
  | _ + 1, _, [] | _ + 1, _, '\n' :: _ => none
  | _ + 1, false, '/' :: rest => some ([], rest)
  | fuel + 1, boxed, '\\' :: '/' :: rest =>
    (regexPart fuel boxed rest).map fun (more, last) => ('/' :: more, last)
  | fuel + 1, boxed, '\\' :: c :: rest =>
    (regexPart fuel boxed rest).map fun (more, last) => ('\\' :: c :: more, last)
  | fuel + 1, boxed, '[' :: rest =>
    match boxed, rest with
    | false, '^' :: ']' :: rest =>
      (regexPart fuel true rest).map fun (more, last) => ('[' :: '^' :: ']' :: more, last)
    | false, ']' :: rest =>
      (regexPart fuel true rest).map fun (more, last) => ('[' :: ']' :: more, last)
    | true, ':' :: rest =>
      let name := rest.takeWhile Char.isAlpha
      match rest.drop name.length with
      | ':' :: ']' :: after =>
        (regexPart fuel true after).map fun (more, last) =>
          ("[:".toList ++ name ++ ":]".toList ++ more, last)
      | _ => (regexPart fuel true rest).map fun (more, last) => ('[' :: ':' :: more, last)
    | _, rest => (regexPart fuel true rest).map fun (more, last) => ('[' :: more, last)
  | fuel + 1, _, ']' :: rest =>
    (regexPart fuel false rest).map fun (more, last) => (']' :: more, last)
  | fuel + 1, boxed, c :: rest =>
    (regexPart fuel boxed rest).map fun (more, last) => (c :: more, last)

/-- The digits of a number that a program spells, and the text after them. -/
def numeralPart (text : Text) : Text × Text :=
  let whole := text.takeWhile Char.isDigit
  let rest := text.drop whole.length
  let (digits, rest) : Text × Text :=
    match rest with
    | '.' :: after =>
      let fraction := after.takeWhile Char.isDigit
      (whole ++ '.' :: fraction, after.drop fraction.length)
    | _ => (whole, rest)
  match rest with
  | e :: after =>
    if e = 'e' || e = 'E' then
      let sign := after.takeWhile fun c => c = '+' || c = '-'
      let exponent := (after.drop sign.length).takeWhile Char.isDigit
      if 1 < sign.length || exponent.isEmpty then (digits, rest)
      else (digits ++ e :: sign ++ exponent, after.drop (sign.length + exponent.length))
    else (digits, rest)
  | [] => (digits, rest)

/-- The start of a text that has no end, as a message cites it. -/
def runaway (text : Text) : Text := (text.takeWhile (· ≠ '\n')).take 10 ++ " ...".toList

/-- Reads the token that a text begins with; gives it and the text after it. -/
def nextToken (text : Text) : Except Text (Token × Text) :=
  match text with
  | [] => .ok (.finish, [])
  | '\n' :: rest => .ok (.lineEnd, rest)
  | '"' :: rest =>
    match quotedPart (rest.length + 1) rest with
    | some (content, rest) => .ok (.text (decoded (content.length + 1) content), rest)
    | none => .error ("runaway string constant \"".toList ++ runaway rest)
  | c :: rest =>
    if isNameStart c then
      let name := (c :: rest).takeWhile isNameChar
      let after := (c :: rest).drop name.length
      let key := String.ofList name
      if Token.keywords.contains key then .ok (.keyword key, after)
      else
        match Token.functions.lookup key with
        | some f => .ok (.function f key, after)
        | none => .ok (if after.head? = some '(' then .callee key else .name key, after)
    else if c.isDigit || (c = '.' && rest.head?.any Char.isDigit) then
      let (digits, after) := numeralPart (c :: rest)
      let fits := ((Real.read? digits).map fun (value, _) => (value.rounded .double).2).getD true
      if fits then .ok (.number (numberAt digits) digits, after)
      else .error (digits ++ " : decimal overflow".toList)
    else
      match Token.signs.find? fun (sign : String) => sign.toList.isPrefixOf (c :: rest) with
      | some sign => .ok (.sign sign, (c :: rest).drop sign.length)
      | none => .error []

end KDispatch.Shell.Records

/-! ## Regular expressions

Reading the regular expressions of the language, in which a backslash also stands before the letters of
control characters, and in brackets too.
-/

namespace KDispatch.Shell.Records.Matcher

def missingOperand : String := "missing operand"

/-- What is left of an expression. -/
structure Reading where
  rest : Text
  groups : Nat
  /-- How many groups are open. -/
  depth : Nat

abbrev Reader := StateT Reading (Except String)

def advance (rest : Text) : Reader Unit := modify fun s => { s with rest }

/-- The character for what follows a backslash, and the text after it. -/
def escaped : Text → Char × Text
  | [] => ('\\', [])
  | c :: rest =>
    match c with
    | 'n' => ('\n', rest)
    | 't' => ('\t', rest)
    | 'r' => ('\r', rest)
    | 'f' => (Char.ofNat 12, rest)
    | 'v' => (Char.ofNat 11, rest)
    | 'a' => (Char.ofNat 7, rest)
    | 'b' => (Char.ofNat 8, rest)
    | c =>
      if '0' ≤ c && c ≤ '7' then
        let digits := ((c :: rest).take 3).takeWhile fun d => '0' ≤ d && d ≤ '7'
        (Char.ofNat ((Number.digits 8 digits 0 0).1 % 256), (c :: rest).drop digits.length)
      else (c, rest)

/-- The next character between brackets, which a backslash may stand before. -/
def bracketChar : Text → Option (Char × Text)
  | [] => none
  | ['\\'] => none
  | '\\' :: rest => some (escaped rest)
  | c :: rest => some (c, rest)

/-- The choices between brackets, up to the closing one. -/
def choices : (fuel : Nat) → (first : Bool) → Text → Option (List Shell.Pattern.Choice × Text)
  | 0, _, _ => none
  | _ + 1, _, [] => none
  | fuel + 1, first, text =>
    match text with
    | ']' :: rest =>
      if first then
        (choices fuel false rest).map fun (more, last) => (.range ']' ']' :: more, last)
      else some ([], rest)
    | '[' :: ':' :: named =>
      let name := named.takeWhile (· ≠ ':')
      match named.drop name.length with
      | ':' :: ']' :: rest =>
        if Shell.Pattern.kindNames.contains (String.ofList name) then
          (choices fuel false rest).map fun (more, last) =>
            (.kind (String.ofList name) :: more, last)
        else none
      | _ => none
    | text =>
      (bracketChar text).bind fun (c, rest) =>
        match rest with
        | '-' :: ']' :: _ | '-' :: [] =>
          (choices fuel false rest).map fun (more, last) => (.range c c :: more, last)
        | '-' :: after =>
          (bracketChar after).bind fun (d, after) =>
            (choices fuel false after).map fun (more, last) => (.range c d :: more, last)
        | rest => (choices fuel false rest).map fun (more, last) => (.range c c :: more, last)

/-- The bounds of a repetition between braces, and the text after them. -/
def bounds? (text : Text) : Option ((Nat × Option Nat) × Text) :=
  match Number.digits 10 text 0 0 with
  | (_, 0, _) => none
  | (least, _, '\x7d' :: rest) => some ((least, some least), rest)
  | (least, _, ',' :: '\x7d' :: rest) => some ((least, none), rest)
  | (least, _, ',' :: rest) =>
    match Number.digits 10 rest 0 0 with
    | (_, 0, _) => none
    | (most, _, '\x7d' :: rest) => some ((least, some most), rest)
    | _ => none
  | _ => none

/-- The repetitions behind an expression. -/
def repetitions : (fuel : Nat) → Regex → Reader Regex
  | 0, r => return r
  | fuel + 1, r => do
    let follow (rest : Text) (r : Regex) : Reader Regex := do
      advance rest
      repetitions fuel r
    match (← get).rest with
    | '*' :: rest => follow rest (.repeated r 0 none)
    | '+' :: rest => follow rest (.repeated r 1 none)
    | '?' :: rest => follow rest (.repeated r 0 (some 1))
    | '\x7b' :: rest =>
      match bounds? rest with
      | some ((least, most), rest) => follow rest (.repeated r least most)
      | none => return r
    | _ => return r

mutual

/-- Alternatives, up to a closing bracket or the end. -/
def alternatives : (fuel : Nat) → Reader Regex
  | 0 => return .empty
  | fuel + 1 => do
    let first ← branch fuel true
    match (← get).rest with
    | '|' :: rest =>
      advance rest
      return .either first (← alternatives fuel)
    | _ => return first

/-- Expressions one after the other. -/
def branch : (fuel : Nat) → (first : Bool) → Reader Regex
  | 0, _ => return .empty
  | fuel + 1, first => do
    let go (r : Regex) (rest : Text) : Reader Regex := do
      advance rest
      let r ← repetitions (rest.length + 1) r
      return .both r (← branch fuel false)
    let s ← get
    let finish : Reader Regex := if first then throw missingOperand else return .empty
    match s.rest with
    | [] => if 0 < s.depth then throw "missing ')'" else finish
    | '|' :: _ | ')' :: _ => finish
    | '(' :: rest =>
      let number := s.groups + 1
      set (⟨rest, number, s.depth + 1⟩ : Reading)
      let inner ← alternatives fuel
      modify fun now => { now with depth := s.depth }
      match (← get).rest with
      | ')' :: rest => go (.group number inner) rest
      | _ => throw "missing ')'"
    | '[' :: rest =>
      let (inverted, inside) := match rest with
        | '^' :: inside => (true, inside)
        | inside => (false, inside)
      match choices (inside.length + 1) true inside with
      | some (choices, after) => go (.oneOf inverted choices) after
      | none => throw "bad class -- [], [^] or ["
    | '.' :: rest => go .anyChar rest
    | '^' :: rest =>
      match rest with
      | '*' :: _ | '+' :: _ => throw "syntax error ^* or ^+"
      | rest => go .lineStart rest
    | '$' :: rest => go .lineEnd rest
    | '*' :: _ | '+' :: _ | '?' :: _ => throw missingOperand
    | '\\' :: rest =>
      let (c, rest) := escaped rest
      go (.char c) rest
    | c :: rest => go (.char c) rest

end

/-- The expression that a text writes. -/
def ofText (source : Text) : Except String Matcher := do
  if source.isEmpty then return ⟨source, .empty⟩
  let (regex, reading) ← (alternatives (4 * source.length + 8)).run ⟨source, 0, 0⟩
  if reading.rest.isEmpty then return ⟨source, regex⟩ else throw "extra ')'"

/-- What is said of a text that is no expression. -/
def complaint (source : Text) (reason : String) : Text :=
  ("regular expression compile failed (" ++ reason ++ ")\n").toList ++ source

/-- How texts are matched. -/
def mode : Regex.Mode := ⟨false, false⟩

/-- The first match in a text. -/
def find? (m : Matcher) (text : Text) : Option Regex.Match := m.regex.search mode [] text

def isFound (m : Matcher) (text : Text) : Bool := (m.find? text).isSome

end KDispatch.Shell.Records.Matcher
