import KDispatch.Shell.Scan.Reader
import KDispatch.Shell.Utility.Records.Value
import KDispatch.Text.Utf8

/-!
A language whose blocks are indented: its programs and their tokens.
-/

/-! ## Programs

Programs of a language whose blocks are told by the indentation of their lines. Parts that can fail know where
they stand, since messages show them.
-/

namespace KDispatch.Shell.Indented

/-- A part of a line of a program, from one column to another; `last` is missing if the part goes on in further
lines. `mark` is a part inside of it that is shown in a way of its own. -/
structure Span where
  line : Nat
  first : Nat
  last : Option Nat
  mark : Option (Nat × Nat)
  deriving DecidableEq

def Span.ofLine (line : Nat) : Span := ⟨line, 0, none, none⟩

instance : Inhabited Span := ⟨.ofLine 0⟩

/-- What a comprehension makes. -/
inductive Collection where
  | list
  | set
  | table
  | steps
  deriving DecidableEq

mutual

inductive Expr where
  | nothing
  | ellipsis
  | boolean (b : Bool)
  | integer (n : Int)
  | real (x : Float)
  | text (t : Text)
  | bytes (t : Text)
  /-- A text with fields in it. -/
  | formatted (parts : List Part)
  | name (span : Span) (name : String)
  | member (span : Span) (object : Expr) (name : String)
  | subscript (span : Span) (object index : Expr)
  | slice (first last step : Option Expr)
  | call (span : Span) (function : Expr) (arguments : List Argument)
  | unary (span : Span) (operator : String) (operand : Expr)
  | binary (span : Span) (operator : String) (a b : Expr)
  | compare (span : Span) (first : Expr) (rest : List (String × Expr))
  | negation (e : Expr)
  | both (a b : Expr)
  | either (a b : Expr)
  | conditional (condition a b : Expr)
  | closure (parameters : List Parameter) (body : Expr)
  | list (items : List Expr)
  | tuple (items : List Expr)
  | set (items : List Expr)
  /-- Entries of a table; without a key all entries of another one. -/
  | table (entries : List (Option Expr × Expr))
  | collected (kind : Collection) (element : Expr) (value : Option Expr) (clauses : List Clause)
  | starred (e : Expr)
  | assigned (name : String) (value : Expr)
  /-- Gives a value to the one who walks over a function's values. -/
  | yielded (value : Option Expr) (fromAll : Bool)

/-- A part of a text with fields. -/
inductive Part where
  | text (t : Text)
  | field (value : Expr) (conversion : Option Char) (format : List Part)

inductive Argument where
  | positional (e : Expr)
  | named (name : String) (e : Expr)
  | all (e : Expr)
  | allNamed (e : Expr)

inductive Parameter where
  | plain (name : String) (usual : Option Expr)
  /-- Takes all further arguments; without a name it only ends those without names. -/
  | rest (name : Option String)
  | named (name : String)
  /-- Ends the parameters that have no names for callers. -/
  | slash

/-- A part of a comprehension: a walk over items, or a condition. -/
inductive Clause where
  | walk (target items : Expr)
  | condition (e : Expr)

end

instance : Inhabited Expr := ⟨.nothing⟩

mutual

inductive Statement where
  | expression (span : Span) (e : Expr)
  | assign (span : Span) (targets : List (Span × Expr)) (value : Expr)
  /-- Tells of what kind something is, and may give it a value. -/
  | declared (span : Span) (target : Expr) (value : Option Expr)
  | update (span : Span) (operator : String) (target value : Expr)
  | returned (span : Span) (value : Option Expr)
  | choice (line : Nat) (branches : List (Expr × List Statement)) (otherwise : List Statement)
  | loop (line : Nat) (condition : Expr) (body otherwise : List Statement)
  | walk (line : Nat) (span : Span) (target items : Expr) (body otherwise : List Statement)
  | function (line : Nat) (name : String) (parameters : List Parameter) (body : List Statement)
    (decorators : List Expr)
  | classes (line : Nat) (name : String) (bases : List Argument) (body : List Statement)
    (decorators : List Expr)
  | within (span : Span) (items : List (Expr × Option Expr)) (body : List Statement)
  | attempt (line : Nat) (body : List Statement) (handlers : List Handler)
    (otherwise finish : List Statement)
  | failure (span : Span) (value cause : Option Expr)
  | imported (span : Span) (names : List (String × Option String))
  | importedFrom (span : Span) (module : String) (names : List (String × Option String))
  | erase (span : Span) (targets : List Expr)
  | assertion (span : Span) (condition : Expr) (message : Option Expr)
  | globals (names : List String)
  | outers (names : List String)
  | stop
  | again
  | pass

/-- What is done about some failures. -/
inductive Handler where
  | mk (line : Nat) (kinds : Option Expr) (name : Option String) (body : List Statement)

end

instance : Inhabited Statement := ⟨.pass⟩

end KDispatch.Shell.Indented

/-! ## Tokens

The words of a program. Lines that are indented more than the one before open a block; inside brackets lines go
on.
-/

namespace KDispatch.Shell.Indented

inductive Symbol where
  | name (name : String)
  | integer (n : Int)
  | real (x : Float)
  /-- A text with the letters before its quotes. -/
  | text (letters : List Char) (content : Text)
  | sign (sign : String)
  | lineEnd
  | deeper
  | shallower
  | finish
  deriving Inhabited

/-- A word with the place where it stands. -/
structure Token where
  symbol : Symbol
  line : Nat
  first : Nat
  lastLine : Nat
  last : Nat
  deriving Inhabited

/-- What is wrong with a program, and where. -/
structure SyntaxError where
  kind : String
  message : Text
  line : Nat
  first : Nat
  last : Nat

namespace Token

structure Source where
  rest : Text
  line : Nat
  column : Nat
  /-- How many brackets are open. -/
  depth : Nat
  /-- The brackets that are open, with their lines and columns. -/
  brackets : List (String × Nat × Nat)
  /-- The indentations of the blocks that are open. -/
  margins : List Nat
  tokens : Array Token

abbrev Reader := EStateM SyntaxError Source

def signs : List String :=
  ["**=", "//=", ">>=", "<<=", "...", "->", ":=", "+=", "-=", "*=", "/=", "%=", "&=", "|=", "^=", "@=", "==",
    "!=", "<=", ">=", "**", "//", "<<", ">>", "+", "-", "*", "/", "%", "@", "&", "|", "^", "~", "<", ">", "(",
    ")", "[", "]", "\x7b", "\x7d", ",", ":", ".", ";", "=", "!"]

def isNameStart (c : Char) : Bool := c.isAlpha || c = '_' || 127 < c.toNat

def isNameChar (c : Char) : Bool := isNameStart c || c.isDigit

def fail {α : Type} (message : String) : Reader α := do
  let s ← get
  throw ⟨"SyntaxError", message.toList, s.line, s.column, s.column + 1⟩

/-- Goes past characters of a line. -/
def skip (count : Nat) : Reader Unit :=
  modify fun s => { s with rest := s.rest.drop count, column := s.column + count }

/-- Goes past the end of a line. -/
def skipLineEnd : Reader Unit :=
  modify fun s => { s with rest := s.rest.drop 1, line := s.line + 1, column := 0 }

/-- Adds a word that has begun at a place. -/
def emitFrom (line first : Nat) (symbol : Symbol) : Reader Unit :=
  modify fun s => { s with tokens := s.tokens.push ⟨symbol, line, first, s.line, s.column⟩ }

def emit (symbol : Symbol) : Reader Unit := do
  let s ← get
  emitFrom s.line s.column symbol

/-- Reads characters as long as something holds. -/
def takeWhile (holds : Char → Bool) : Reader Text := do
  let found := (← get).rest.takeWhile holds
  skip found.length
  return found

/-- The width of blanks at the start of a line. -/
def width (blanks : Text) : Nat :=
  blanks.foldl (fun n c => if c = '\t' then (n / 8 + 1) * 8 else if c = '\x0c' then 0 else n + 1) 0

/-- Closes blocks that are indented more than a line. -/
def closeBlocks (margin : Nat) : (fuel : Nat) → Reader Unit
  | 0 => return
  | fuel + 1 => do
    let s ← get
    match s.margins with
    | top :: rest =>
      if margin < top then
        set { s with margins := rest }
        emit .shallower
        closeBlocks margin fuel
      else if top < margin then
        let finish := s.column + (s.rest.takeWhile (· ≠ '\n')).length
        throw ⟨"IndentationError", "unindent does not match any outer indentation level".toList, s.line,
          finish, finish + 1⟩
      else return
    | [] => return

/-- Takes note of the indentation of a line. -/
def indentation (margin : Nat) : Reader Unit := do
  let s ← get
  let top := s.margins.headD 0
  if top < margin then
    set { s with margins := margin :: s.margins }
    emit .deeper
  else closeBlocks margin (s.margins.length + 1)

/-- Refuses a text that has no end. -/
def unterminated {α : Type} (line column : Nat) (quotes : Text) : Reader α := do
  let s ← get
  let what := if quotes.length = 1 then "string literal" else "triple-quoted string literal"
  throw ⟨"SyntaxError", ("unterminated " ++ what ++ " (detected at line " ++ toString s.line ++ ")").toList, line,
    column, column + 1⟩

/-- Reads a text up to its quotes; backslashes stay as they stand. -/
def textUpTo (line column : Nat) (quotes : Text) : (fuel : Nat) → Reader Text
  | 0 => unterminated line column quotes
  | fuel + 1 => do
    let s ← get
    if quotes.isPrefixOf s.rest then
      skip quotes.length
      return []
    else
      match s.rest with
      | [] => unterminated line column quotes
      | '\\' :: '\n' :: _ =>
        skip 1
        skipLineEnd
        return '\\' :: '\n' :: (← textUpTo line column quotes fuel)
      | '\\' :: c :: _ =>
        skip 2
        return '\\' :: c :: (← textUpTo line column quotes fuel)
      | '\n' :: _ =>
        if quotes.length = 1 then unterminated line column quotes
        else
          skipLineEnd
          return '\n' :: (← textUpTo line column quotes fuel)
      | c :: _ =>
        skip 1
        return c :: (← textUpTo line column quotes fuel)

def digitsOf (base : Nat) (text : Text) : Int := Scan.Reader.numberOf base (text.filter (· ≠ '_'))

/-- Reads a number. -/
def number : Reader Unit := do
  let s ← get
  let isDigit (c : Char) : Bool := c.isDigit || c = '_'
  let based (base : Nat) : Reader Unit := do
    skip 2
    let digits ← takeWhile fun c => Scan.Reader.isHexDigit c || c = '_'
    emitFrom s.line s.column (.integer (digitsOf base digits))
  match s.rest.map Char.toLower with
  | '0' :: 'x' :: _ => based 16
  | '0' :: 'o' :: _ => based 8
  | '0' :: 'b' :: _ => based 2
  | _ =>
    let whole ← takeWhile isDigit
    let places ← match (← get).rest with
      | '.' :: _ => do
        skip 1
        pure ('.' :: (← takeWhile isDigit))
      | _ => pure []
    let exponent : Text := match (← get).rest with
      | e :: rest =>
        let sign := (rest.take 1).filter fun c => c = '-' || c = '+'
        let digits := (rest.drop sign.length).takeWhile isDigit
        if (e = 'e' || e = 'E') && !digits.isEmpty then e :: sign ++ digits else []
      | [] => []
    skip exponent.length
    if places.isEmpty && exponent.isEmpty then
      emitFrom s.line s.column (.integer (digitsOf 10 whole))
    else
      let spelled := (whole ++ places ++ exponent).filter (· ≠ '_')
      emitFrom s.line s.column (.real (Records.numberAt spelled))

/-- The letters and the quotes at the start of a text. -/
def textStart? (rest : Text) : Option (List Char × Text) :=
  let letters := (rest.takeWhile Char.isAlpha).map Char.toLower
  let behind := rest.drop letters.length
  if letters.length ≤ 2 && letters.all fun c => "rbfu".toList.contains c then
    match behind with
    | '"' :: '"' :: '"' :: _ => some (letters, ['"', '"', '"'])
    | '\'' :: '\'' :: '\'' :: _ => some (letters, ['\'', '\'', '\''])
    | '"' :: _ => some (letters, ['"'])
    | '\'' :: _ => some (letters, ['\''])
    | _ => none
  else none

/-- Reads the words of the program up to its end. -/
def words : (fuel : Nat) → (isStart : Bool) → Reader Unit
  | 0, _ => return
  | fuel + 1, isStart => do
    let s ← get
    if isStart && s.depth = 0 then
      let blanks ← takeWhile fun c => c = ' ' || c = '\t' || c = '\x0c'
      match (← get).rest with
      | '\n' :: _ =>
        skipLineEnd
        words fuel true
      | '\r' :: '\n' :: _ =>
        skip 1
        skipLineEnd
        words fuel true
      | '#' :: _ =>
        let _ ← takeWhile (· ≠ '\n')
        words fuel true
      | [] => return
      | _ =>
        indentation (width blanks)
        words fuel false
    else
      match s.rest with
      | [] =>
        if s.depth = 0 then emit .lineEnd
      | '\n' :: _ =>
        if s.depth = 0 then emit .lineEnd
        skipLineEnd
        words fuel true
      | '\r' :: '\n' :: _ =>
        skip 1
        words fuel false
      | '\\' :: '\n' :: _ =>
        skip 1
        skipLineEnd
        words fuel false
      | '#' :: _ =>
        let _ ← takeWhile (· ≠ '\n')
        words fuel false
      | c :: rest =>
        if c = ' ' || c = '\t' || c = '\x0c' then
          skip 1
          words fuel false
        else
          match textStart? s.rest with
          | some (letters, quotes) =>
            skip (letters.length + quotes.length)
            let content ← textUpTo s.line s.column quotes (s.rest.length + 1)
            emitFrom s.line s.column (.text letters content)
            words fuel false
          | none =>
            if c.isDigit || (c = '.' && rest.head?.any Char.isDigit) then
              number
              words fuel false
            else if isNameStart c then
              let name ← takeWhile isNameChar
              emitFrom s.line s.column (.name (String.ofList name))
              words fuel false
            else
              match signs.find? fun sign => sign.toList.isPrefixOf s.rest with
              | some sign =>
                skip sign.length
                emitFrom s.line s.column (.sign sign)
                if ["(", "[", "\x7b"].contains sign then
                  modify fun t =>
                    { t with depth := t.depth + 1, brackets := (sign, s.line, s.column) :: t.brackets }
                else if [")", "]", "\x7d"].contains sign then
                  modify fun t => { t with depth := t.depth - 1, brackets := t.brackets.drop 1 }
                words fuel false
              | none => fail "invalid syntax"

/-- The words of a text, and what is wrong behind them. -/
def ofText (line : Nat) (text : Text) : Array Token × Option SyntaxError :=
  let start : Source := ⟨text, line, 0, 0, [], [0], #[]⟩
  let work : Reader Unit := do
    words (2 * text.length + 2) true
    closeBlocks 0 1000
    emit .finish
  match work.run start with
  | .ok () source =>
    (source.tokens, match source.brackets with
      | (sign, line, column) :: _ =>
        some ⟨"SyntaxError", ("'" ++ sign ++ "' was never closed").toList, line, column, column + 1⟩
      | [] => none)
  | .error e source =>
    let place : Token := ⟨.finish, source.line, source.column, source.line, source.column⟩
    (source.tokens.push { place with symbol := .lineEnd } |>.push place, some e)

/-- The words of a text that is an expression and stands at a place. -/
def ofExpression (line column : Nat) (text : Text) : Except SyntaxError (Array Token) := do
  let start : Source := ⟨text, line, column, 1, [], [0], #[]⟩
  let work : Reader Unit := do
    words (2 * text.length + 2) false
    emit .finish
  match work.run start with
  | .ok () source => return source.tokens
  | .error e _ => throw e

end Token

end KDispatch.Shell.Indented
