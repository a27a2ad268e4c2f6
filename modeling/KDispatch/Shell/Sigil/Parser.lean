import KDispatch.Shell.Sigil.Syntax

/-!
Reading programs. What a sign means hangs on whether an operand or an operator is due, so expressions are
read from the text itself.
-/

namespace KDispatch.Shell.Sigil

namespace Reader

/-- The operators between two operands, from the strongest on; each with its name. -/
def binaryLevels : List (List String) :=
  [["=~", "!~"], ["*", "/", "%", "x"], ["+", "-", "."], ["<<", ">>"],
    ["<=", ">=", "<", ">", "lt", "gt", "le", "ge"], ["==", "!=", "<=>", "eq", "ne", "cmp"], ["&"],
    ["|", "^"], ["&&"], ["||", "//"], ["...", ".."]]

/-- The level of the operators that compare two operands. -/
def comparisonLevel : Nat := 4

/-- The signs that assign with an operator. -/
def updateSigns : List String :=
  ["**=", "||=", "&&=", "//=", "<<=", ">>=", "+=", "-=", "*=", "/=", ".=", "%=", "x=", "|=", "&=", "^="]

/-- Signs that are longer than the operator that they begin with. -/
def longerSigns : List (String × List String) :=
  [("*", ["**", "*="]), ("/", ["//", "/="]), ("%", ["%="]), ("+", ["++", "+="]), ("-", ["--", "-=", "->"]),
    (".", ["..", ".="]), ("<<", ["<<="]), (">>", [">>="]), ("<=", ["<=>"]), ("<", ["<<", "<=>"]), (">", [">>"]),
    ("&", ["&&", "&="]), ("|", ["||", "|="]), ("^", ["^="]), ("&&", ["&&="]), ("||", ["||="]),
    ("//", ["//="]), ("x", ["x=", "x=>"])]

/-- Reads one of some operators, if it comes next. -/
def operator? : List String → Reader (Option String)
  | [] => return none
  | sign :: signs => do
    let rest := (← get).rest
    let isWord := sign.toList.all Char.isAlpha
    let behind := rest.drop sign.length
    let here := sign.toList.isPrefixOf rest
    let isLonger := ((longerSigns.lookup sign).getD []).any fun longer => longer.toList.isPrefixOf rest
    let wordGoesOn := isWord &&
      ((behind.head?.any isNameChar && !(sign = "x" && behind.head?.any Char.isDigit)) ||
        "=>".toList.isPrefixOf (behind.dropWhile isBlank))
    let isAssigning := isWord && sign = "x" && "=".toList.isPrefixOf behind && !"==".toList.isPrefixOf behind
    if here && !isLonger && !wordGoesOn && !isAssigning then
      skip sign.length
      return some sign
    else operator? signs

/-- Functions that take one operand, and bind it more strongly than comparisons do. -/
def unaryFunctions : List String :=
  ["defined", "ref", "scalar", "lc", "uc", "lcfirst", "ucfirst", "length", "chr", "ord", "int", "abs",
    "sqrt", "sin", "cos", "exp", "log", "hex", "oct", "rand", "srand", "chomp", "chop", "chdir", "rmdir",
    "readlink", "close", "quotemeta", "exists", "delete", "each", "keys", "values", "shift", "pop",
    "caller", "undef", "exit", "umask", "sleep", "localtime", "gmtime", "require", "fc", "eof", "fileno",
    "stat", "lstat", "closedir", "readdir", "lock", "pos", "alarm", "chroot"]

/-- Functions that take a list of operands. -/
def listFunctions : List String :=
  ["die", "warn", "push", "unshift", "splice", "join", "split", "sprintf", "reverse", "unlink", "open",
    "chmod", "kill", "system", "exec", "substr", "index", "rindex", "bless", "wait", "waitpid", "mkdir",
    "rename", "opendir", "binmode", "select", "seek", "tell", "read", "sysread", "syswrite", "utime",
    "link", "symlink", "atan2", "pack", "unpack", "truncate", "vec", "pipe",
    "chown", "fcntl", "flock"]

/-- Functions that take no operands. -/
def plainFunctions : List String :=
  ["time", "times", "wantarray", "getppid", "fork", "wait", "__SUB__", "break"]

/-- Functions whose first argument is a block. -/
def blockFunctions : List String := ["first", "any", "all", "none", "notall", "reduce"]

/-- The names that come with a module when none are asked for. -/
def usualExports (module : String) : List String :=
  match module with
  | "POSIX" => ["floor", "ceil", "fmod", "pow", "strftime", "isatty"]
  | "File::Basename" => ["basename", "dirname", "fileparse"]
  | "Data::Dumper" => ["Dumper"]
  | "Cwd" => ["cwd", "getcwd"]
  | _ => []

/-- Words that end an expression. -/
def endingWords : List String :=
  ["if", "unless", "while", "until", "for", "foreach", "and", "or", "xor", "not", "x", "eq", "ne", "lt",
    "gt", "le", "ge", "cmp", "isa"]

/-- Whether an operand may begin here. -/
def operandFollows : Reader Bool := do
  blanks
  match (← get).rest with
  | [] => return false
  | c :: rest =>
    if isNameStart c then
      match ← word? with
      | some word => return word = "not" || !endingWords.contains word
      | none => return false
    else if c.isDigit then return true
    else
      match c with
      | '$' | '@' | '\\' | '"' | '\'' | '(' | '[' | '\x7b' | '!' | '~' | '+' => return true
      | '-' => return rest.head? ≠ some '=' && rest.head? ≠ some '>'
      | '%' | '&' => return rest.head?.any fun d => isNameStart d || d = '$' || d = '\x7b' || d = '+'
      | '<' => return rest.head?.any fun d => isNameStart d || d = '$' || d = '>' || d = '<' || d = '"'
      | '/' => return true
      | '.' => return rest.head?.any Char.isDigit
      | c => return c.toNat = 0x60

/-- Whether a name stands for a special variable with a sign for a name. -/
def isSpecialSign (c : Char) : Bool := "&!@/\\,;.0_+\"'|<>()[]:?^~=%-".toList.contains c || c.toNat = 0x60

/-- The name of the variable behind a sign, which has been read; `none` if there is no name. -/
def variableName? : Reader (Option String) := do
  match (← get).rest with
  | c :: rest =>
    if isNameStart c then
      let name ← name
      return some name
    else if c = ':' && ":".toList.isPrefixOf rest && (rest.drop 1).head?.any isNameStart then
      skip 2
      return some ("main::" ++ (← name))
    else if c.isDigit then return some (String.ofList (← takeWhile Char.isDigit))
    else if c = '^' && rest.head?.any Char.isUpper then
      skip 2
      return some (String.ofList ('^' :: rest.take 1))
    else if c = '\x7b' && rest.head? = some '^' then
      skip 1
      let name ← takeWhile (· ≠ '\x7d')
      skip 1
      return some (String.ofList name)
    else if isSpecialSign c then
      skip 1
      return some (String.singleton c)
    else return none
  | [] => return none

/-- Whether brackets behind a variable inside a pattern hold an index rather than characters. -/
def looksLikeIndex (rest : Text) : Bool :=
  let inner := (rest.drop 1).takeWhile (· ≠ ']')
  let digits := if inner.head? = some '-' then inner.drop 1 else inner
  let isNumber := !digits.isEmpty && digits.all Char.isDigit
  isNumber || (inner.head? = some '$' && 1 < inner.length && (inner.drop 1).all isNameChar)

/-- Whether braces behind a variable inside a pattern tell how often something is repeated. -/
def looksLikeBounds (rest : Text) : Bool :=
  let inner := (rest.drop 1).takeWhile (· ≠ '\x7d')
  !inner.isEmpty && inner.all fun c => c.isDigit || c = ','

/-- What texts with expressions are read for. -/
inductive TextKind where
  | plain
  | pattern
  deriving DecidableEq

/-- The expression for a list of parts of a text. -/
def joinedOf (parts : List Expr) : Expr :=
  match parts with
  | [] => .text []
  | [.text t] => .text t
  | parts => .joined parts

/-- Puts a text before the parts of a text. -/
def consText (text : Text) (parts : List Expr) : List Expr :=
  match text, parts with
  | [], parts => parts
  | text, .text more :: parts => .text (text ++ more) :: parts
  | text, parts => .text text :: parts

/-- The character of an escape in a text, whose backslash has been read. -/
def escapedText : Reader Text := do
  match ← peek? with
  | none => return ['\\']
  | some c =>
    skipChar
    match c with
    | 'n' => return ['\n']
    | 't' => return ['\t']
    | 'r' => return ['\r']
    | '0' =>
      let digits := ((← get).rest.take 2).takeWhile fun c => '0' ≤ c && c ≤ '7'
      skip digits.length
      return [Char.ofNat (Scan.Reader.numberOf 8 digits)]
    | 'a' => return ['\x07']
    | 'e' => return ['\x1b']
    | 'f' => return ['\x0c']
    | 'x' =>
      if ← skipIf "\x7b" then
        let digits ← takeWhile Scan.Reader.isHexDigit
        let _ ← skipIf "\x7d"
        let code := Scan.Reader.numberOf 16 digits
        return if code < 256 then [Char.ofNat code]
          else (ByteText.ofString (String.singleton (Char.ofNat code))).toList
      else
        let digits := ((← get).rest.take 2).takeWhile Scan.Reader.isHexDigit
        skip digits.length
        return [Char.ofNat (Scan.Reader.numberOf 16 digits)]
    | c => return [c]

/-- The flags behind a pattern. -/
def flags : Reader String := return String.ofList (← takeWhile Char.isAlpha)

/-- The characters that ranges in a text stand for. -/
def ranged : Text → Text
  | a :: '-' :: b :: rest =>
    (List.range (b.toNat + 1 - a.toNat)).map (fun n => Char.ofNat (a.toNat + n)) ++ ranged rest
  | c :: rest => c :: ranged rest
  | [] => []

/-- A text in which escapes have become their characters. -/
def unescaped : (fuel : Nat) → Reader Text
  | 0 => return []
  | fuel + 1 => do
    match ← peek? with
    | none => return []
    | some '\\' =>
      skipChar
      if ← startsWith "-" then
        skipChar
        return '\\' :: '-' :: (← unescaped fuel)
      else return (← escapedText) ++ (← unescaped fuel)
    | some c =>
      skipChar
      return c :: (← unescaped fuel)

/-- The element with an index or the entry with a key, of what a variable with a sign for one value
belongs to. -/
def listNamed (name : String) : Expr := .named ⟨'@', name⟩

def tableNamed (name : String) : Expr := .named ⟨'%', name⟩

/-- The variable that functions use that are given none. -/
def topic : Expr := .named ⟨'$', "_"⟩

mutual

/-- Reads an expression, in which the words for "and", "or" and "not" bind least. -/
def expression : (fuel : Nat) → Reader Expr
  | 0 => unexpected
  | fuel + 1 => do
    let first ← conjunction fuel
    disjunctionRest fuel first

def disjunctionRest : (fuel : Nat) → Expr → Reader Expr
  | 0, e => return e
  | fuel + 1, e => do
    if ← skipWord "or" then disjunctionRest fuel (.either e (← conjunction fuel))
    else if ← skipWord "xor" then disjunctionRest fuel (.binary "xor" e (← conjunction fuel))
    else return e

def conjunction : (fuel : Nat) → Reader Expr
  | 0 => unexpected
  | fuel + 1 => do
    let first ← negation fuel
    conjunctionRest fuel first

def conjunctionRest : (fuel : Nat) → Expr → Reader Expr
  | 0, e => return e
  | fuel + 1, e => do
    if ← skipWord "and" then conjunctionRest fuel (.both e (← negation fuel)) else return e

def negation : (fuel : Nat) → Reader Expr
  | 0 => unexpected
  | fuel + 1 => do
    if ← skipWord "not" then return .unary "!" (← negation fuel)
    else
      let first ← assignment fuel
      blanks
      if (← startsWith ",") || (← startsWith "=>") then
        return .list (first :: (← commaRest fuel))
      else return first

/-- Reads the rest of a list, from a comma on. -/
def commaRest : (fuel : Nat) → Reader (List Expr)
  | 0 => return []
  | fuel + 1 => do
    blanks
    if (← skipIf ",") || (← skipIf "=>") then
      if ← operandFollows then
        let e ← assignment fuel
        return e :: (← commaRest fuel)
      else commaRest fuel
    else return []

/-- Reads operands with commas between them. -/
def operands : (fuel : Nat) → Reader (List Expr)
  | 0 => return []
  | fuel + 1 => do
    if ← operandFollows then
      let e ← assignment fuel
      return e :: (← commaRest fuel)
    else return []

/-- Reads operands between parentheses, of which the first has been read. -/
def operandsUpTo (close : String) : (fuel : Nat) → Reader (List Expr)
  | 0 => unexpected
  | fuel + 1 => do
    blanks
    if ← skipIf close then return []
    else
      let e ← expression fuel
      expect close
      return match e with
        | .list items => items
        | e => [e]

/-- Reads an assignment, or an operand of one. -/
def assignment : (fuel : Nat) → Reader Expr
  | 0 => unexpected
  | fuel + 1 => do
    let target ← conditional fuel
    blanks
    let rest := (← get).rest
    match rest with
    | '=' :: c :: _ =>
      if c = '=' || c = '~' || c = '>' then return target
      else
        skip 1
        return .assign target (← assignment fuel)
    | _ =>
      match updateSigns.find? fun sign => sign.toList.isPrefixOf rest with
      | some sign =>
        skip sign.length
        let value ← assignment fuel
        return .update (String.ofList (sign.toList.dropLast)) target value
      | none => return target

def conditional : (fuel : Nat) → Reader Expr
  | 0 => unexpected
  | fuel + 1 => do
    let condition ← binary fuel binaryLevels.reverse
    if ← sign? "?" then
      let a ← assignment fuel
      expect ":"
      let b ← assignment fuel
      return .conditional condition a b
    else return condition

/-- Reads operands with the operators of some levels between them, the weakest level first. -/
def binary : (fuel : Nat) → List (List String) → Reader Expr
  | 0, _ => unexpected
  | fuel + 1, [] => unary fuel
  | fuel + 1, signs :: levels => do
    let first ← binary fuel levels
    binaryRest fuel signs levels first

def binaryRest : (fuel : Nat) → List String → List (List String) → Expr → Reader Expr
  | 0, _, _, e => return e
  | fuel + 1, signs, levels, a => do
    blanks
    match ← operator? signs with
    | none => return a
    | some sign =>
      let b ← binary fuel levels
      let e := match sign with
        | "&&" => .both a b
        | "||" => .either a b
        | "//" => .orDefined a b
        | ".." | "..." => .range a b
        | "=~" => bound a b
        | "!~" => .unary "!" (bound a b)
        | sign => .binary sign a b
      binaryRest fuel signs levels e

/-- Makes something be looked for in a target. -/
def bound (target e : Expr) : Expr :=
  match e with
  | .matching none p flags => .matching (some target) p flags
  | .substitution none p r flags => .substitution (some target) p r flags
  | .transliteration none s r flags => .transliteration (some target) s r flags
  | .patternObject p flags => .matching (some target) p flags
  | e => .matching (some target) e ""

def unary : (fuel : Nat) → Reader Expr
  | 0 => unexpected
  | fuel + 1 => do
    blanks
    match (← get).rest with
    | '!' :: c :: _ =>
      if c = '~' then unexpected
      else
        skip 1
        return .unary "!" (← unary fuel)
    | '~' :: _ =>
      skip 1
      return .unary "~" (← unary fuel)
    | '\\' :: _ =>
      skip 1
      return .reference (← unary fuel)
    | '+' :: '+' :: _ =>
      skip 2
      return .step true 1 (← unary fuel)
    | '-' :: '-' :: _ =>
      skip 2
      return .step true (-1) (← unary fuel)
    | '+' :: _ =>
      skip 1
      unary fuel
    | '-' :: c :: rest =>
      let isTest := "edfrwxszlpSbcugktTBAMCoRWXO".toList.contains c &&
        !rest.head?.any isNameChar && !"=>".toList.isPrefixOf (rest.dropWhile isBlank)
      if isTest then
        skip 2
        if ← operandFollows then return .fileTest c (← unary fuel) else return .fileTest c topic
      else if isNameStart c then
        skip 1
        match ← word? with
        | some word =>
          if unaryFunctions.contains word || (← get).subs.contains word then
            return .unary "-" (← power fuel)
          else
            skip word.length
            return .text ('-' :: word.toList)
        | none => unexpected
      else
        skip 1
        return .unary "-" (← power fuel)
    | _ => power fuel

/-- Reads an operand and what it is raised to. -/
def power : (fuel : Nat) → Reader Expr
  | 0 => unexpected
  | fuel + 1 => do
    let base ← stepped fuel
    blanks
    if (← startsWith "**") && !(← startsWith "**=") then
      skip 2
      return .binary "**" base (← unary fuel)
    else return base

def stepped : (fuel : Nat) → Reader Expr
  | 0 => unexpected
  | fuel + 1 => do
    let e ← operand fuel
    if ← skipIf "++" then return .step false 1 e
    else if ← skipIf "--" then return .step false (-1) e
    else return e

/-- Reads a key between braces, of which the first has been read: a word stands for itself. -/
def key : (fuel : Nat) → Reader Expr
  | 0 => unexpected
  | fuel + 1 => do
    blanks
    let rest := (← get).rest
    let minus := rest.takeWhile (· = '-')
    let word := (rest.drop minus.length).takeWhile isNameChar
    let behind := (rest.drop (minus.length + word.length)).dropWhile isBlank
    if !word.isEmpty && behind.head? = some '\x7d' && minus.length ≤ 1 && !(word.headD ' ').isDigit then
      skip (minus.length + word.length)
      expect "\x7d"
      return .text (minus ++ word)
    else
      let e ← expression fuel
      expect "\x7d"
      return e

/-- Reads the subscripts, calls and methods behind an operand; `afterSubscript` tells that an arrow may
be left out. -/
def subscripts : (fuel : Nat) → (afterSubscript inText : Bool) → Expr → Reader Expr
  | 0, _, _, e => return e
  | fuel + 1, afterSubscript, inText, e => do
    let before ← get
    if !inText then blanks
    let rest := (← get).rest
    match rest with
    | '-' :: '>' :: '[' :: _ =>
      skip 3
      let index ← expression fuel
      expect "]"
      subscripts fuel true inText (.element (.target '@' e) index)
    | '-' :: '>' :: '\x7b' :: _ =>
      skip 3
      subscripts fuel true inText (.entry (.target '%' e) (← key fuel))
    | '-' :: '>' :: c :: more =>
      if inText then
        set before
        return e
      else
        skip 2
        blanks
        match (← get).rest with
        | '[' :: _ =>
          skip 1
          let index ← expression fuel
          expect "]"
          subscripts fuel true inText (.element (.target '@' e) index)
        | '\x7b' :: _ =>
          skip 1
          subscripts fuel true inText (.entry (.target '%' e) (← key fuel))
        | '(' :: _ =>
          skip 1
          let arguments ← operandsUpTo ")" fuel
          subscripts fuel true inText (.callCode e arguments false)
        | '@' :: '*' :: _ =>
          skip 2
          return .target '@' e
        | '%' :: '*' :: _ =>
          skip 2
          return .target '%' e
        | '$' :: '*' :: _ =>
          skip 2
          subscripts fuel false inText (.target '$' e)
        | '$' :: '#' :: '*' :: _ =>
          skip 3
          return .lastIndex (.target '@' e)
        | '@' :: '[' :: _ =>
          skip 2
          let indices ← expression fuel
          expect "]"
          return .elements (.target '@' e) indices
        | '@' :: '\x7b' :: _ =>
          skip 2
          let keys ← expression fuel
          expect "\x7d"
          return .entries (.target '%' e) keys
        | '$' :: _ =>
          skip 1
          let chosen ← name
          let arguments ← methodArguments fuel
          subscripts fuel true inText (.method e "" (some (.named ⟨'$', chosen⟩)) arguments)
        | _ =>
          let _ := (c, more)
          let chosen ← name
          let arguments ← methodArguments fuel
          subscripts fuel true inText (.method e chosen none arguments)
    | '[' :: _ =>
      if afterSubscript then
        skip 1
        let index ← expression fuel
        expect "]"
        subscripts fuel true inText (.element (.target '@' e) index)
      else
        set before
        return e
    | '\x7b' :: _ =>
      if afterSubscript then
        skip 1
        subscripts fuel true inText (.entry (.target '%' e) (← key fuel))
      else
        set before
        return e
    | '(' :: _ =>
      if afterSubscript && !inText then
        skip 1
        let arguments ← operandsUpTo ")" fuel
        subscripts fuel true inText (.callCode e arguments false)
      else
        set before
        return e
    | _ =>
      set before
      return e

def methodArguments : (fuel : Nat) → Reader (List Expr)
  | 0 => return []
  | fuel + 1 => do
    if ← skipIf "(" then operandsUpTo ")" fuel else return []

/-- Reads what a sign for a value stands before: a name, a reference or a block that gives one; then its
subscripts. -/
def value : (fuel : Nat) → TextKind → (inText : Bool) → Reader Expr
  | 0, _, _ => unexpected
  | fuel + 1, kind, inText => do
    let allowed : Reader (Bool × Bool) := do
      let rest := (← get).rest
      return match rest with
        | '[' :: c :: _ =>
          (if kind = .pattern then looksLikeIndex rest else !inText || c ≠ ']', false)
        | '\x7b' :: _ => (false, kind = .plain || !looksLikeBounds rest)
        | _ => (false, false)
    let withSubscript (list table one : Expr) : Reader Expr := do
      let before ← get
      if !inText then blanks
      let (index, key_) ← allowed
      if index then
        skip 1
        let index ← expression fuel
        expect "]"
        subscripts fuel true inText (.element list index)
      else if key_ then
        skip 1
        subscripts fuel true inText (.entry table (← key fuel))
      else
        set before
        subscripts fuel false inText one
    match (← get).rest with
    | '#' :: '$' :: _ =>
      skip 1
      let e ← reference fuel
      return .lastIndex (.target '@' e)
    | '#' :: '\x7b' :: _ =>
      skip 1
      let e ← reference fuel
      return .lastIndex (.target '@' e)
    | '#' :: c :: _ =>
      if isNameStart c || c = '_' then
        skip 1
        return .lastIndex (listNamed (← name))
      else unexpected
    | '$' :: c :: _ =>
      if isNameStart c || c = '$' || c = '\x7b' || c = ':' then
        let e ← reference fuel
        withSubscript (.target '@' e) (.target '%' e) (.target '$' e)
      else
        skip 1
        return .named ⟨'$', "$"⟩
    | ['$'] =>
      skip 1
      return .named ⟨'$', "$"⟩
    | '\x7b' :: c :: _ =>
      if c = '^' then
        match ← variableName? with
        | some name => return .named ⟨'$', name⟩
        | none => unexpected
      else
        match ← bracedName? with
        | some name => withSubscript (listNamed name) (tableNamed name) (.named ⟨'$', name⟩)
        | none =>
          let e ← reference fuel
          withSubscript (.target '@' e) (.target '%' e) (.target '$' e)
    | _ =>
      match ← variableName? with
      | some name => withSubscript (listNamed name) (tableNamed name) (.named ⟨'$', name⟩)
      | none => unexpected

/-- Reads a name between braces, if there is nothing else between them. -/
def bracedName? : Reader (Option String) := do
  let inner := ((← get).rest.drop 1).takeWhile (· ≠ '\x7d')
  let bare := (inner.dropWhile isBlank).reverse.dropWhile isBlank |>.reverse
  let isName := (bare.head?.any isNameStart && bare.all fun c => isNameChar c || c = ':') ||
    (!bare.isEmpty && bare.all Char.isDigit) || bare = ['@'] || bare = ['!'] || bare = ['&']
  if isName then
    skip (inner.length + 2)
    return some (String.ofList bare)
  else return none

/-- Reads what a sign stands before that leads through a reference: a variable for one value, or a
block. -/
def reference : (fuel : Nat) → Reader Expr
  | 0 => unexpected
  | fuel + 1 => do
    match (← get).rest with
    | '$' :: '$' :: _ =>
      skip 1
      let e ← reference fuel
      return .target '$' e
    | '$' :: '\x7b' :: _ =>
      skip 1
      match ← bracedName? with
      | some name => return .named ⟨'$', name⟩
      | none => return .target '$' (← reference fuel)
    | '$' :: _ =>
      skip 1
      match ← variableName? with
      | some name => return .named ⟨'$', name⟩
      | none => unexpected
    | '\x7b' :: _ =>
      match ← bracedName? with
      | some name => return .word name
      | none =>
        skip 1
        let body ← statementsUpTo fuel
        return match body with
          | [.expression _ e] => e
          | body => .block body
    | _ => unexpected

/-- Reads what a sign for a list stands before, with the subscripts for some of its elements. -/
def listValue : (fuel : Nat) → (inText : Bool) → Reader Expr
  | 0, _ => unexpected
  | fuel + 1, inText => do
    let (list, table) ← match (← get).rest with
      | '$' :: _ => do
        let e ← reference fuel
        pure (Expr.target '@' e, Expr.target '%' e)
      | '\x7b' :: _ => do
        match ← bracedName? with
        | some name => pure (listNamed name, tableNamed name)
        | none =>
          let e ← reference fuel
          pure (Expr.target '@' e, Expr.target '%' e)
      | _ => do
        match ← variableName? with
        | some name => pure (listNamed name, tableNamed name)
        | none => unexpected
    let before ← get
    if !inText then blanks
    if ← skipIf "[" then
      let indices ← operandsUpTo "]" fuel
      return .elements list (.list indices)
    else if ← skipIf "\x7b" then
      let keys ← expression fuel
      expect "\x7d"
      return .entries table keys
    else
      set before
      return list

/-- Reads what a sign for a table stands before. -/
def tableValue : (fuel : Nat) → Reader Expr
  | 0 => unexpected
  | fuel + 1 => do
    match (← get).rest with
    | '$' :: _ => return .target '%' (← reference fuel)
    | '\x7b' :: _ =>
      match ← bracedName? with
      | some name => return tableNamed name
      | none => return .target '%' (← reference fuel)
    | '+' :: _ =>
      skip 1
      return tableNamed "+"
    | _ =>
      match ← variableName? with
      | some name =>
        if ← startsWith "\x7b" then
          skip 1
          let keys ← expression fuel
          expect "\x7d"
          return .keyedEntries (tableNamed name) keys
        else return tableNamed name
      | none => unexpected

/-- Reads the parts of a text, up to its end or to the end of a change of its letters. -/
def parts : (fuel : Nat) → TextKind → (inner : Bool) → Reader (List Expr)
  | 0, _, _ => return []
  | fuel + 1, kind, inner => do
    match (← get).rest with
    | [] => return []
    | '\\' :: letter :: rest =>
      let changed : Option String := match letter with
        | 'U' => some "uc"
        | 'L' => some "lc"
        | 'Q' => some "quotemeta"
        | 'u' => some "ucfirst"
        | 'l' => some "lcfirst"
        | _ => none
      match changed with
      | some f =>
        skip 2
        if f = "ucfirst" || f = "lcfirst" then
          let more ← parts fuel kind inner
          return [.function f [joinedOf more]]
        else
          let more ← parts fuel kind true
          return .function f [joinedOf more] :: (← parts fuel kind inner)
      | none =>
        let _ := rest
        if letter = 'E' then
          skip 2
          if inner then return [] else parts fuel kind inner
        else if kind = .pattern then
          skip 2
          return consText ['\\', letter] (← parts fuel kind inner)
        else
          skip 1
          let text ← escapedText
          return consText text (← parts fuel kind inner)
    | '$' :: rest =>
      let isVariable : Bool := match rest with
        | c :: _ =>
          isNameStart c || c.isDigit || c = '\x7b' || c = '$' || c = '&' ||
            (c = ':' && ":".toList.isPrefixOf (rest.drop 1)) ||
            (c = '#' && (rest.drop 1).head?.any fun d => d = '$' || d = '\x7b' || isNameStart d) ||
            (kind = .plain && ("?'!@/\\,;.0+\"<>]|:~=%-()".toList.contains c || c.toNat = 0x60 ||
              (c = '^' && (rest.drop 1).head?.any Char.isUpper)))
        | [] => false
      skip 1
      if isVariable then
        let e ← value fuel kind true
        return e :: (← parts fuel kind inner)
      else return consText ['$'] (← parts fuel kind inner)
    | '@' :: rest =>
      skip 1
      if rest.head?.any fun c => isNameStart c || c = '$' || c = '\x7b' then
        let e ← listValue fuel true
        return .function "join" [.named ⟨'$', "\""⟩, e] :: (← parts fuel kind inner)
      else return consText ['@'] (← parts fuel kind inner)
    | c :: _ =>
      skip 1
      return consText [c] (← parts fuel kind inner)

/-- Reads the parts of a text that has been read as it stands. -/
def interpolated : (fuel : Nat) → TextKind → Text → Reader Expr
  | 0, _, text => return .text text
  | fuel + 1, kind, text => do
    return joinedOf (← within text (parts fuel kind false))

/-- Reads a pattern between delimiters; single quotes keep all characters as they stand. -/
def pattern : (fuel : Nat) → Reader (Char × Expr)
  | 0 => unexpected
  | fuel + 1 => do
    let (opening, text) ← delimited
    let text := withoutDelimiters opening text
    if opening = '\'' then return (opening, .text text)
    else return (opening, ← interpolated fuel .pattern text)

/-- Reads the second part of a substitution. -/
def secondPart (opening : Char) : Reader (Char × Text) := do
  if closing opening ≠ opening then
    blanks
    delimited
  else
    let text ← textUpTo opening opening (← fuel) 0
    return (opening, text)

/-- Reads something between quotes whose word has been read; `none` if that is none. -/
def quoteLike? : (fuel : Nat) → (word : String) → Reader (Option Expr)
  | 0, _ => return none
  | fuel + 1, word => do
    match word with
    | "q" =>
      let (opening, text) ← delimited
      return some (.text (plainText opening text))
    | "qq" =>
      let (opening, text) ← delimited
      return some (← interpolated fuel .plain (withoutDelimiters opening text))
    | "qw" =>
      let (_, text) ← delimited
      let words := (text.splitBy fun a b => isBlank a == isBlank b).filter fun word =>
        !word.all isBlank
      return some (.list (words.map .text))
    | "qx" =>
      let (opening, text) ← delimited
      return some (.output (← interpolated fuel .plain (withoutDelimiters opening text)))
    | "m" =>
      let (_, p) ← pattern fuel
      return some (.matching none p (← flags))
    | "qr" =>
      let (_, p) ← pattern fuel
      return some (.patternObject p (← flags))
    | "s" =>
      let (opening, p) ← pattern fuel
      let (second, text) ← secondPart opening
      let flags ← flags
      if flags.toList.contains 'e' then
        let body ← within text (statementsToEnd fuel)
        return some (.substitution none p (.block body) flags)
      else if second = '\'' then return some (.substitution none p (.text text) flags)
      else
        return some (.substitution none p
          (← interpolated fuel .plain (withoutDelimiters second text)) flags)
    | "tr" | "y" =>
      let (opening, text) ← delimited
      let (second, replacement) ← secondPart opening
      let source ← within (withoutDelimiters opening text) (unescaped (text.length + 1))
      let replacement ← within (withoutDelimiters second replacement) (unescaped (replacement.length + 1))
      return some (.transliteration none (ranged source) (ranged replacement) (← flags))
    | _ => return none

/-- Reads the announcement of a here-document, whose two signs have been read. -/
def hereDocument : (fuel : Nat) → Reader Expr
  | 0 => unexpected
  | fuel + 1 => do
    let indented ← skipIf "~"
    let (plain, delimiter) ← match ← peek? with
      | some '"' => do
        let (_, text) ← delimited
        pure (false, text)
      | some '\'' => do
        let (_, text) ← delimited
        pure (true, text)
      | _ => do
        let name ← name
        pure (false, name.toList)
    let text ← hereLines delimiter indented
    if plain then return .text text else interpolated fuel .plain text

/-- Reads the handle or pattern between angle brackets. -/
def angled : (fuel : Nat) → Reader Expr
  | 0 => unexpected
  | fuel + 1 => do
    let rest := (← get).rest
    let inner := (rest.drop 1).takeWhile (· ≠ '>')
    match rest with
    | '<' :: '<' :: c :: _ =>
      if c = '"' || c = '\'' || c = '~' || isNameStart c then
        skip 2
        hereDocument fuel
      else if c = '>' then
        skip 4
        return .readLine (.word "ARGV")
      else unexpected
    | _ =>
      skip (inner.length + 2)
      match inner with
      | [] => return .readLine (.word "ARGV")
      | '$' :: name =>
        if name.all isNameChar then return .readLine (.named ⟨'$', String.ofList name⟩)
        else return .files (← interpolated fuel .plain inner)
      | inner =>
        if inner.all isNameChar then return .readLine (.word (String.ofList inner))
        else return .files (← interpolated fuel .plain inner)

/-- Reads the names that a declaration binds. -/
def declaration : (fuel : Nat) → Declaration → Reader Expr
  | 0, _ => unexpected
  | fuel + 1, kind => do
    blanks
    let one : Reader Name := do
      blanks
      match ← peek? with
      | some sigil =>
        skipChar
        let name ← name
        return ⟨sigil, name⟩
      | none => unexpected
    if ← skipIf "(" then
      let rec names : (fuel : Nat) → Reader (List Name)
        | 0 => return []
        | fuel + 1 => do
          blanks
          if ← skipIf ")" then return []
          else if ← skipIf "," then names fuel
          else if ← skipWord "undef" then return ⟨'$', "undef"⟩ :: (← names fuel)
          else
            let name ← one
            return name :: (← names fuel)
      return .declared kind true (← names fuel)
    else return .declared kind false [← one]

/-- Reads the handle that output goes to, if one is given. -/
def printHandle? : (fuel : Nat) → Reader (Option Expr)
  | 0 => return none
  | fuel + 1 => do
    blanks
    match (← get).rest with
    | '\x7b' :: _ =>
      skip 1
      let e ← expression fuel
      expect "\x7d"
      return some e
    | '$' :: rest =>
      let name := rest.takeWhile isNameChar
      let behind := rest.drop name.length
      let after := behind.dropWhile isBlank
      let isOperand : Bool := match after with
        | c :: more =>
          c = '"' || c = '\'' || c = '$' || c = '@' || (c.isDigit && behind.head?.any isBlank) ||
            (c = '<' && "<".toList.isPrefixOf more && more[1]?.any fun d => d = '"' || d.isUpper) ||
            (isNameStart c && !endingWords.contains (String.ofList (after.takeWhile isNameChar)))
        | [] => false
      if !name.isEmpty && behind.head?.any isBlank && isOperand then
        skip (name.length + 1)
        return some (.named ⟨'$', String.ofList name⟩)
      else return none
    | _ =>
      match ← word? with
      | some word =>
        let after ← behind word.length
        let isHandle := word.toList.all (fun c => c.isUpper || c.isDigit || c = '_') &&
          !(← get).subs.contains word && !word.startsWith "__" &&
          !(match after with
            | c :: d :: _ => c = '(' || c = ',' || (c = '=' && d = '>') || (c = '-' && d = '>') || c = '.'
            | _ => false)
        if isHandle then
          skip word.length
          return some (.word word)
        else return none
      | none => return none

/-- Reads the rest of an output command. -/
def printing : (fuel : Nat) → PrintKind → Reader Expr
  | 0, _ => unexpected
  | fuel + 1, kind => do
    blanks
    if ← skipIf "(" then
      let handle ← printHandle? fuel
      let arguments ← operandsUpTo ")" fuel
      return .print kind handle arguments
    else
      let handle ← printHandle? fuel
      return .print kind handle (← operands fuel)

/-- Reads the items of a function whose first argument may be a block. -/
def blockAndItems : (fuel : Nat) → Reader (Option Expr × List Expr)
  | 0 => unexpected
  | fuel + 1 => do
    blanks
    let hasParentheses ← skipIf "("
    blanks
    let before ← get
    let block ← if ← skipIf "\x7b" then do
        let body ← statementsUpTo fuel
        blanks
        if ← startsWith "," then
          set before
          pure none
        else pure (some (Expr.block body))
      else pure none
    let items ← if hasParentheses then operandsUpTo ")" fuel else operands fuel
    return (block, items)

/-- Reads a call of a function of the language. -/
def functionCall : (fuel : Nat) → (name : String) → Reader Expr
  | 0, _ => unexpected
  | fuel + 1, name => do
    blanks
    if plainFunctions.contains name then
      if ← skipIf "(" then expect ")"
      return .function name []
    else if ← startsWith "(" then
      skip 1
      let arguments ← operandsUpTo ")" fuel
      -- Empty parentheses behind `eof` ask about all files.
      let arguments := if name = "eof" && arguments.isEmpty then [.list []] else arguments
      subscripts fuel false false (.function name arguments)
    else if unaryFunctions.contains name then
      let rest := (← get).rest
      let isOperand ← operandFollows
      let isComparison := rest.head? = some '<' && (name = "shift" || name = "pop")
      if isOperand && !isComparison && !(rest.head? = some '\x7b' && name ≠ "defined") &&
          !(rest.head? = some '/' && (name = "shift" || name = "pop")) && !"//".toList.isPrefixOf rest then
        return .function name [← binary fuel (binaryLevels.take comparisonLevel).reverse]
      else subscripts fuel false false (.function name [])
    else return .function name (← operands fuel)

/-- Reads an operand that begins with a word. -/
def wordOperand : (fuel : Nat) → (word : String) → Reader Expr
  | 0, _ => unexpected
  | fuel + 1, word => do
    let s ← get
    let after ← behind word.length
    if "=>".toList.isPrefixOf after then
      skip word.length
      return .text word.toList
    else
      let adjacent := (s.rest.drop word.length).head?
      let isQuote := ["q", "qq", "qw", "qx", "m", "qr", "s", "tr", "y"].contains word &&
        (match after with
          | c :: _ => !(c = ',' || c = ';' || c = ')') &&
            (if adjacent.any isBlank then !(c = '=') && !isNameChar c && c ≠ '#' else true)
          | [] => false)
      skip word.length
      if isQuote then
        blanks
        match ← quoteLike? fuel word with
        | some e => subscripts fuel false false e
        | none => unexpected
      else
        match word with
        | "my" => declaration fuel .my
        | "our" => declaration fuel .our
        | "state" => declaration fuel .state
        | "local" => return .localized (← unary fuel)
        | "sub" =>
          let parameters ← signature fuel
          expect "\x7b"
          let body ← statementsUpTo fuel
          subscripts fuel true false (.closure "" (parameters ++ body))
        | "do" =>
          blanks
          if ← skipIf "\x7b" then return .block (← statementsUpTo fuel)
          else return .function "do" [← unary fuel]
        | "eval" =>
          blanks
          if ← skipIf "\x7b" then return .attempt (← statementsUpTo fuel)
          else if ← operandFollows then return .function "eval" [← unary fuel]
          else return .function "eval" [topic]
        | "print" => printing fuel .plain
        | "say" => printing fuel .line
        | "printf" => printing fuel .formatted
        | "sort" =>
          blanks
          let (block, items) ← sortParts fuel
          return .sorted block items
        | "map" | "grep" =>
          let (block, items) ← blockAndItems fuel
          let make (body : Expr) (items : List Expr) : Expr :=
            if word = "map" then .mapped body items else .filtered body items
          return match block, items with
            | some body, items => make body items
            | none, body :: items => make body items
            | none, [] => .list []
        | "return" =>
          if ← operandFollows then
            let first ← assignment fuel
            blanks
            if (← startsWith ",") || (← startsWith "=>") then
              return .returned (some (.list (first :: (← commaRest fuel))))
            else return .returned (some first)
          else return .returned none
        | "next" => return .jump .next (← label?)
        | "last" => return .jump .last (← label?)
        | "redo" => return .jump .redo (← label?)
        | "__PACKAGE__" => subscripts fuel false false (.text s.package.toList)
        | "__FILE__" => return .text s.file
        | "__LINE__" => return .integer s.line
        | "wantarray" | "time" => functionCall fuel word
        | "STDIN" | "STDOUT" | "STDERR" => subscripts fuel false false (.word word)
        | "new" =>
          match ← (do blanks; word?) with
          | some name =>
            skip name.length
            let arguments ← methodArguments fuel
            subscripts fuel true false (.method (.word name) "new" none arguments)
          | none => userCall fuel word
        | _ =>
          if s.subs.contains word then userCall fuel word
          else if unaryFunctions.contains word || listFunctions.contains word ||
              plainFunctions.contains word then
            functionCall fuel word
          else userCall fuel word

/-- Reads the comparison and the items of a sort. -/
def sortParts : (fuel : Nat) → Reader (Option Expr × List Expr)
  | 0 => unexpected
  | fuel + 1 => do
    let hasParentheses ← skipIf "("
    blanks
    let comparison ← match (← get).rest with
      | '\x7b' :: _ => do
        skip 1
        pure (some (Expr.block (← statementsUpTo fuel)))
      | '$' :: rest => do
        let name := rest.takeWhile isNameChar
        let after := rest.drop name.length
        if !name.isEmpty && after.head?.any isBlank &&
            (after.dropWhile isBlank).head?.any fun c => c = '@' || c = '$' || isNameStart c then
          skip (name.length + 1)
          pure (some (Expr.callCode (.named ⟨'$', String.ofList name⟩) [] false))
        else pure none
      | _ => do
        match ← word? with
        | some word =>
          let after ← behind word.length
          let isFunction := (← get).subs.contains word &&
            after.head?.any fun c => c = '@' || c = '$' || isNameStart c
          if isFunction then
            skip word.length
            pure (some (Expr.call word [] false))
          else pure none
        | none => pure none
    let items ← if hasParentheses then operandsUpTo ")" fuel else operands fuel
    return (comparison, items)

/-- Reads a label behind a jump. -/
def label? : Reader (Option String) := do
  let before ← get
  blanks
  match ← word? with
  | some word =>
    if word.toList.all fun c => c.isUpper || c.isDigit || c = '_' then
      skip word.length
      return some word
    else
      set before
      return none
  | none =>
    set before
    return none

/-- Reads a call of a function of the program, or a word that stands for itself. -/
def userCall : (fuel : Nat) → (name : String) → Reader Expr
  | 0, _ => unexpected
  | fuel + 1, name => do
    let s ← get
    blanks
    let rest := (← get).rest
    if rest.head? = some '(' then
      skip 1
      let arguments ← operandsUpTo ")" fuel
      subscripts fuel true false (.call name arguments false)
    else if "->".toList.isPrefixOf rest || name.endsWith "::" then
      let name := if name.endsWith "::" then String.ofList (name.toList.take (name.length - 2)) else name
      subscripts fuel false false (.word name)
    else if rest.head? = some '\x7b' && blockFunctions.contains name && s.subs.contains name then
      skip 1
      let block ← statementsUpTo fuel
      return .call name (.closure "" block :: (← operands fuel)) false
    else if s.subs.contains name then
      if ← operandFollows then return .call name (← operands fuel) false
      else return .call name [] false
    else
      set s
      return .word name

/-- Reads an operand. -/
def operand : (fuel : Nat) → Reader Expr
  | 0 => unexpected
  | fuel + 1 => do
    blanks
    match (← get).rest with
    | [] => unexpected
    | c :: rest =>
      if c.isDigit || (c = '.' && rest.head?.any Char.isDigit) then number
      else if isNameStart c then
        match ← word? with
        | some word => wordOperand fuel word
        | none => unexpected
      else if c.toNat = 0x60 then
        let (opening, text) ← delimited
        return .output (← interpolated fuel .plain (withoutDelimiters opening text))
      else
        match c with
        | '$' =>
          skip 1
          value fuel .plain false
        | '@' =>
          skip 1
          listValue fuel false
        | '%' =>
          skip 1
          tableValue fuel
        | '&' =>
          skip 1
          codeOperand fuel
        | '*' =>
          skip 1
          return .named ⟨'*', ← name⟩
        | '"' =>
          let (_, text) ← delimited
          subscripts fuel false false (← interpolated fuel .plain text)
        | '\'' =>
          let (opening, text) ← delimited
          subscripts fuel false false (.text (plainText opening text))
        | '(' =>
          skip 1
          let items ← operandsUpTo ")" fuel
          blanks
          if ← skipIf "[" then
            let indices ← operandsUpTo "]" fuel
            return .picked (.list items) (.list indices)
          else subscripts fuel false false (.list items)
        | '[' =>
          skip 1
          let items ← operandsUpTo "]" fuel
          subscripts fuel true false (.newList items)
        | '\x7b' =>
          skip 1
          let items ← operandsUpTo "\x7d" fuel
          subscripts fuel true false (.newTable items)
        | '<' => angled fuel
        | '/' =>
          let (_, p) ← pattern fuel
          return .matching none p (← flags)
        | _ => unexpected

/-- Reads what a sign for a function stands before. -/
def codeOperand : (fuel : Nat) → Reader Expr
  | 0 => unexpected
  | fuel + 1 => do
    match ← peek? with
    | some '$' | some '\x7b' =>
      let e ← reference fuel
      if ← sign? "(" then
        let arguments ← operandsUpTo ")" fuel
        subscripts fuel true false (.callCode e arguments false)
      else return .callCode e [] true
    | _ =>
      let name ← name
      if ← skipIf "(" then
        let arguments ← operandsUpTo ")" fuel
        subscripts fuel true false (.call name arguments false)
      else return .call name [] true

/-- Reads the parameters behind the name of a function; signs without names are left out. -/
def signature : (fuel : Nat) → Reader (List Statement)
  | 0 => unexpected
  | fuel + 1 => do
    blanks
    let line := (← get).line
    if ← startsWith "(" then
      let (_, text) ← delimited
      blanks
      if text.any isNameStart then
        let parameters ← within text (parameterList fuel)
        let names := parameters.map (·.1)
        let arguments := listNamed "_"
        let defaults := ((List.range names.length).zip parameters).filterMap fun (n, (name, value)) =>
          value.map fun value =>
            Statement.expression line
              (.both (.binary "<=" (.function "scalar" [arguments]) (.integer n)) (.assign (.named name) value))
        return .expression line (.assign (.declared .my true names) arguments) :: defaults
      else return []
    else return []

/-- Reads names of parameters with the values that they get if there is no argument for them. -/
def parameterList : (fuel : Nat) → Reader (List (Name × Option Expr))
  | 0 => return []
  | fuel + 1 => do
    blanks
    match ← peek? with
    | none => return []
    | some ',' =>
      skipChar
      parameterList fuel
    | some sigil =>
      skipChar
      let text ← if (← peek?).any isNameStart then name else pure "undef"
      let value ← if (← sign? "//=") || (← sign? "||=") || (← sign? "=") then
          some <$> assignment fuel
        else pure none
      return (⟨sigil, text⟩, value) :: (← parameterList fuel)

/-- Reads statements up to a closing brace, which is read too. -/
def statementsUpTo : (fuel : Nat) → Reader (List Statement)
  | 0 => unexpected
  | fuel + 1 => do
    blanks
    if ← skipIf ";" then statementsUpTo fuel
    else if ← skipIf "\x7d" then return []
    else
      match ← peek? with
      | none =>
        throw ⟨"Missing right curly or square bracket".toList, (← get).line⟩
      | some _ =>
        let first ← statement fuel
        return first ++ (← statementsUpTo fuel)

/-- Reads statements up to the end of the text. -/
def statementsToEnd : (fuel : Nat) → Reader (List Statement)
  | 0 => unexpected
  | fuel + 1 => do
    blanks
    if ← skipIf ";" then statementsToEnd fuel
    else
      match ← peek? with
      | none => return []
      | some _ =>
        if (← atWord "__END__") || (← atWord "__DATA__") then return []
        else
          let first ← statement fuel
          return first ++ (← statementsToEnd fuel)

/-- Reads a block. -/
def body : (fuel : Nat) → Reader (List Statement)
  | 0 => unexpected
  | fuel + 1 => do
    expect "\x7b"
    statementsUpTo fuel

/-- Reads a condition between parentheses. -/
def condition : (fuel : Nat) → Reader Expr
  | 0 => unexpected
  | fuel + 1 => do
    expect "("
    let e ← expression fuel
    expect ")"
    return e

/-- Reads the further branches of a choice. -/
def otherBranches : (fuel : Nat) → Reader (List (Expr × List Statement) × List Statement)
  | 0 => return ([], [])
  | fuel + 1 => do
    if ← skipWord "elsif" then
      let c ← condition fuel
      let b ← body fuel
      let (more, otherwise) ← otherBranches fuel
      return ((c, b) :: more, otherwise)
    else if ← skipWord "else" then return ([], ← body fuel)
    else return ([], [])

/-- Whether a brace where a statement begins opens a table rather than a block. -/
def opensTable : Reader Bool := do
  let inner := ((← get).rest.drop 1).dropWhile isBlank
  let word := inner.takeWhile isNameChar
  let afterWord := (inner.drop word.length).dropWhile isBlank
  let isPair (text : Text) : Bool := "=>".toList.isPrefixOf text || ",".toList.isPrefixOf text
  match inner with
  | '\x7d' :: rest =>
    let after := rest.dropWhile isBlank
    return after.head? = some '\x7d' || after.head? = some ')' || after.head? = some ','
  | '\'' :: rest =>
    return isPair (((rest.dropWhile (· ≠ '\'')).drop 1).dropWhile isBlank)
  | '"' :: rest =>
    return isPair (((rest.dropWhile (· ≠ '"')).drop 1).dropWhile isBlank)
  | '$' :: rest =>
    let name := rest.takeWhile isNameChar
    return "=>".toList.isPrefixOf ((rest.drop name.length).dropWhile isBlank)
  | '%' :: c :: _ => return c = '$' || c = '\x7b' || isNameStart c
  | _ => return !word.isEmpty && "=>".toList.isPrefixOf afterWord

/-- Reads the end of a statement: what it hangs on, and its semicolon. -/
def modified : (fuel : Nat) → (line : Nat) → Expr → Reader (List Statement)
  | 0, _, _ => unexpected
  | fuel + 1, line, e => do
    let finish (s : Statement) : Reader (List Statement) := do
      blanks
      if ← skipIf ";" then return [s]
      else if (← startsWith "\x7d") || (← peek?).isNone then return [s]
      else unexpected
    let isBlock : Bool := match e with
      | .block _ => true
      | _ => false
    if ← skipWord "if" then
      let c ← expression fuel
      finish (.expression line (.both c e))
    else if ← skipWord "unless" then
      let c ← expression fuel
      finish (.expression line (.either c e))
    else if ← skipWord "while" then
      let c ← expression fuel
      match e, isBlock with
      | .block body, true => finish (.repeating line c false body)
      | e, _ => finish (.loop line none (some c) false [.expression line e] [])
    else if ← skipWord "until" then
      let c ← expression fuel
      match e, isBlock with
      | .block body, true => finish (.repeating line c true body)
      | e, _ => finish (.loop line none (some c) true [.expression line e] [])
    else if (← skipWord "foreach") || (← skipWord "for") then
      let items ← expression fuel
      finish (.each line none none items [.expression line e])
    else finish (.expression line e)

/-- Reads a loop with a head between parentheses: over a list, or one that counts. -/
def forLoop : (fuel : Nat) → (line : Nat) → (label : Option String) → Reader Statement
  | 0, _, _ => unexpected
  | fuel + 1, line, label => do
    blanks
    let isNew ← (do if ← skipWord "my" then return true else skipWord "our")
    blanks
    if ← startsWith "$" then
      skip 1
      let name ← name
      expect "("
      let items ← operandsUpTo ")" fuel
      let b ← body fuel
      return .each line label (some (isNew, ⟨'$', name⟩)) (.list items) b
    else
      expect "("
      blanks
      let start ← if ← startsWith ";" then pure none
        else if ← startsWith ")" then pure (some (Expr.list []))
        else some <$> expression fuel
      if ← sign? ";" then
        blanks
        let c ← if ← startsWith ";" then pure none else some <$> expression fuel
        expect ";"
        blanks
        let step ← if ← startsWith ")" then pure none else some <$> expression fuel
        expect ")"
        let b ← body fuel
        return .counting line label start c step b
      else
        expect ")"
        let b ← body fuel
        return .each line label none (start.getD (.list [])) b

/-- Reads a statement that begins with a word; `none` if the word begins an expression. -/
def wordStatement? : (fuel : Nat) → (word : String) → (label : Option String) →
    Reader (Option (List Statement))
  | 0, _, _ => return none
  | fuel + 1, word, label => do
    let line := (← get).line
    match word with
    | "if" | "unless" =>
      skip word.length
      let c ← condition fuel
      let b ← body fuel
      let (more, otherwise) ← otherBranches fuel
      let c := if word = "unless" then .unary "!" c else c
      return some [.choice line ((c, b) :: more) otherwise]
    | "while" | "until" =>
      skip word.length
      expect "("
      blanks
      let c ← if ← startsWith ")" then pure none else some <$> expression fuel
      expect ")"
      let b ← body fuel
      let more ← if ← skipWord "continue" then body fuel else pure []
      return some [.loop line label c (word = "until") b more]
    | "for" | "foreach" =>
      skip word.length
      return some [← forLoop fuel line label]
    | "sub" =>
      let after ← behind 3
      if after.head?.any isNameStart then
        skip 3
        let name ← name
        let parameters ← signature fuel
        if ← skipIf ";" then return some []
        else return some [.sub line name (parameters ++ (← body fuel))]
      else return none
    | "package" =>
      skip 7
      let name ← name
      let outer := (← get).package
      modify fun s => { s with package := name }
      if ← sign? "\x7b" then
        let b ← statementsUpTo fuel
        modify fun s => { s with package := outer }
        return some [.package name (some b)]
      else
        let _ ← sign? ";"
        return some [.package name none]
    | "BEGIN" | "END" | "INIT" | "CHECK" =>
      let after ← behind word.length
      if after.head? = some '\x7b' then
        skip word.length
        return some [.special (word = "END") (← body fuel)]
      else return none
    | "use" | "no" =>
      skip word.length
      blanks
      if (← peek?).any fun c => c.isDigit || c = 'v' then
        let _ ← takeWhile (· ≠ ';')
        return some []
      else
        let module ← name
        let items ← operands fuel
        let _ ← sign? ";"
        let texts (items : List Expr) : List String :=
          items.filterMap fun e =>
            match e with
            | .text t => some (String.ofList t)
            | _ => none
        match module with
        | "parent" | "base" => return some [.parents (.list items)]
        | "constant" =>
          let names := match items with
            | [.newTable items] => texts items
            | _ => []
          modify fun s => { s with subs := s.subs ++ names }
          return some (constants line items)
        | _ =>
          let asked := match items with
            | [.list items] => texts items
            | items => texts items
          modify fun s => { s with subs := s.subs ++ usualExports module ++ asked }
          return some []
    | _ => return none

/-- The functions that stand for constants. -/
def constants (line : Nat) (items : List Expr) : List Statement :=
  let rec pairs : List Expr → List Statement
    | .text name :: value :: rest => .sub line (String.ofList name) [.expression line value] :: pairs rest
    | _ => []
  match items with
  | [.newTable items] => pairs items
  | .text name :: values => [.sub line (String.ofList name) [.expression line (.list values)]]
  | _ => []

/-- Reads a statement. -/
def statement : (fuel : Nat) → Reader (List Statement)
  | 0 => unexpected
  | fuel + 1 => do
    blanks
    let line := (← get).line
    match (← get).rest with
    | '\x7b' :: _ =>
      if ← opensTable then modified fuel line (← expression fuel)
      else
        skip 1
        return [.block none (← statementsUpTo fuel)]
    | _ =>
      match ← word? with
      | none => modified fuel line (← expression fuel)
      | some word =>
        let after ← behind word.length
        let isLabel := after.head? = some ':' && after[1]? ≠ some ':' &&
          word.toList.all (fun c => c.isUpper || c.isDigit || c = '_')
        if isLabel then
          skip word.length
          expect ":"
          blanks
          match (← get).rest with
          | '\x7b' :: _ =>
            skip 1
            return [.block (some word) (← statementsUpTo fuel)]
          | _ =>
            match ← word? with
            | some next =>
              match ← wordStatement? fuel next (some word) with
              | some found => return found
              | none => modified fuel line (← expression fuel)
            | none => modified fuel line (← expression fuel)
        else
          match ← wordStatement? fuel word none with
          | some found => return found
          | none => modified fuel line (← expression fuel)

end

end Reader

/-- Reads a program. -/
def Program.ofText (file : Text) (text : Text) : Except SyntaxError Program := do
  let subs := namesAfter "sub ".toList (text.length + 1) text ++
    namesAfter "use constant ".toList (text.length + 1) text
  let work : Reader (List Statement) := do Reader.statementsToEnd (← Reader.fuel)
  -- A line end before the text lets documentation begin at its start.
  let (statements, source) ← work.run ⟨'\n' :: text, 0, 0, subs, "main", file⟩
  let marked := "__END__".toList.isPrefixOf source.rest || "__DATA__".toList.isPrefixOf source.rest
  let data := if marked then some ((source.rest.dropWhile (· ≠ '\n')).drop 1) else none
  return ⟨statements, data⟩

end KDispatch.Shell.Sigil
