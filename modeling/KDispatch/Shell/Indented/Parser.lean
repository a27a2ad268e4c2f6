import KDispatch.Shell.Indented.Syntax

/-!
Reading programs from their words.
-/

namespace KDispatch.Shell.Indented

structure Reading where
  tokens : Array Token
  index : Nat

abbrev Reader := StateT Reading (Except SyntaxError)

namespace Reader

def keywords : List String :=
  ["False", "None", "True", "and", "as", "assert", "async", "await", "break", "class", "continue", "def",
    "del", "elif", "else", "except", "finally", "for", "from", "global", "if", "import", "in", "is", "lambda",
    "nonlocal", "not", "or", "pass", "raise", "return", "try", "while", "with", "yield"]

def token : Reader Token := do
  let s ← get
  return s.tokens.getD s.index (s.tokens.back?.getD default)

/-- The word behind the next one. -/
def second : Reader Symbol := do
  let s ← get
  return (s.tokens.getD (s.index + 1) (s.tokens.back?.getD default)).symbol

def advance : Reader Unit := modify fun s => { s with index := s.index + 1 }

/-- Refuses the program at the next word. -/
def unexpected {α : Type} : Reader α := do
  let t ← token
  throw ⟨"SyntaxError", "invalid syntax".toList, t.line, t.first, if t.lastLine = t.line then t.last else t.first⟩

def atSign (sign : String) : Reader Bool := do
  match (← token).symbol with
  | .sign s => return s = sign
  | _ => return false

def atWord (word : String) : Reader Bool := do
  match (← token).symbol with
  | .name s => return s = word
  | _ => return false

def sign? (sign : String) : Reader Bool := do
  if ← atSign sign then
    advance
    return true
  else return false

def word? (word : String) : Reader Bool := do
  if ← atWord word then
    advance
    return true
  else return false

def expect (sign : String) : Reader Unit := do
  if !(← sign? sign) then unexpected

def expectWord (word : String) : Reader Unit := do
  if !(← word? word) then unexpected

def name : Reader String := do
  match (← token).symbol with
  | .name s =>
    if keywords.contains s then unexpected
    else
      advance
      return s
  | _ => unexpected

/-- The part of the program from a word to the one that has been read last. -/
def spanFrom (start : Token) (mark : Option (Nat × Nat)) : Reader Span := do
  let s ← get
  let last := s.tokens.getD (s.index - 1) default
  return ⟨start.line, start.first, if last.lastLine = start.line then some last.last else none, mark⟩

/-- The characters that escapes in a text stand for. -/
def unescaped (isBytes : Bool) : (fuel : Nat) → Text → Text
  | 0, text => text
  | _ + 1, [] => []
  | fuel + 1, '\\' :: c :: rest =>
    let coded (count : Nat) : Text :=
      let digits := (rest.take count).takeWhile Scan.Reader.isHexDigit
      Char.ofNat (Scan.Reader.numberOf 16 digits) :: unescaped isBytes fuel (rest.drop digits.length)
    match c with
    | '\n' => unescaped isBytes fuel rest
    | '\\' | '\'' | '"' => c :: unescaped isBytes fuel rest
    | 'n' => '\n' :: unescaped isBytes fuel rest
    | 't' => '\t' :: unescaped isBytes fuel rest
    | 'r' => '\r' :: unescaped isBytes fuel rest
    | 'a' => '\x07' :: unescaped isBytes fuel rest
    | 'b' => '\x08' :: unescaped isBytes fuel rest
    | 'f' => '\x0c' :: unescaped isBytes fuel rest
    | 'v' => '\x0b' :: unescaped isBytes fuel rest
    | 'x' => coded 2
    | 'u' => if isBytes then '\\' :: c :: unescaped isBytes fuel rest else coded 4
    | 'U' => if isBytes then '\\' :: c :: unescaped isBytes fuel rest else coded 8
    | c =>
      if '0' ≤ c && c ≤ '7' then
        let digits := ((c :: rest).take 3).takeWhile fun d => '0' ≤ d && d ≤ '7'
        Char.ofNat (Scan.Reader.numberOf 8 digits) :: unescaped isBytes fuel ((c :: rest).drop digits.length)
      else '\\' :: c :: unescaped isBytes fuel rest
  | fuel + 1, c :: rest => c :: unescaped isBytes fuel rest

/-- The text of an expression inside a field, up to the sign that ends it, and the rest. -/
def fieldText : (fuel depth : Nat) → (quote : Option Char) → Text → Text × Text
  | 0, _, _, text => ([], text)
  | _ + 1, _, _, [] => ([], [])
  | fuel + 1, depth, some q, c :: rest =>
    let (more, after) := fieldText fuel depth (if c = q then none else some q) rest
    (c :: more, after)
  | fuel + 1, depth, none, c :: rest =>
    let go (depth : Nat) (quote : Option Char) : Text × Text :=
      let (more, after) := fieldText fuel depth quote rest
      (c :: more, after)
    if c = '\'' || c = '"' then go depth (some c)
    else if "([\x7b".toList.contains c then go (depth + 1) none
    else if depth = 0 then
      if c = '\x7d' || c = ':' then ([], c :: rest)
      else if c = '!' && rest.head? ≠ some '=' then ([], c :: rest)
      else if (c = '!' || c = '=' || c = '<' || c = '>') && rest.head? = some '=' then
        let (more, after) := fieldText fuel depth none (rest.drop 1)
        (c :: '=' :: more, after)
      else go 0 none
    else if ")]\x7d".toList.contains c then go (depth - 1) none
    else go depth none

/-- Does work on other words. -/
def within {α : Type} (tokens : Array Token) (work : Reader α) : Reader α := do
  let outer ← get
  set (⟨tokens, 0⟩ : Reading)
  let found ← work
  set outer
  return found

/-- The operators between two operands, from the weakest on. -/
def levels : List (List String) :=
  [["|"], ["^"], ["&"], ["<<", ">>"], ["+", "-"], ["*", "/", "//", "%", "@"]]

def updateSigns : List String :=
  ["+=", "-=", "*=", "/=", "//=", "%=", "**=", ">>=", "<<=", "&=", "|=", "^=", "@="]

/-- Whether an expression may begin here. -/
def expressionFollows : Reader Bool := do
  match (← token).symbol with
  | .name s => return !keywords.contains s || ["None", "True", "False", "not", "lambda", "yield", "await"].contains s
  | .integer _ | .real _ | .text _ _ => return true
  | .sign s => return ["(", "[", "\x7b", "-", "+", "~", "*", "..."].contains s
  | _ => return false

/-- The part of a text before its next field. -/
def literalStart (isRaw : Bool) : (fuel : Nat) → Text → Text
  | 0, _ => []
  | _ + 1, [] => []
  | fuel + 1, '\\' :: c :: rest =>
    if isRaw || c = '\x7b' || c = '\x7d' then '\\' :: literalStart isRaw fuel (c :: rest)
    else '\\' :: c :: literalStart isRaw fuel rest
  | fuel + 1, c :: rest =>
    if c = '\x7b' || c = '\x7d' then [] else c :: literalStart isRaw fuel rest

/-- The column where the content of a text ends. -/
def textEnd (t : Token) (content : Text) : Nat :=
  if t.lastLine = t.line && t.first + content.length + 6 < t.last then t.last - 3
  else if t.lastLine = t.line then t.last - 1
  else t.first + content.length + 4

/-- Whether a comprehension goes on behind its element. -/
def startsComprehension : Reader Bool := do return (← atWord "for") || (← atWord "async")

mutual

/-- Reads an expression, in which a name may be given a value. -/
def expression : (fuel : Nat) → Reader Expr
  | 0 => unexpected
  | fuel + 1 => do
    match (← token).symbol, ← second with
    | .name n, .sign ":=" =>
      if keywords.contains n then unexpected
      else
        advance
        advance
        return .assigned n (← conditional fuel)
    | _, _ => conditional fuel

def conditional : (fuel : Nat) → Reader Expr
  | 0 => unexpected
  | fuel + 1 => do
    if ← word? "lambda" then
      let parameters ← parameterList fuel ":"
      expect ":"
      return .closure parameters (← conditional fuel)
    else
      let first ← disjunction fuel
      if ← word? "if" then
        let condition ← disjunction fuel
        expectWord "else"
        return .conditional condition first (← conditional fuel)
      else return first

def disjunction : (fuel : Nat) → Reader Expr
  | 0 => unexpected
  | fuel + 1 => do
    let first ← conjunction fuel
    if ← word? "or" then return .either first (← disjunction fuel) else return first

def conjunction : (fuel : Nat) → Reader Expr
  | 0 => unexpected
  | fuel + 1 => do
    let first ← negated fuel
    if ← word? "and" then return .both first (← conjunction fuel) else return first

def negated : (fuel : Nat) → Reader Expr
  | 0 => unexpected
  | fuel + 1 => do
    if ← word? "not" then return .negation (← negated fuel) else comparison fuel

def comparison : (fuel : Nat) → Reader Expr
  | 0 => unexpected
  | fuel + 1 => do
    let start ← token
    let first ← operation fuel levels
    let rest ← comparisons fuel
    if rest.isEmpty then return first else return .compare (← spanFrom start none) first rest

def comparisons : (fuel : Nat) → Reader (List (String × Expr))
  | 0 => unexpected
  | fuel + 1 => do
    let operator : Option String ← match (← token).symbol with
      | .sign s =>
        if ["==", "!=", "<", ">", "<=", ">="].contains s then do
          advance
          pure (some s)
        else pure none
      | .name "in" => do
        advance
        pure (some "in")
      | .name "is" => do
        advance
        if ← word? "not" then pure (some "is not") else pure (some "is")
      | .name "not" => do
        match ← second with
        | .name "in" =>
          advance
          advance
          pure (some "not in")
        | _ => pure none
      | _ => pure none
    match operator with
    | none => return []
    | some operator =>
      let operand ← operation fuel levels
      return (operator, operand) :: (← comparisons fuel)

/-- Reads operands with the operators of some levels between them. -/
def operation : (fuel : Nat) → List (List String) → Reader Expr
  | 0, _ => unexpected
  | fuel + 1, [] => unary fuel
  | fuel + 1, signs :: rest => do
    let start ← token
    let first ← operation fuel rest
    operationRest fuel start signs rest first

def operationRest : (fuel : Nat) → Token → List String → List (List String) → Expr → Reader Expr
  | 0, _, _, _, _ => unexpected
  | fuel + 1, start, signs, rest, a => do
    let t ← token
    match t.symbol with
    | .sign s =>
      if signs.contains s then
        advance
        let b ← operation fuel rest
        let mark := if t.line = start.line then some (t.first, t.last) else none
        operationRest fuel start signs rest (.binary (← spanFrom start mark) s a b)
      else return a
    | _ => return a

def unary : (fuel : Nat) → Reader Expr
  | 0 => unexpected
  | fuel + 1 => do
    let start ← token
    match start.symbol with
    | .sign s =>
      if ["-", "+", "~"].contains s then
        advance
        let operand ← unary fuel
        return .unary (← spanFrom start none) s operand
      else power fuel
    | _ => power fuel

def power : (fuel : Nat) → Reader Expr
  | 0 => unexpected
  | fuel + 1 => do
    let start ← token
    let _ ← word? "await"
    let base ← atom fuel
    let base ← trailers fuel start base
    let t ← token
    if ← sign? "**" then
      let exponent ← unary fuel
      let mark := if t.line = start.line then some (t.first, t.last) else none
      return .binary (← spanFrom start mark) "**" base exponent
    else return base

/-- Reads calls, subscripts and attributes behind an operand. -/
def trailers : (fuel : Nat) → Token → Expr → Reader Expr
  | 0, _, _ => unexpected
  | fuel + 1, start, e => do
    let t ← token
    if ← sign? "(" then
      let arguments ← argumentList fuel
      trailers fuel start (.call (← spanFrom start none) e arguments)
    else if ← sign? "[" then
      let index ← subscripts fuel
      expect "]"
      let s ← get
      let last := s.tokens.getD (s.index - 1) default
      let mark := if t.line = start.line && last.lastLine = t.line then some (t.first, last.last) else none
      trailers fuel start (.subscript (← spanFrom start mark) e index)
    else if ← sign? "." then
      let member ← name
      trailers fuel start (.member (← spanFrom start none) e member)
    else return e

/-- Reads the arguments of a call up to the closing parenthesis. -/
def argumentList : (fuel : Nat) → Reader (List Argument)
  | 0 => unexpected
  | fuel + 1 => do
    if ← sign? ")" then return []
    else
      let argument : Argument ←
        if ← sign? "**" then do pure (.allNamed (← conditional fuel))
        else if ← sign? "*" then do pure (.all (← conditional fuel))
        else
          match (← token).symbol, ← second with
          | .name n, .sign "=" => do
            advance
            advance
            pure (.named n (← conditional fuel))
          | _, _ => do
            let e ← expression fuel
            if ← startsComprehension then
              let clauses ← clauseList fuel
              pure (.positional (.collected .steps e none clauses))
            else pure (.positional e)
      if ← sign? "," then return argument :: (← argumentList fuel)
      else
        expect ")"
        return [argument]

/-- Reads the walks and conditions of a comprehension. -/
def clauseList : (fuel : Nat) → Reader (List Clause)
  | 0 => unexpected
  | fuel + 1 => do
    let _ ← word? "async"
    if ← word? "for" then
      let target ← targetList fuel
      expectWord "in"
      let items ← disjunction fuel
      return .walk target items :: (← clauseList fuel)
    else if ← word? "if" then
      let condition ← disjunction fuel
      return .condition condition :: (← clauseList fuel)
    else return []

/-- Reads what a walk assigns to. -/
def targetList : (fuel : Nat) → Reader Expr
  | 0 => unexpected
  | fuel + 1 => do
    let first ← target fuel
    if ← atSign "," then return .tuple (first :: (← targetRest fuel)) else return first

def targetRest : (fuel : Nat) → Reader (List Expr)
  | 0 => unexpected
  | fuel + 1 => do
    if ← sign? "," then
      if (← atWord "in") || (← atSign "=") then return []
      else
        let next ← target fuel
        return next :: (← targetRest fuel)
    else return []

def target : (fuel : Nat) → Reader Expr
  | 0 => unexpected
  | fuel + 1 => do
    if ← sign? "*" then return .starred (← target fuel) else operation fuel levels

/-- Reads what stands between the brackets of a subscript. -/
def subscripts : (fuel : Nat) → Reader Expr
  | 0 => unexpected
  | fuel + 1 => do
    let first ← subscript fuel
    if ← atSign "," then return .tuple (first :: (← subscriptRest fuel)) else return first

def subscriptRest : (fuel : Nat) → Reader (List Expr)
  | 0 => unexpected
  | fuel + 1 => do
    if ← sign? "," then
      if ← atSign "]" then return []
      else
        let next ← subscript fuel
        return next :: (← subscriptRest fuel)
    else return []

def subscript : (fuel : Nat) → Reader Expr
  | 0 => unexpected
  | fuel + 1 => do
    let bound? : Reader (Option Expr) := do
      if (← atSign ":") || (← atSign "]") || (← atSign ",") then return none
      else return some (← conditional fuel)
    let first ← bound?
    if ← sign? ":" then
      let last ← bound?
      let step ← if ← sign? ":" then bound? else pure none
      return .slice first last step
    else
      match first with
      | some e => return e
      | none => unexpected

/-- Reads expressions with commas between them; more than one make a tuple. -/
def expressionList : (fuel : Nat) → Reader Expr
  | 0 => unexpected
  | fuel + 1 => do
    if ← atWord "yield" then yieldExpression fuel
    else
      let first ← item fuel
      if ← atSign "," then return .tuple (first :: (← itemRest fuel)) else return first

/-- Reads an expression before which a star may stand. -/
def item : (fuel : Nat) → Reader Expr
  | 0 => unexpected
  | fuel + 1 => do
    if ← sign? "*" then return .starred (← operation fuel levels) else expression fuel

def itemRest : (fuel : Nat) → Reader (List Expr)
  | 0 => unexpected
  | fuel + 1 => do
    if ← sign? "," then
      if ← expressionFollows then
        let next ← item fuel
        return next :: (← itemRest fuel)
      else return []
    else return []

def yieldExpression : (fuel : Nat) → Reader Expr
  | 0 => unexpected
  | fuel + 1 => do
    expectWord "yield"
    if ← word? "from" then return .yielded (some (← conditional fuel)) true
    else if ← expressionFollows then return .yielded (some (← expressionList fuel)) false
    else return .yielded none false

/-- Reads the fields and texts of a text with fields, which stands in a line up to a column. -/
def parts : (fuel : Nat) → (line finish : Nat) → (isRaw inFormat : Bool) → Text → Reader (List Part × Text)
  | 0, _, _, _, _, text => return ([], text)
  | fuel + 1, line, finish, isRaw, inFormat, text => do
    let plain (t : Text) : Part := .text (if isRaw then t else unescaped false (t.length + 1) t)
    match text with
    | [] => return ([], [])
    | '\x7b' :: '\x7b' :: rest =>
      let (more, after) ← parts fuel line finish isRaw inFormat rest
      return (.text ['\x7b'] :: more, after)
    | '\x7b' :: rest =>
      let (spelled, after) := fieldText (rest.length + 1) 0 none rest
      let trimmed := (spelled.reverse.dropWhile (· = ' ')).reverse
      let shows := trimmed.getLast? = some '=' && !(["==", "!=", "<=", ">="].contains
        (String.ofList (trimmed.drop (trimmed.length - 2))))
      let inner := if shows then trimmed.dropLast else spelled
      let tokens ← match Token.ofExpression line (finish - rest.length) inner with
        | .ok tokens => pure tokens
        | .error e => throw e
      let value ← within tokens (expressionList fuel)
      let (conversion, after) := match after with
        | '!' :: c :: after => (some c, after)
        | after => (none, after)
      let (format, after) ← match after with
        | ':' :: after => parts fuel line finish isRaw true after
        | after => pure ([], after)
      match after with
      | '\x7d' :: after =>
        let (more, after) ← parts fuel line finish isRaw inFormat after
        let conversion := if shows && conversion.isNone && format.isEmpty then some 'r' else conversion
        let found : List Part := .field value conversion format :: more
        return (if shows then plain spelled :: found else found, after)
      | _ => throw ⟨"SyntaxError", "f-string: expecting '\x7d'".toList, line, 0, 1⟩
    | '\x7d' :: rest =>
      if inFormat then return ([], text)
      else
        let (more, after) ← parts fuel line finish isRaw inFormat (if rest.head? = some '\x7d' then rest.drop 1 else rest)
        return (.text ['\x7d'] :: more, after)
    | text =>
      let literal := literalStart isRaw (text.length + 1) text
      let (more, after) ← parts fuel line finish isRaw inFormat (text.drop literal.length)
      return (plain literal :: more, after)

/-- Reads texts that stand one after the other, which are one text. -/
def texts : (fuel : Nat) → Reader (List Part × Bool × Bool)
  | 0 => unexpected
  | fuel + 1 => do
    let t ← token
    match t.symbol with
    | .text letters content =>
      advance
      let isRaw := letters.contains 'r'
      let isBytes := letters.contains 'b'
      let isFormatted := letters.contains 'f'
      let here ← if isFormatted then do pure (← parts fuel t.line (textEnd t content) isRaw false content).1
        else pure [.text (if isRaw then content else unescaped isBytes (content.length + 1) content)]
      let (more, moreBytes, moreFormatted) ← texts fuel
      return (here ++ more, isBytes || moreBytes, isFormatted || moreFormatted)
    | _ => return ([], false, false)

/-- Reads an operand. -/
def atom : (fuel : Nat) → Reader Expr
  | 0 => unexpected
  | fuel + 1 => do
    let t ← token
    match t.symbol with
    | .integer n =>
      advance
      return .integer n
    | .real x =>
      advance
      return .real x
    | .text _ _ =>
      let (found, isBytes, isFormatted) ← texts fuel
      let joined := found.flatMap fun part =>
        match part with
        | .text t => t
        | .field _ _ _ => []
      if isFormatted then return .formatted found
      else return if isBytes then .bytes joined else .text joined
    | .name "None" =>
      advance
      return .nothing
    | .name "True" =>
      advance
      return .boolean true
    | .name "False" =>
      advance
      return .boolean false
    | .name _ =>
      let n ← name
      return .name (← spanFrom t none) n
    | .sign "..." =>
      advance
      return .ellipsis
    | .sign "(" =>
      advance
      if ← sign? ")" then return .tuple []
      else if ← atWord "yield" then
        let e ← yieldExpression fuel
        expect ")"
        return e
      else
        let first ← item fuel
        if ← startsComprehension then
          let clauses ← clauseList fuel
          expect ")"
          return .collected .steps first none clauses
        else if ← atSign "," then
          let rest ← itemRest fuel
          expect ")"
          return .tuple (first :: rest)
        else
          expect ")"
          return first
    | .sign "[" =>
      advance
      if ← sign? "]" then return .list []
      else
        let first ← item fuel
        if ← startsComprehension then
          let clauses ← clauseList fuel
          expect "]"
          return .collected .list first none clauses
        else
          let rest ← itemRest fuel
          expect "]"
          return .list (first :: rest)
    | .sign "\x7b" =>
      advance
      if ← sign? "\x7d" then return .table []
      else if ← sign? "**" then
        let all ← operation fuel levels
        return .table ((none, all) :: (← entryRest fuel))
      else
        let first ← item fuel
        if ← sign? ":" then
          let value ← expression fuel
          if ← startsComprehension then
            let clauses ← clauseList fuel
            expect "\x7d"
            return .collected .table first (some value) clauses
          else return .table ((some first, value) :: (← entryRest fuel))
        else if ← startsComprehension then
          let clauses ← clauseList fuel
          expect "\x7d"
          return .collected .set first none clauses
        else
          let rest ← itemRest fuel
          expect "\x7d"
          return .set (first :: rest)
    | _ => unexpected

/-- Reads the rest of the entries of a table, up to its closing brace. -/
def entryRest : (fuel : Nat) → Reader (List (Option Expr × Expr))
  | 0 => unexpected
  | fuel + 1 => do
    if ← sign? "," then
      if ← sign? "\x7d" then return []
      else if ← sign? "**" then
        let all ← operation fuel levels
        return (none, all) :: (← entryRest fuel)
      else
        let key ← expression fuel
        expect ":"
        let value ← expression fuel
        return (some key, value) :: (← entryRest fuel)
    else
      expect "\x7d"
      return []

/-- Reads parameters up to a sign, which is not read. -/
def parameterList : (fuel : Nat) → (close : String) → Reader (List Parameter)
  | 0, _ => unexpected
  | fuel + 1, close => do
    if ← atSign close then return []
    else
      let note : Reader Unit := do
        if close = ")" then
          if ← sign? ":" then
            let _ ← conditional fuel
      let parameter : Parameter ←
        if ← sign? "**" then do
          let n ← name
          note
          pure (.named n)
        else if ← sign? "*" then do
          if ← atSign "," then pure (.rest none)
          else
            let n ← name
            note
            pure (.rest (some n))
        else if ← sign? "/" then pure .slash
        else do
          let n ← name
          note
          let usual ← if ← sign? "=" then some <$> conditional fuel else pure none
          pure (.plain n usual)
      if ← sign? "," then return parameter :: (← parameterList fuel close)
      else if ← atSign close then return [parameter]
      else unexpected

end

/-- Whether something can be assigned to an expression. -/
def isTarget : Expr → Bool
  | .name _ _ | .member _ _ _ | .subscript _ _ _ | .tuple _ | .list _ | .starred _ => true
  | _ => false

/-- A name with dots. -/
def dottedName : (fuel : Nat) → Reader String
  | 0 => unexpected
  | fuel + 1 => do
    let first ← name
    if ← sign? "." then return first ++ "." ++ (← dottedName fuel) else return first

/-- Reads names with other names for them. -/
def importNames (dotted : Bool) : (fuel : Nat) → Reader (List (String × Option String))
  | 0 => unexpected
  | fuel + 1 => do
    if ← atSign ")" then return []
    else
      let first ← if dotted then dottedName fuel else if ← sign? "*" then pure "*" else name
      let other ← if ← word? "as" then some <$> name else pure none
      if ← sign? "," then return (first, other) :: (← importNames dotted fuel) else return [(first, other)]

/-- Reads further assignment targets and the value behind them. -/
def assignments (span : Span) (first : Expr) : (fuel : Nat) → Reader (List (Span × Expr) × Expr)
  | 0 => unexpected
  | fuel + 1 => do
    if ← sign? "=" then
      if !isTarget first then unexpected
      else
        let start ← token
        let next ← expressionList fuel
        let (targets, value) ← assignments (← spanFrom start none) next fuel
        return ((span, first) :: targets, value)
    else return ([], first)

/-- Reads a statement on one line. -/
def simple (fuel : Nat) : Reader Statement := do
  let start ← token
  match start.symbol with
  | .name "pass" =>
    advance
    return .pass
  | .name "break" =>
    advance
    return .stop
  | .name "continue" =>
    advance
    return .again
  | .name "return" =>
    advance
    let value ← if ← expressionFollows then some <$> expressionList fuel else pure none
    return .returned (← spanFrom start none) value
  | .name "raise" =>
    advance
    let value ← if ← expressionFollows then some <$> expression fuel else pure none
    let cause ← if ← word? "from" then some <$> expression fuel else pure none
    return .failure (← spanFrom start none) value cause
  | .name "import" =>
    advance
    let names ← importNames true fuel
    return .imported (← spanFrom start none) names
  | .name "from" =>
    advance
    let _ ← sign? "."
    let module ← dottedName fuel
    expectWord "import"
    let isOpen ← sign? "("
    let names ← importNames false fuel
    if isOpen then expect ")"
    return .importedFrom (← spanFrom start none) module names
  | .name "del" =>
    advance
    let targets ← expressionList fuel
    return .erase (← spanFrom start none) (match targets with
      | .tuple items => items
      | e => [e])
  | .name "assert" =>
    advance
    let testStart ← token
    let condition ← expression fuel
    let span ← spanFrom testStart none
    let message ← if ← sign? "," then some <$> expression fuel else pure none
    return .assertion span condition message
  | .name "global" =>
    advance
    return .globals ((← importNames false fuel).map (·.1))
  | .name "nonlocal" =>
    advance
    return .outers ((← importNames false fuel).map (·.1))
  | _ =>
    let first ← expressionList fuel
    let t ← token
    match t.symbol with
    | .sign "=" =>
      let (targets, value) ← assignments (← spanFrom start none) first fuel
      return .assign (← spanFrom start none) targets value
    | .sign ":" =>
      advance
      let _ ← conditional fuel
      if ← sign? "=" then
        let value ← expressionList fuel
        return .declared (← spanFrom start none) first (some value)
      else return .declared (← spanFrom start none) first none
    | .name _ | .text _ _ | .integer _ =>
      match first with
      | .name _ word =>
        if word = "print" || word = "exec" then
          let _ ← expressionList fuel
          let span ← spanFrom start none
          throw ⟨"SyntaxError", ("Missing parentheses in call to '" ++ word ++ "'. Did you mean " ++ word ++
            "(...)?").toList, span.line, span.first, span.last.getD (span.first + 1)⟩
        else return .expression (← spanFrom start none) first
      | _ => return .expression (← spanFrom start none) first
    | .sign s =>
      if updateSigns.contains s then
        advance
        let value ← expressionList fuel
        return .update (← spanFrom start none) (String.ofList s.toList.dropLast) first value
      else return .expression (← spanFrom start none) first
    | _ => return .expression (← spanFrom start none) first

/-- Reads statements on one line, up to its end. -/
def simpleLine : (fuel : Nat) → Reader (List Statement)
  | 0 => unexpected
  | fuel + 1 => do
    let first ← simple fuel
    if ← sign? ";" then
      match (← token).symbol with
      | .lineEnd =>
        advance
        return [first]
      | _ => return first :: (← simpleLine fuel)
    else
      match (← token).symbol with
      | .lineEnd =>
        advance
        return [first]
      | .finish => return [first]
      | _ => unexpected

/-- Refuses a program in which a block is missing. -/
def missingBlock {α : Type} (what : String) (line : Nat) : Reader α := do
  let t ← token
  throw ⟨"IndentationError",
    ("expected an indented block after " ++ what ++ " on line " ++ toString line).toList, t.line, t.first,
    t.first + 1⟩

mutual

/-- Reads a block behind its colon. -/
def block (what : String) (line : Nat) : (fuel : Nat) → Reader (List Statement)
  | 0 => unexpected
  | fuel + 1 => do
    match (← token).symbol with
    | .sign ":" => advance
    | _ =>
      let t ← token
      throw ⟨"SyntaxError", "expected ':'".toList, t.line, t.first, t.last⟩
    match (← token).symbol with
    | .lineEnd =>
      advance
      match (← token).symbol with
      | .deeper =>
        advance
        blockRest fuel
      | _ => missingBlock what line
    | _ => simpleLine fuel

/-- Reads statements up to the end of their block. -/
def blockRest : (fuel : Nat) → Reader (List Statement)
  | 0 => unexpected
  | fuel + 1 => do
    match (← token).symbol with
    | .shallower =>
      advance
      return []
    | .finish => return []
    | .lineEnd =>
      advance
      blockRest fuel
    | _ =>
      let first ← statement fuel
      return first ++ (← blockRest fuel)

/-- Reads the branches of a choice behind the first one. -/
def otherBranches : (fuel : Nat) → Reader (List (Expr × List Statement) × List Statement)
  | 0 => unexpected
  | fuel + 1 => do
    let t ← token
    if ← word? "elif" then
      let condition ← expression fuel
      let body ← block "'elif' statement" t.line fuel
      let (more, otherwise) ← otherBranches fuel
      return ((condition, body) :: more, otherwise)
    else if ← word? "else" then return ([], ← block "'else' statement" t.line fuel)
    else return ([], [])

/-- Reads the block that follows a word, if it comes next. -/
def optionalBlock (word : String) : (fuel : Nat) → Reader (List Statement)
  | 0 => unexpected
  | fuel + 1 => do
    let t ← token
    if ← word? word then block ("'" ++ word ++ "' statement") t.line fuel else return []

/-- Reads the handlers of failures. -/
def handlers : (fuel : Nat) → Reader (List Handler)
  | 0 => unexpected
  | fuel + 1 => do
    let t ← token
    if ← word? "except" then
      let kinds ← if ← expressionFollows then some <$> expressionList fuel else pure none
      let bound ← if ← word? "as" then some <$> name else pure none
      let body ← block "'except' statement" t.line fuel
      return .mk t.line kinds bound body :: (← handlers fuel)
    else return []

/-- Reads the files and the like that a block works within. -/
def withItems : (fuel : Nat) → Reader (List (Expr × Option Expr))
  | 0 => unexpected
  | fuel + 1 => do
    let e ← expression fuel
    let target ← if ← word? "as" then some <$> target fuel else pure none
    if ← sign? "," then
      if ← atSign ")" then return [(e, target)] else return (e, target) :: (← withItems fuel)
    else return [(e, target)]

/-- Reads a definition of a function or class behind what changes it. -/
def definition : (fuel : Nat) → (decorators : List Expr) → Reader Statement
  | 0, _ => unexpected
  | fuel + 1, decorators => do
    let t ← token
    let _ ← word? "async"
    if ← word? "def" then
      let n ← name
      expect "("
      let parameters ← parameterList fuel ")"
      expect ")"
      if ← sign? "->" then
        let _ ← conditional fuel
      let body ← block "function definition" t.line fuel
      return .function t.line n parameters body decorators
    else
      expectWord "class"
      let n ← name
      let bases ← if ← sign? "(" then argumentList fuel else pure []
      let body ← block "class definition" t.line fuel
      return .classes t.line n bases body decorators

/-- Reads what changes a definition, and the definition. -/
def decorated : (fuel : Nat) → Reader Statement
  | 0 => unexpected
  | fuel + 1 => do
    if ← sign? "@" then
      let e ← expression fuel
      match (← token).symbol with
      | .lineEnd => advance
      | _ => unexpected
      match ← decorated fuel with
      | .function line n parameters body more => return .function line n parameters body (e :: more)
      | .classes line n bases body more => return .classes line n bases body (e :: more)
      | s => return s
    else definition fuel []

/-- Reads a statement, or several on one line. -/
def statement : (fuel : Nat) → Reader (List Statement)
  | 0 => unexpected
  | fuel + 1 => do
    let t ← token
    match t.symbol with
    | .deeper => throw ⟨"IndentationError", "unexpected indent".toList, t.line, t.first + 1, t.first⟩
    | .name "if" =>
      advance
      let condition ← expression fuel
      let body ← block "'if' statement" t.line fuel
      let (more, otherwise) ← otherBranches fuel
      return [.choice t.line ((condition, body) :: more) otherwise]
    | .name "while" =>
      advance
      let condition ← expression fuel
      let body ← block "'while' statement" t.line fuel
      return [.loop t.line condition body (← optionalBlock "else" fuel)]
    | .name "for" =>
      advance
      let start ← token
      let target ← targetList fuel
      let span ← spanFrom start none
      expectWord "in"
      let items ← expressionList fuel
      let body ← block "'for' statement" t.line fuel
      return [.walk t.line span target items body (← optionalBlock "else" fuel)]
    | .name "try" =>
      advance
      let body ← block "'try' statement" t.line fuel
      let found ← handlers fuel
      let otherwise ← optionalBlock "else" fuel
      let finish ← optionalBlock "finally" fuel
      return [.attempt t.line body found otherwise finish]
    | .name "with" =>
      advance
      let s ← get
      let isOpen ← sign? "("
      let items : Option (List (Expr × Option Expr)) ←
        if isOpen then do
          let items ← withItems fuel
          if ← sign? ")" then
            if ← atSign ":" then pure (some items) else pure none
          else pure none
        else pure none
      let start ← token
      let items ← match items with
        | some items => pure items
        | none => do
          set s
          withItems fuel
      let span ← spanFrom start none
      let body ← block "'with' statement" t.line fuel
      return [.within span items body]
    | .name "def" | .name "class" | .name "async" | .sign "@" => return [← decorated fuel]
    | _ => simpleLine fuel

end

end Reader

/-- The brackets that are open behind some words. -/
def openBrackets (tokens : List Token) : List Token :=
  tokens.foldl (fun found t =>
    match t.symbol with
    | .sign s =>
      if ["(", "[", "\x7b"].contains s then t :: found
      else if [")", "]", "\x7d"].contains s then found.drop 1
      else found
    | _ => found) []

/-- A program that goes wrong in a line behind a bracket that is still open is wrong because of the bracket. -/
def SyntaxError.withBrackets (e : SyntaxError) (tokens : Array Token) : SyntaxError :=
  let before := tokens.toList.takeWhile fun t => t.line < e.line || (t.line = e.line && t.first ≤ e.first)
  match openBrackets before with
  | t :: _ =>
    match t.symbol with
    | .sign s =>
      if t.line < e.line && e.message = "invalid syntax".toList then
        ⟨"SyntaxError", ("'" ++ s ++ "' was never closed").toList, t.line, t.first, t.first + 1⟩
      else e
    | _ => e
  | [] => e

/-- A statement that returns from a function and stands outside of one. -/
def strayReturn? : (fuel : Nat) → Statement → Option Span
  | 0, _ => none
  | fuel + 1, s =>
    let inner : List Statement :=
      match s with
      | .choice _ branches otherwise => branches.flatMap (·.2) ++ otherwise
      | .loop _ _ body otherwise | .walk _ _ _ _ body otherwise => body ++ otherwise
      | .classes _ _ _ body _ | .within _ _ body => body
      | .attempt _ body handlers otherwise finish =>
        body ++ (handlers.flatMap fun handler =>
          match handler with
          | .mk _ _ _ body => body) ++ otherwise ++ finish
      | _ => []
    match s with
    | .returned span _ => some span
    | _ => inner.findSome? (strayReturn? fuel)

/-- The statements of a program. -/
def programOf (text : Text) : Except SyntaxError (List Statement) := do
  let (tokens, error) := Token.ofText 1 text
  let work : Reader (List Statement) := Reader.blockRest (20 * tokens.size + 1000)
  match work.run ⟨tokens, 0⟩, error with
  | .ok (statements, _), none =>
    match statements.findSome? (strayReturn? 100) with
    | some span =>
      throw ⟨"SyntaxError", "'return' outside function".toList, span.line, span.first,
        span.last.getD (span.first + 6)⟩
    | none => return statements
  | .ok _, some e => throw e
  | .error e, some other =>
    let isBefore := match tokens.back? with
      | some t => e.line < t.line || (e.line = t.line && e.first < t.first)
      | none => false
    throw (if isBefore then e.withBrackets tokens else other)
  | .error e, none => throw (e.withBrackets tokens)

/-- An expression that a text spells. -/
def expressionOf (text : Text) : Except SyntaxError Expr := do
  let tokens ← Token.ofExpression 1 0 text
  let work : Reader Expr := Reader.expressionList (20 * tokens.size + 1000)
  let (e, _) ← work.run ⟨tokens, 0⟩
  return e

end KDispatch.Shell.Indented
