import KDispatch.Shell.Arithmetic
import KDispatch.Shell.Extended.State

/-!
Arithmetic expressions of the extended shell. An expression is evaluated while it is read, and parts that
do not count are only read. The values of variables are expressions too, and so are the subscripts of lists.
-/

namespace KDispatch.Shell.Extended.Arithmetic

inductive Token where
  | finish
  | name
  | number
  | sign (sign : String)
  /-- A sign that is combined with an equals sign. -/
  | combined (sign : String)
  /-- One more or one less, before a variable. -/
  | before (more : Bool)
  deriving DecidableEq

/-- An expression while it is evaluated. -/
structure Evaluation where
  expression : Text
  rest : Text
  /-- The text from the last token on. -/
  shown : Text
  token : Token
  last : Token
  /-- The variable that has been read last, with its subscript. -/
  target : String × Option Text
  value : Int
  /-- How many surrounding parts do not count. -/
  idle : Nat

/-- Evaluation that fails after a message. -/
abbrev Work := StateT Evaluation (ExceptT Unit Command)

/-- How the texts inside an expression are evaluated. -/
abbrev Inner := Text → ExceptT Unit Command Int

def isSpace (c : Char) : Bool := c = ' ' || c = '\t' || c = '\n' || c = '\r'

namespace Work

def command {α : Type} (work : Command α) : Work α := liftM (m := Command) work

/-- Reports what is wrong with the expression. -/
def fail {α : Type} (message : String) : Work α := do
  let e ← get
  let text := e.expression.dropWhile fun c => c = ' ' || c = '\t'
  command (Command.warn (text ++ (": " ++ message ++ " (error token is \"").toList ++ e.shown ++ "\")".toList))
  throw ()

/-- The number that digits in some base spell. -/
def numberOf (text : Text) : Work Int := do
  let (base, found, digits) : Nat × Bool × Text := match text with
    | '0' :: x :: rest => if x = 'x' ∨ x = 'X' then (16, true, rest) else (8, true, x :: rest)
    | digits => (10, false, digits)
  let rec go : Text → (base : Nat) → (found : Bool) → (value : Int) → Work Int
    | [], _, _, value => return Number.wrap value
    | '#' :: rest, _, found, value => do
      if found then fail "invalid number"
      else if value < 2 || 64 < value then fail "invalid arithmetic base"
      else if rest.isEmpty then fail "invalid integer constant"
      else go rest value.toNat true 0
    | c :: rest, base, found, value => do
      let digit : Nat :=
        if c.isDigit then c.toNat - '0'.toNat
        else if c.isLower then c.toNat - 'a'.toNat + 10
        else if c.isUpper then c.toNat - 'A'.toNat + (if base ≤ 36 then 10 else 36)
        else if c = '@' then 62
        else 63
      if base ≤ digit then fail "value too great for base"
      else go rest base found (Number.wrap (value * base + digit))
  if base = 16 && digits.isEmpty then fail "invalid number"
  else go digits base found 0

end Work

/-- The key that a subscript stands for. -/
def keyOf (evaluate : Inner) (name : String) (content : Content) (subscript : Text) :
    ExceptT Unit Command Key := do
  match content with
  | .keyed _ _ => return .name subscript
  | _ =>
    let n ← evaluate subscript
    let index := if n < 0 then (content.nextIndex : Int) + n else n
    if index < 0 then
      (Command.warn (name.toList ++ '[' :: subscript ++ "]: bad array subscript".toList) : Command Unit)
      throw ()
    else return .index index.toNat

/-- The value of a variable or an element. -/
def valueOf (evaluate : Inner) (target : String × Option Text) : ExceptT Unit Command Int := do
  let name ← (Command.target target.1 : Command String)
  let entry ← (Command.binding? name : Command (Option Variable))
  let content := (entry.map (·.content)).getD (.single none)
  let value ← match target.2 with
    | none => pure content.value?
    | some subscript => do pure (content.get? (← keyOf evaluate name content subscript))
  let strict ← (Command.hasOption "nounset" : Command Bool)
  if strict && (if target.2.isSome then entry.isNone else value.isNone) then
    (Command.abort (target.1.toList ++ ": unbound variable".toList) : Command Unit)
  match value with
  | some text => if text.isEmpty then return 0 else evaluate text
  | none => return 0

/-- Sets a variable or an element. -/
def assign (evaluate : Inner) (target : String × Option Text) (value : Int) : ExceptT Unit Command Unit := do
  let name ← (Command.target target.1 : Command String)
  let entry ← (Command.binding? name : Command (Option Variable))
  let content := (entry.map (·.content)).getD (.single none)
  let key ← match target.2 with
    | none => pure none
    | some subscript => some <$> keyOf evaluate name content subscript
  if !(← (Command.store name key (Number.decimal value) : Command Bool)) then throw ()

/-- The text up to the bracket that closes a subscript, and the text after it. -/
def subscript? : Text → (depth : Nat) → Option (Text × Text)
  | [], _ => none
  | ']' :: rest, 0 => some ([], rest)
  | ']' :: rest, depth + 1 => (subscript? rest depth).map fun (s, rest) => (']' :: s, rest)
  | '[' :: rest, depth => (subscript? rest (depth + 1)).map fun (s, rest) => ('[' :: s, rest)
  | c :: rest, depth => (subscript? rest depth).map fun (s, rest) => (c :: s, rest)

/-- The signs of more than one character, longer ones first. -/
def longSigns : List String := ["==", "!=", ">=", "<=", "<<", ">>", "&&", "||", "**"]

/-- Whether a token is an operator, after which an operand has to come. -/
def Token.isOperator : Token → Bool
  | .finish | .sign _ | .combined _ => true
  | _ => false

/-- The token that begins with a sign, and the text after it. -/
def signToken (c : Char) (rest : Text) : Option (Token × Text) :=
  let text := c :: rest
  let next := rest.head?
  let combined? := ["<<=", ">>="].find? fun sign => sign.toList.isPrefixOf text
  match combined? with
  | some sign => some (.combined ((sign.dropEnd 1).toString), text.drop 3)
  | none =>
    match longSigns.find? fun sign => sign.toList.isPrefixOf text with
    | some sign => some (.sign sign, text.drop 2)
    | none =>
      if (c = '-' || c = '+') && next = some c then
        if (((rest.drop 1).dropWhile isSpace).head?.any isNameStart) then
          some (.before (c = '+'), rest.drop 1)
        else some (.sign (String.ofList [c]), rest)
      else if next = some '=' && "*/%+-&^|".toList.contains c then
        some (.combined (String.ofList [c]), rest.drop 1)
      else if "=><+-*/%!()&|^~?:,".toList.contains c then some (.sign (String.ofList [c]), rest)
      else none

/-- Whether a sign for an assignment comes next. -/
def peekAssignment (rest : Text) : Bool :=
  match rest.dropWhile isSpace with
  | '=' :: '=' :: _ => false
  | '=' :: _ => true
  | _ => false

/-- Reads the next token. -/
def advance (evaluate : Inner) : Work Unit := do
  let e ← get
  match e.rest.dropWhile isSpace with
  | [] => set { e with last := e.token, token := .finish, rest := [] }
  | c :: rest =>
    let text := c :: rest
    let e := { e with shown := text, rest := text }
    set e
    if isNameStart c then
      let name := text.takeWhile isNameChar
      let after := text.drop name.length
      let (subscript, after) ← match after with
        | '[' :: inner =>
          match subscript? inner 0 with
          | some (s, after) => pure (some s, after)
          | none => Work.fail "bad array subscript"
        | _ => pure (none, after)
      let target := (String.ofList name, subscript)
      let isBefore := match e.token with
        | .before _ => true
        | _ => false
      let value ←
        if e.idle = 0 && (isBefore || !peekAssignment after) then liftM (valueOf evaluate target)
        else pure 0
      modify fun e => { e with last := e.token, token := .name, target, value, rest := after }
    else if c.isDigit then
      let digits := text.takeWhile fun c => c.isAlphanum || c = '#' || c = '@' || c = '_'
      let value ← Work.numberOf digits
      set { e with last := e.token, token := .number, value, rest := text.drop digits.length }
    else
      match signToken c rest with
      | some (token, rest) => set { e with last := e.token, token, rest }
      | none =>
        Work.fail (if e.token.isOperator then "syntax error: operand expected"
          else "syntax error: invalid arithmetic operator")

/-- Reads a part that does not count if `skips` says so. -/
def idleIf {α : Type} (skips : Bool) (work : Work α) : Work α := do
  if skips then
    modify fun e => { e with idle := e.idle + 1 }
    let value ← work
    modify fun e => { e with idle := e.idle - 1 }
    return value
  else work

/-- The operators with two operands, from the loosest on. -/
def levels : List (List (String × Shell.Arithmetic.Operator)) :=
  [[("|", .bitOr)], [("^", .bitXor)], [("&", .bitAnd)], [("==", .equal), ("!=", .notEqual)],
    [("<=", .lessOrEqual), (">=", .greaterOrEqual), ("<", .less), (">", .greater)],
    [("<<", .shiftLeft), (">>", .shiftRight)], [("+", .add), ("-", .sub)]]

/-- The operator that a combined sign stands for. -/
def combinedOperator? (sign : String) : Option Shell.Arithmetic.Operator :=
  Shell.Arithmetic.Operator.ofSign? sign

/-- Marks what has been read as no variable. -/
def settle : Work Unit := modify fun e => { e with last := .number }

/-- A power with a natural exponent in 64 bits. -/
def power (base : Int) : (exponent : Nat) → Int
  | 0 => 1
  | n + 1 =>
    let half := power base ((n + 1) / 2)
    let square := Number.wrap (half * half)
    if (n + 1) % 2 = 1 then Number.wrap (square * base) else square
termination_by exponent => exponent
decreasing_by omega

mutual

/-- Expressions with commas between them; the last one counts. -/
def whole (evaluate : Inner) : (fuel : Nat) → Work Int
  | 0 => return 0
  | fuel + 1 => do
    let value ← assignment evaluate fuel
    if (← get).token = .sign "," then
      advance evaluate
      whole evaluate fuel
    else return value

def assignment (evaluate : Inner) : (fuel : Nat) → Work Int
  | 0 => return 0
  | fuel + 1 => do
    let value ← conditional evaluate fuel
    let e ← get
    let operator? : Option (Option Shell.Arithmetic.Operator) := match e.token with
      | .sign "=" => some none
      | .combined sign => (combinedOperator? sign).map some
      | _ => none
    match operator? with
    | none => return value
    | some operator =>
      if e.last ≠ .name then Work.fail "attempted assignment to non-variable"
      let target := e.target
      advance evaluate
      let right ← assignment evaluate fuel
      let idle := 0 < (← get).idle
      let result ← match operator with
        | none => pure right
        | some operator =>
          match operator.result? value right with
          | some n => pure n
          | none => if idle then pure 1 else Work.fail "division by 0"
      if !idle then liftM (assign evaluate target result)
      settle
      return result

def conditional (evaluate : Inner) : (fuel : Nat) → Work Int
  | 0 => return 0
  | fuel + 1 => do
    let condition ← disjunction evaluate fuel
    if (← get).token = .sign "?" then
      let needed : Work Unit := do
        if (← get).token = .finish then Work.fail "expression expected"
      let whenTrue ← idleIf (condition = 0) do
        advance evaluate
        needed
        whole evaluate fuel
      if (← get).token ≠ .sign ":" then
        Work.fail (String.ofList (Reader.marked [':']) ++ " expected for conditional expression")
      let whenFalse ← idleIf (condition ≠ 0) do
        advance evaluate
        needed
        conditional evaluate fuel
      settle
      return if condition ≠ 0 then whenTrue else whenFalse
    else return condition

def disjunction (evaluate : Inner) : (fuel : Nat) → Work Int
  | 0 => return 0
  | fuel + 1 => do
    let a ← conjunction evaluate fuel
    moreDisjunction evaluate fuel a

def moreDisjunction (evaluate : Inner) : (fuel : Nat) → (a : Int) → Work Int
  | 0, a => return a
  | fuel + 1, a => do
    if (← get).token = .sign "||" then
      let b ← idleIf (a ≠ 0) do
        advance evaluate
        conjunction evaluate fuel
      settle
      moreDisjunction evaluate fuel (if a ≠ 0 ∨ b ≠ 0 then 1 else 0)
    else return a

def conjunction (evaluate : Inner) : (fuel : Nat) → Work Int
  | 0 => return 0
  | fuel + 1 => do
    let a ← operations evaluate levels fuel
    moreConjunction evaluate fuel a

def moreConjunction (evaluate : Inner) : (fuel : Nat) → (a : Int) → Work Int
  | 0, a => return a
  | fuel + 1, a => do
    if (← get).token = .sign "&&" then
      let b ← idleIf (a = 0) do
        advance evaluate
        operations evaluate levels fuel
      settle
      moreConjunction evaluate fuel (if a ≠ 0 ∧ b ≠ 0 then 1 else 0)
    else return a

/-- Operations of some levels, from the loosest on. -/
def operations (evaluate : Inner) : List (List (String × Shell.Arithmetic.Operator)) → (fuel : Nat) → Work Int
  | _, 0 => return 0
  | [], fuel + 1 => do
    let a ← powers evaluate fuel
    moreProducts evaluate fuel a
  | level :: tighter, fuel + 1 => do
    let a ← operations evaluate tighter fuel
    moreOperations evaluate level tighter fuel a

/-- The further operands of a level. -/
def moreOperations (evaluate : Inner) (level : List (String × Shell.Arithmetic.Operator))
    (tighter : List (List (String × Shell.Arithmetic.Operator))) : (fuel : Nat) → (a : Int) → Work Int
  | 0, a => return a
  | fuel + 1, a => do
    let operator? := match (← get).token with
      | .sign sign => level.lookup sign
      | _ => none
    match operator? with
    | none => return a
    | some operator =>
      advance evaluate
      let b ← operations evaluate tighter fuel
      settle
      moreOperations evaluate level tighter fuel ((operator.result? a b).getD 0)

/-- The further factors of a product. -/
def moreProducts (evaluate : Inner) : (fuel : Nat) → (a : Int) → Work Int
  | 0, a => return a
  | fuel + 1, a => do
    let e ← get
    let operator? : Option Shell.Arithmetic.Operator := match e.token with
      | .sign "*" => some .mul
      | .sign "/" => some .div
      | .sign "%" => some .rem
      | _ => none
    match operator? with
    | none => return a
    | some operator =>
      advance evaluate
      let b ← powers evaluate fuel
      settle
      match operator.result? a b with
      | some n => moreProducts evaluate fuel n
      | none =>
        if 0 < (← get).idle then moreProducts evaluate fuel a
        else
          modify fun now => { now with shown := e.rest.dropWhile fun c => c = ' ' || c = '\t' }
          Work.fail "division by 0"

def powers (evaluate : Inner) : (fuel : Nat) → Work Int
  | 0 => return 0
  | fuel + 1 => do
    let a ← unary evaluate fuel
    if (← get).token = .sign "**" then
      advance evaluate
      let b ← powers evaluate fuel
      settle
      if b < 0 then Work.fail "exponent less than 0"
      return power a b.toNat
    else return a

def unary (evaluate : Inner) : (fuel : Nat) → Work Int
  | 0 => return 0
  | fuel + 1 => do
    let operand : Work Int := do
      advance evaluate
      let n ← unary evaluate fuel
      settle
      return n
    match (← get).token with
    | .sign "!" => return if (← operand) = 0 then 1 else 0
    | .sign "~" => return Number.wrap (-(← operand) - 1)
    | .sign "-" => return Number.wrap (-(← operand))
    | .sign "+" => operand
    | _ => primary evaluate fuel

def primary (evaluate : Inner) : (fuel : Nat) → Work Int
  | 0 => return 0
  | fuel + 1 => do
    let e ← get
    match e.token with
    | .before more =>
      advance evaluate
      let now ← get
      if now.token ≠ .name then Work.fail "identifier expected after pre-increment or pre-decrement"
      let value := Number.wrap (now.value + (if more then 1 else -1))
      if now.idle = 0 then liftM (assign evaluate now.target value)
      modify fun e => { e with token := .number }
      advance evaluate
      return value
    | .sign "(" =>
      advance evaluate
      let value ← whole evaluate fuel
      if (← get).token ≠ .sign ")" then Work.fail ("missing " ++ String.ofList (Reader.marked [')']))
      advance evaluate
      return value
    | .number =>
      advance evaluate
      return e.value
    | .name =>
      let follows := match e.rest.dropWhile isSpace with
        | '+' :: '+' :: rest => some (true, rest)
        | '-' :: '-' :: rest => some (false, rest)
        | _ => none
      match follows with
      | some (more, rest) =>
        if e.idle = 0 then
          liftM (assign evaluate e.target (Number.wrap (e.value + (if more then 1 else -1))))
        modify fun e => { e with last := .name, token := .number, rest }
        advance evaluate
        return e.value
      | none =>
        advance evaluate
        return e.value
    | _ => Work.fail "syntax error: operand expected"

end

/-- The value of an expression, to a depth of values that are expressions themselves. -/
def valueAt : (depth : Nat) → Inner
  | 0, text => do
    (Command.warn (text ++ ": expression recursion level exceeded (error token is \"".toList ++ text ++
      "\")".toList) : Command Unit)
    throw ()
  | depth + 1, text =>
    if text.all isSpace then return 0
    else do
      let inner : Inner := fun text => valueAt depth text
      let work : Work Int := do
        advance inner
        let value ← whole inner (40 * text.length + 40)
        if (← get).token ≠ .finish then Work.fail "syntax error in expression"
        return value
      let (value, _) ← work.run ⟨text, text, [], .finish, .finish, ("", none), 0, 0⟩
      return value

/-- The value of an expression; a mistake in it has been reported. -/
def evaluate? (text : Text) : Command (Option Int) := do
  match ← (valueAt 1024 text).run with
  | .ok value => return some value
  | .error () => return none

/-- The value of an expression; a mistake in it gives up the complete command. -/
def evaluate (text : Text) : Command Int := do
  match ← evaluate? text with
  | some value => return value
  | none =>
    Command.setStatus 1
    throw .discard

end KDispatch.Shell.Extended.Arithmetic
