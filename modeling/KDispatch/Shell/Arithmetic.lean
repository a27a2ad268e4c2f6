import KDispatch.Shell.Number
import KDispatch.Shell.Syntax

/-!
Integer expressions with the operators of C on 64-bit numbers. A text is cut into tokens, these make an
expression, and evaluating it reads and sets vars.
-/

namespace KDispatch.Shell.Arithmetic

inductive Operator where
  | mul | div | rem | add | sub | shiftLeft | shiftRight
  | less | lessOrEqual | greater | greaterOrEqual | equal | notEqual
  | bitAnd | bitXor | bitOr
  deriving DecidableEq

namespace Operator

/-- How tightly an operator binds; smaller numbers bind more tightly. -/
def rank : Operator → Nat
  | .mul | .div | .rem => 0
  | .add | .sub => 1
  | .shiftLeft | .shiftRight => 2
  | .less | .lessOrEqual | .greater | .greaterOrEqual => 3
  | .equal | .notEqual => 4
  | .bitAnd => 5
  | .bitXor => 6
  | .bitOr => 7

def ofSign? : String → Option Operator
  | "*" => some .mul
  | "/" => some .div
  | "%" => some .rem
  | "+" => some .add
  | "-" => some .sub
  | "<<" => some .shiftLeft
  | ">>" => some .shiftRight
  | "<" => some .less
  | "<=" => some .lessOrEqual
  | ">" => some .greater
  | ">=" => some .greaterOrEqual
  | "==" => some .equal
  | "!=" => some .notEqual
  | "&" => some .bitAnd
  | "^" => some .bitXor
  | "|" => some .bitOr
  | _ => none

/-- The operator that an assignment sign combines with. -/
def ofAssignment? : String → Option Operator
  | "*=" => some .mul
  | "/=" => some .div
  | "%=" => some .rem
  | "+=" => some .add
  | "-=" => some .sub
  | "<<=" => some .shiftLeft
  | ">>=" => some .shiftRight
  | "&=" => some .bitAnd
  | "^=" => some .bitXor
  | "|=" => some .bitOr
  | _ => none

def truth (b : Bool) : Int := if b then 1 else 0

/-- A combination of the bits of two numbers. -/
def bitwise (f : Nat → Nat → Nat) (a b : Int) : Int :=
  Number.wrap (f (Number.bits a) (Number.bits b))

/-- The result of an operator; there is none for a division by zero. -/
def result? (a b : Int) : Operator → Option Int
  | .mul => some (Number.wrap (a * b))
  | .div => if b = 0 then none else some (Number.wrap (a.tdiv b))
  | .rem => if b = 0 then none else some (Number.wrap (a.tmod b))
  | .add => some (Number.wrap (a + b))
  | .sub => some (Number.wrap (a - b))
  | .shiftLeft => some (Number.wrap (a * twoTo (Number.bits b % 64)))
  | .shiftRight => some (a.fdiv (twoTo (Number.bits b % 64)))
  | .less => some (truth (a < b))
  | .lessOrEqual => some (truth (a ≤ b))
  | .greater => some (truth (b < a))
  | .greaterOrEqual => some (truth (b ≤ a))
  | .equal => some (truth (a = b))
  | .notEqual => some (truth (a ≠ b))
  | .bitAnd => some (bitwise Nat.land a b)
  | .bitXor => some (bitwise Nat.xor a b)
  | .bitOr => some (bitwise Nat.lor a b)

end Operator

inductive Token where
  | number (n : Int)
  | name (name : String)
  | sign (sign : String)
  | unknown
  deriving DecidableEq

/-- The signs, longer ones before those that they begin with. -/
def signs : List String :=
  ["<<=", ">>=", "<<", ">>", "<=", ">=", "==", "!=", "&&", "||", "*=", "/=", "%=", "+=", "-=", "&=",
    "^=", "|=", "=", "<", ">", "!", "&", "|", "*", "/", "%", "+", "-", "^", "~", "(", ")", "?", ":"]

/-- The tokens of a text, up to the first character that has no meaning. -/
def tokens : (fuel : Nat) → Text → List Token
  | 0, _ => []
  | _ + 1, [] => []
  | fuel + 1, c :: rest =>
    if c = ' ' ∨ c = '\t' ∨ c = '\n' then tokens fuel rest
    else if c.isDigit then
      match Number.unsigned? none (c :: rest) with
      | some (n, after) => .number (Number.clamp n) :: tokens fuel after
      | none => [.unknown]
    else if isNameStart c then
      let name := (c :: rest).takeWhile isNameChar
      .name (String.ofList name) :: tokens fuel ((c :: rest).drop name.length)
    else
      match signs.find? fun sign => sign.toList.isPrefixOf (c :: rest) with
      | some sign => .sign sign :: tokens fuel ((c :: rest).drop sign.length)
      | none => [.unknown]

inductive Expression where
  | number (n : Int)
  | variable (name : String)
  | negative (e : Expression)
  | not (e : Expression)
  | complement (e : Expression)
  | binary (operator : Operator) (a b : Expression)
  | and (a b : Expression)
  | or (a b : Expression)
  | choice (condition whenTrue whenFalse : Expression)
  | assign (name : String) (operator : Option Operator) (e : Expression)

/-- What is wrong with a text that is no expression. -/
abbrev Parse := List Token → Except String (Expression × List Token)

mutual

/-- An assignment, or an expression without one. -/
def assignment : (fuel : Nat) → Parse
  | 0, _ => .error "expecting primary"
  | fuel + 1, tokens =>
    match tokens with
    | .name name :: .sign sign :: rest =>
      if sign = "=" then do
        let (value, rest) ← assignment fuel rest
        return (.assign name none value, rest)
      else
        match Operator.ofAssignment? sign with
        | some operator => do
          let (value, rest) ← assignment fuel rest
          return (.assign name (some operator) value, rest)
        | none => conditional fuel tokens
    | _ => conditional fuel tokens

def conditional : (fuel : Nat) → Parse
  | 0, _ => .error "expecting primary"
  | fuel + 1, tokens => do
    let (condition, rest) ← disjunction fuel tokens
    match rest with
    | .sign "?" :: rest =>
      let (whenTrue, rest) ← assignment fuel rest
      match rest with
      | .sign ":" :: rest =>
        let (whenFalse, rest) ← conditional fuel rest
        return (.choice condition whenTrue whenFalse, rest)
      | _ => .error "expecting ':'"
    | _ => return (condition, rest)

def disjunction : (fuel : Nat) → Parse
  | 0, _ => .error "expecting primary"
  | fuel + 1, tokens => do
    let (a, rest) ← conjunction fuel tokens
    match rest with
    | .sign "||" :: rest =>
      let (b, rest) ← disjunction fuel rest
      return (.or a b, rest)
    | _ => return (a, rest)

def conjunction : (fuel : Nat) → Parse
  | 0, _ => .error "expecting primary"
  | fuel + 1, tokens => do
    let (a, rest) ← primary fuel tokens
    let (a, rest) ← operations fuel 8 a rest
    match rest with
    | .sign "&&" :: rest =>
      let (b, rest) ← conjunction fuel rest
      return (.and a b, rest)
    | _ => return (a, rest)

/-- The operations on what has been read that bind more tightly than the given rank. -/
def operations : (fuel : Nat) → (limit : Nat) → Expression → Parse
  | 0, _, _, _ => .error "expecting primary"
  | fuel + 1, limit, a, tokens =>
    match tokens with
    | .sign sign :: rest =>
      match Operator.ofSign? sign with
      | some operator =>
        if operator.rank < limit then do
          let (b, rest) ← primary fuel rest
          let (b, rest) ← operations fuel operator.rank b rest
          operations fuel limit (.binary operator a b) rest
        else .ok (a, tokens)
      | none => .ok (a, tokens)
    | _ => .ok (a, tokens)

def primary : (fuel : Nat) → Parse
  | 0, _ => .error "expecting primary"
  | fuel + 1, tokens =>
    match tokens with
    | .number n :: rest => .ok (.number n, rest)
    | .name name :: rest => .ok (.variable name, rest)
    | .sign "(" :: rest => do
      let (e, rest) ← assignment fuel rest
      match rest with
      | .sign ")" :: rest => return (e, rest)
      | _ => .error "expecting ')'"
    | .sign "+" :: rest => primary fuel rest
    | .sign "-" :: rest => do
      let (e, rest) ← primary fuel rest
      return (.negative e, rest)
    | .sign "!" :: rest => do
      let (e, rest) ← primary fuel rest
      return (.not e, rest)
    | .sign "~" :: rest => do
      let (e, rest) ← primary fuel rest
      return (.complement e, rest)
    | _ => .error "expecting primary"

end

/-- The expression that a text is. -/
def parse (text : Text) : Except String Expression := do
  let tokens := tokens (text.length + 1) text
  let (e, rest) ← assignment (8 * tokens.length + 8) tokens
  if rest.isEmpty then return e else .error "expecting EOF"

/-- How vars are read and set, and what is done about a division by zero. -/
structure Variables (m : Type → Type) where
  value : String → m Int
  assign : String → Int → m Int
  divisionByZero : m Int

/-- The value of an expression. -/
def Expression.eval {m : Type → Type} [Monad m] (vars : Variables m) : Expression → m Int
  | .number n => pure n
  | .variable name => vars.value name
  | .negative e => do return Number.wrap (-(← e.eval vars))
  | .not e => do return Operator.truth ((← e.eval vars) = 0)
  | .complement e => do return Number.wrap (-(← e.eval vars) - 1)
  | .binary operator a b => do
    let a ← a.eval vars
    let b ← b.eval vars
    match operator.result? a b with
    | some n => pure n
    | none => vars.divisionByZero
  | .and a b => do
    if (← a.eval vars) = 0 then pure 0
    else return Operator.truth ((← b.eval vars) ≠ 0)
  | .or a b => do
    if (← a.eval vars) ≠ 0 then pure 1
    else return Operator.truth ((← b.eval vars) ≠ 0)
  | .choice condition whenTrue whenFalse => do
    if (← condition.eval vars) ≠ 0 then whenTrue.eval vars
    else whenFalse.eval vars
  | .assign name operator e => do
    let b ← e.eval vars
    match operator with
    | none => vars.assign name b
    | some operator =>
      let a ← vars.value name
      match operator.result? a b with
      | some n => vars.assign name n
      | none => vars.divisionByZero

end KDispatch.Shell.Arithmetic
