import KDispatch.Shell.Utility.Records.Syntax
import KDispatch.Shell.Utility.Records.Table

/-!
Reading programs. Operators bind, from the loosest on: assignment, choice, `||`, `&&`, `in`, matching,
comparison, joining, sums, products, signs, powers, counting, fields.
-/

namespace KDispatch.Shell.Records

/-- A use of a name that shows whether it is a table. -/
structure Sighting where
  name : String
  isTable : Bool
  line : Nat

/-- A call of a routine. -/
structure CallSite where
  routine : String
  line : Nat
  arguments : List Expr

/-- Where reading a program has come to. -/
structure Reading where
  token : Token
  /-- The text from the token on. -/
  start : Text
  /-- The text behind the token. -/
  rest : Text
  line : Nat
  /-- Whether a sign for output ends an expression. -/
  printing : Bool
  /-- How many brackets are open. -/
  depth : Nat
  loops : Nat
  /-- The routine at hand. -/
  routine : Option String
  /-- Whether records are at hand. -/
  hasRecords : Bool
  /-- The number of the next pattern with two tests. -/
  ranges : Nat
  /-- The names of the routines so far. -/
  defined : List String
  /-- The parameters of the routine at hand. -/
  parameters : List String
  /-- The calls so far, the last one first. -/
  calls : List CallSite
  /-- What has been seen of names outside routines' parameters, the last one first. -/
  sightings : List Sighting
  /-- What has been seen of the parameters of the routine at hand. -/
  localSightings : List Sighting

abbrev Reader := StateT Reading (Except Mistake)

namespace Reader

def failAt {α : Type} (line : Nat) (message : Text) : Reader α := throw ⟨line, message⟩

def fail {α : Type} (message : Text) : Reader α := do failAt (← get).line message

/-- Fails at the token that is next. -/
def unexpected {α : Type} : Reader α := do
  let s ← get
  let isClosing := s.token.isSign ")"
  if isClosing && s.depth = 0 then fail "extra ')'".toList
  else fail ("syntax error at or near ".toList ++ s.token.cited)

/-- Puts the token at the start of a text in place. -/
def scan (text : Text) (line : Nat) : Reader Unit := do
  let (lines, start) := skipBlanks text
  let line := line + lines
  match nextToken start with
  | .ok (token, rest) => modify fun s => { s with token, start, rest, line }
  | .error [] =>
    let shown := start.take 1
    throw ⟨0, decimalText line ++ ": unexpected character '".toList ++ shown ++ ['\'']⟩
  | .error message => failAt line message
where
  decimalText (n : Nat) : Text := (toString n).toList

/-- Goes on to the next token. -/
def advance : Reader Unit := do
  let s ← get
  let line := match s.token with
    | .lineEnd => s.line + 1
    | .text _ => s.line + (s.start.take (s.start.length - s.rest.length)).count '\n'
    | _ => s.line
  let depth := match s.token with
    | .sign "(" => s.depth + 1
    | .sign ")" => s.depth - 1
    | _ => s.depth
  set { s with depth }
  scan s.rest line

def peek : Reader Token := return (← get).token

/-- Goes past a sign if it is next. -/
def skipSign (sign : String) : Reader Bool := do
  if (← peek).isSign sign then
    advance
    return true
  else return false

def skipKeyword (name : String) : Reader Bool := do
  if (← peek).isKeyword name then
    advance
    return true
  else return false

/-- Goes past a sign, which has to be next. -/
def expectSign (sign : String) : Reader Unit := do
  if !(← skipSign sign) then
    if sign = ")" then
      match ← peek with
      | .lineEnd | .finish | .sign ";" | .sign "\x7b" | .sign "\x7d" =>
        fail ("missing ) near ".toList ++ (← peek).cited)
      | _ => unexpected
    else unexpected

/-- Goes past line ends. -/
def skipLines : (fuel : Nat) → Reader Unit
  | 0 => return
  | fuel + 1 => do
    match ← peek with
    | .lineEnd =>
      advance
      skipLines fuel
    | _ => return

/-- A bound for the tokens left. -/
def bound : Reader Nat := return (← get).rest.length + 2

def skipAllLines : Reader Unit := do skipLines (← bound)

/-- Does work between brackets, where signs for output are comparisons. -/
def within {α : Type} (work : Reader α) : Reader α := do
  let s ← get
  set { s with printing := false }
  let value ← work
  modify fun now => { now with printing := s.printing }
  return value

/-- Notes a use of a name. -/
def see (name : String) (isTable : Bool) : Reader Unit :=
  modify fun s =>
    let sighting : Sighting := ⟨name, isTable, s.line⟩
    if s.parameters.contains name then { s with localSightings := sighting :: s.localSightings }
    else { s with sightings := sighting :: s.sightings }

/-- Takes back what the last use of a name has shown, for names that stand alone as arguments. -/
def unsee : Expr → Reader Unit
  | .variable name =>
    modify fun s =>
      if s.parameters.contains name then { s with localSightings := s.localSightings.drop 1 }
      else { s with sightings := s.sightings.drop 1 }
  | _ => return

end Reader

open KDispatch.Shell.Records.Reader

/-- What may be assigned to. -/
def Expr.isTarget : Expr → Bool
  | .variable _ | .element _ _ | .field _ => true
  | _ => false

/-- The operation of an assignment sign. -/
def assignmentOf? : Token → Option (Option Operation)
  | .sign "=" => some none
  | .sign "+=" => some (some .add)
  | .sign "-=" => some (some .subtract)
  | .sign "*=" => some (some .multiply)
  | .sign "/=" => some (some .divide)
  | .sign "%=" => some (some .remainder)
  | .sign "^=" => some (some .power)
  | _ => none

def comparisonOf? (printing : Bool) : Token → Option Comparison
  | .sign "==" => some .equal
  | .sign "!=" => some .unequal
  | .sign "<" => some .less
  | .sign "<=" => some .lessOrEqual
  | .sign ">" => if printing then none else some .greater
  | .sign ">=" => some .greaterOrEqual
  | _ => none

/-- Whether an operand that is joined may begin with a token. -/
def beginsOperand : Token → Bool
  | .number _ _ | .text _ | .name _ | .callee _ | .function _ _ => true
  | .sign sign => ["(", "$", "!", "-", "+", "++", "--"].contains sign
  | _ => false

/-- Compiles a constant that is matched with. -/
def asPattern (e : Expr) : Reader Expr := do
  match e with
  | .text content =>
    match Matcher.ofText content with
    | .ok matcher => return .regex matcher
    | .error reason => fail (Matcher.complaint content reason)
  | e => return e

/-- Reads the name of a table. -/
def tableName : Reader String := do
  match ← peek with
  | .name array =>
    advance
    see array true
    return array
  | _ => unexpected

/-- How many arguments a function takes. -/
def argumentCounts : Function → Nat × Nat
  | .length => (0, 1)
  | .substring => (2, 3)
  | .index => (2, 2)
  | .split => (2, 3)
  | .sub | .gsub => (2, 3)
  | .find => (2, 2)
  | .format => (1, 1000000)
  | .sine | .cosine | .exponential | .logarithm | .root | .whole => (1, 1)
  | .arctangent => (2, 2)
  | .random => (0, 0)
  | .seed => (0, 1)
  | .lower | .upper => (1, 1)
  | .system | .close => (1, 1)
  | .flush => (0, 1)
  | .now => (0, 0)
  | .calendar => (0, 3)
  | .instant => (1, 1)

mutual

/-- An expression; assignments bind most loosely. -/
def expression : (fuel : Nat) → Reader Expr
  | 0 => unexpected
  | fuel + 1 => do
    let e ← alternative fuel
    match assignmentOf? (← peek) with
    | some operation =>
      if e.isTarget then
        advance
        return .assign operation e (← expression fuel)
      else unexpected
    | none =>
      if ← skipSign "?" then
        skipAllLines
        let whenTrue ← expression fuel
        skipAllLines
        expectSign ":"
        skipAllLines
        return .choice e whenTrue (← expression fuel)
      else return e

def alternative : (fuel : Nat) → Reader Expr
  | 0 => unexpected
  | fuel + 1 => do alternativeTail fuel (← conjunction fuel)

def alternativeTail : (fuel : Nat) → Expr → Reader Expr
  | 0, e => return e
  | fuel + 1, e => do
    if ← skipSign "||" then
      skipAllLines
      alternativeTail fuel (.either e (← conjunction fuel))
    else return e

def conjunction : (fuel : Nat) → Reader Expr
  | 0 => unexpected
  | fuel + 1 => do conjunctionTail fuel (← membership fuel)

def conjunctionTail : (fuel : Nat) → Expr → Reader Expr
  | 0, e => return e
  | fuel + 1, e => do
    if ← skipSign "&&" then
      skipAllLines
      conjunctionTail fuel (.both e (← membership fuel))
    else return e

def membership : (fuel : Nat) → Reader Expr
  | 0 => unexpected
  | fuel + 1 => do membershipTail fuel (← matching fuel)

def membershipTail : (fuel : Nat) → Expr → Reader Expr
  | 0, e => return e
  | fuel + 1, e => do
    if ← skipKeyword "in" then
      let array ← tableName
      let e ← comparingTail fuel (.member [e] array)
      membershipTail fuel (← matchingTail fuel e)
    else return e

def matching : (fuel : Nat) → Reader Expr
  | 0 => unexpected
  | fuel + 1 => do matchingTail fuel (← comparing fuel)

def matchingTail : (fuel : Nat) → Expr → Reader Expr
  | 0, e => return e
  | fuel + 1, e => do
    match ← peek with
    | .sign "~" =>
      advance
      matchingTail fuel (.found true e (← asPattern (← comparing fuel)))
    | .sign "!~" =>
      advance
      matchingTail fuel (.found false e (← asPattern (← comparing fuel)))
    | _ => return e

def comparing : (fuel : Nat) → Reader Expr
  | 0 => unexpected
  | fuel + 1 => do comparingTail fuel (← joining fuel)

def comparingTail : (fuel : Nat) → Expr → Reader Expr
  | 0, e => return e
  | fuel + 1, e => do
    let s ← get
    match comparisonOf? s.printing s.token with
    | some comparison =>
      advance
      comparingTail fuel (.compared comparison e (← joining fuel))
    | none => return e

/-- Operands one after the other; one that is assigned to takes all that follows. -/
def joining : (fuel : Nat) → Reader Expr
  | 0 => unexpected
  | fuel + 1 => do
    let e ← sum fuel
    match assignmentOf? (← peek) with
    | some operation =>
      if e.isTarget then
        advance
        return .assign operation e (← expression fuel)
      else return e
    | none => joiningTail fuel e

def joiningTail : (fuel : Nat) → Expr → Reader Expr
  | 0, e => return e
  | fuel + 1, e => do
    if beginsOperand (← peek) then joiningTail fuel (.joined e (← sum fuel)) else return e

def sum : (fuel : Nat) → Reader Expr
  | 0 => unexpected
  | fuel + 1 => do sumTail fuel (← product fuel)

def sumTail : (fuel : Nat) → Expr → Reader Expr
  | 0, e => return e
  | fuel + 1, e => do
    match ← peek with
    | .sign "+" =>
      advance
      sumTail fuel (.binary .add e (← product fuel))
    | .sign "-" =>
      advance
      sumTail fuel (.binary .subtract e (← product fuel))
    | _ => return e

def product : (fuel : Nat) → Reader Expr
  | 0 => unexpected
  | fuel + 1 => do productTail fuel (← signed fuel)

def productTail : (fuel : Nat) → Expr → Reader Expr
  | 0, e => return e
  | fuel + 1, e => do
    match ← peek with
    | .sign "*" =>
      advance
      productTail fuel (.binary .multiply e (← signed fuel))
    | .sign "/" =>
      advance
      productTail fuel (.binary .divide e (← signed fuel))
    | .sign "%" =>
      advance
      productTail fuel (.binary .remainder e (← signed fuel))
    | _ => return e

def signed : (fuel : Nat) → Reader Expr
  | 0 => unexpected
  | fuel + 1 => do
    match ← peek with
    | .sign "!" =>
      advance
      return .not (← signed fuel)
    | .sign "-" =>
      advance
      return .negated (← signed fuel)
    | .sign "+" =>
      advance
      return .plus (← signed fuel)
    | _ => readingTail fuel (← power fuel)

/-- Input from a command, behind the command. -/
def readingTail : (fuel : Nat) → Expr → Reader Expr
  | 0, e => return e
  | fuel + 1, e => do
    let s ← get
    if s.token.isSign "|" && !s.printing then
      advance
      if ← skipKeyword "getline" then
        let target ← target? fuel
        readingTail fuel (.read .command (some e) target)
      else unexpected
    else return e

def power : (fuel : Nat) → Reader Expr
  | 0 => unexpected
  | fuel + 1 => do
    let e ← counted fuel
    if ← skipSign "^" then
      let exponent ← powerOperand fuel
      return .binary .power e exponent
    else return e

/-- The operand on the right of a power, which may have signs. -/
def powerOperand : (fuel : Nat) → Reader Expr
  | 0 => unexpected
  | fuel + 1 => do
    match ← peek with
    | .sign "-" =>
      advance
      return .negated (← powerOperand fuel)
    | .sign "+" =>
      advance
      return .plus (← powerOperand fuel)
    | .sign "!" =>
      advance
      return .not (← powerOperand fuel)
    | _ => power fuel

def counted : (fuel : Nat) → Reader Expr
  | 0 => unexpected
  | fuel + 1 => do
    match ← peek with
    | .sign "++" =>
      advance
      let target ← operand fuel
      if target.isTarget then return .step true false target else unexpected
    | .sign "--" =>
      advance
      let target ← operand fuel
      if target.isTarget then return .step false false target else unexpected
    | _ =>
      let e ← operand fuel
      if e.isTarget then
        if ← skipSign "++" then return .step true true e
        else if ← skipSign "--" then return .step false true e
        else return e
      else return e

/-- What a record is read into, if it is given. -/
def target? : (fuel : Nat) → Reader (Option Expr)
  | 0 => return none
  | fuel + 1 => do
    match ← peek with
    | .name _ | .sign "$" => return some (← operand fuel)
    | _ => return none

/-- Expressions with commas between them. -/
def expressions : (fuel : Nat) → Reader (List Expr)
  | 0 => unexpected
  | fuel + 1 => do
    let e ← expression fuel
    if ← skipSign "," then
      skipAllLines
      return e :: (← expressions fuel)
    else return [e]

/-- Arguments in brackets, from the opening one on. -/
def arguments : (fuel : Nat) → Reader (List Expr)
  | 0 => unexpected
  | fuel + 1 => do
    expectSign "("
    if ← skipSign ")" then return []
    skipAllLines
    let list ← within (expressions fuel)
    skipAllLines
    expectSign ")"
    return list

/-- The arguments of a function that come after a table. -/
def argumentsAfterTable : (fuel : Nat) → Reader (List Expr)
  | 0 => unexpected
  | fuel + 1 => do
    expectSign "("
    let text ← within (expression fuel)
    expectSign ","
    skipAllLines
    let array ← tableName
    let more ←
      if ← skipSign "," then do
        skipAllLines
        pure [← within (expression fuel)]
      else pure []
    expectSign ")"
    return text :: .variable array :: more

/-- A use of a function of the language, behind its name. -/
def application : (fuel : Nat) → Function → (name : String) → Reader Expr
  | 0, _, _ => unexpected
  | fuel + 1, f, name => do
    let isOpen := (← peek).isSign "("
    match f with
    | .length =>
      if isOpen then
        let list ← arguments fuel
        if 1 < list.length then fail ("syntax error at or near ,".toList)
        if let [e] := list then unsee e
        return .apply f list
      else return .apply f []
    | .flush => if isOpen then return .apply f (← arguments fuel) else return .apply f []
    | .split => return .apply f (← argumentsAfterTable fuel)
    | .sub | .gsub =>
      expectSign "("
      let pattern ← asPattern (← within (expression fuel))
      expectSign ","
      skipAllLines
      let replacement ← within (expression fuel)
      let target ←
        if ← skipSign "," then do
          skipAllLines
          let before ← get
          let target ← within (operand fuel)
          if !target.isTarget then
            set before
            unexpected
          pure target
        else pure (.field (.number 0))
      expectSign ")"
      return .apply f [pattern, replacement, target]
    | .find =>
      let list ← arguments fuel
      match list with
      | [text, pattern] => return .apply f [text, ← asPattern pattern]
      | _ => wrongNumber name
    | _ =>
      let list ← arguments fuel
      let (least, most) := argumentCounts f
      if list.length < least || most < list.length then wrongNumber name
      else return .apply f list

/-- A call of a routine, behind its name. -/
def calling : (fuel : Nat) → (name : String) → Reader Expr
  | 0, _ => unexpected
  | fuel + 1, name => do
    let line := (← get).line
    expectSign "("
    skipAllLines
    let list ← if ← skipSign ")" then pure [] else do
      let list ← within (callArguments fuel)
      skipAllLines
      expectSign ")"
      pure list
    modify fun s => { s with calls := ⟨name, line, list⟩ :: s.calls }
    return .call name list

/-- The arguments of a routine, among which names that stand alone may be tables. -/
def callArguments : (fuel : Nat) → Reader (List Expr)
  | 0 => unexpected
  | fuel + 1 => do
    let e ← expression fuel
    unsee e
    if ← skipSign "," then
      skipAllLines
      return e :: (← callArguments fuel)
    else return [e]

/-- Refuses a number of arguments. -/
def wrongNumber (name : String) : Reader Expr :=
  fail (("wrong number of arguments in call to " ++ name).toList)

/-- An operand that nothing binds more tightly than. -/
def operand : (fuel : Nat) → Reader Expr
  | 0 => unexpected
  | fuel + 1 => do
    let s ← get
    match s.token with
    | .number value _ =>
      advance
      return .number value
    | .text content =>
      advance
      return .text content
    | .name name =>
      advance
      if ← skipSign "[" then
        let subscripts ← within (expressions fuel)
        expectSign "]"
        see name true
        return .element name subscripts
      else
        let isCall := s.defined.contains name && (← peek).isSign "("
        if isCall then calling fuel name
        else
          see name false
          return .variable name
    | .callee name =>
      advance
      calling fuel name
    | .function f name =>
      advance
      application fuel f name
    | .keyword "getline" =>
      advance
      let target ← target? fuel
      if ← skipSign "<" then
        return .read .file (some (← counted fuel)) target
      else return .read .main none target
    | .sign "$" =>
      advance
      match ← peek with
      | .sign "++" | .sign "--" => return .field (← counted fuel)
      | .sign "-" =>
        advance
        return .field (.negated (← operand fuel))
      | .sign "+" =>
        advance
        return .field (.plus (← operand fuel))
      | .sign "!" =>
        advance
        return .field (.not (← operand fuel))
      | _ => return .field (← operand fuel)
    | .sign "(" =>
      advance
      skipAllLines
      let list ← within (expressions fuel)
      skipAllLines
      expectSign ")"
      match list with
      | [e] => return if e.isTarget then .bracketed e else e
      | list =>
        if ← skipKeyword "in" then
          return .member list (← tableName)
        else unexpected
    | .sign "/" | .sign "/=" =>
      match regexPart (s.start.length + 1) false (s.start.drop 1) with
      | some (source, rest) =>
        scan rest s.line
        match Matcher.ofText source with
        | .ok matcher => return .regex matcher
        | .error reason => failAt s.line (Matcher.complaint source reason)
      | none => fail ("runaway regular expression /".toList ++ runaway (s.start.drop 1))
    | _ => unexpected

end

/-- Arguments of a command, which may stand in brackets. -/
def outputArguments (fuel : Nat) : Reader (List Expr) := do
  let before ← get
  let ends : Token → Bool
    | .finish | .lineEnd => true
    | .sign sign => [";", "\x7d", ">", ">>", "|"].contains sign
    | _ => false
  if ends (← peek) then return []
  let plain : Reader (List Expr) := do
    set { before with printing := true }
    let list ← expressions fuel
    modify fun s => { s with printing := false }
    return list
  if before.token.isSign "(" then
    match (do
      let list ← arguments fuel
      return (list, ends (← peek)) : Reader (List Expr × Bool)).run before with
    | .ok ((list, true), after) =>
      set after
      return list
    | _ => plain
  else plain

/-- Where the output of a command goes. -/
def sink (fuel : Nat) : Reader (Option (Sink × Expr)) := do
  if ← skipSign ">" then return some (.file, ← expression fuel)
  else if ← skipSign ">>" then return some (.append, ← expression fuel)
  else if ← skipSign "|" then return some (.command, ← expression fuel)
  else return none

/-- A statement that needs an end, without its end. -/
def simpleStatement (fuel : Nat) : Reader Statement := do
  let s ← get
  let ends : Bool := match s.token with
    | .finish | .lineEnd | .sign ";" | .sign "\x7d" => true
    | _ => false
  if ends then return .nothing
  let optional : Reader (Option Expr) := do
    match ← peek with
    | .finish | .lineEnd | .sign ";" | .sign "\x7d" => return none
    | _ => return some (← expression fuel)
  let record : Reader Unit := do
    if !s.hasRecords then fail ("improper use of ".toList ++ s.token.cited)
  match s.token with
  | .keyword "print" =>
    advance
    let list ← outputArguments fuel
    return .print list (← sink fuel)
  | .keyword "printf" =>
    advance
    let list ← outputArguments fuel
    if list.isEmpty then fail "no arguments in call to printf".toList
    return .format list (← sink fuel)
  | .keyword "break" =>
    if s.loops = 0 then fail "break statement outside of loop".toList
    advance
    return .leave
  | .keyword "continue" =>
    if s.loops = 0 then fail "continue statement outside of loop".toList
    advance
    return .again
  | .keyword "next" =>
    record
    advance
    return .next
  | .keyword "nextfile" =>
    record
    advance
    return .nextFile
  | .keyword "exit" =>
    advance
    return .exit (← optional)
  | .keyword "return" =>
    if s.routine.isNone then fail "return outside function body".toList
    advance
    return .give (← optional)
  | .keyword "delete" =>
    advance
    let array ← tableName
    if ← skipSign "[" then
      let subscripts ← within (expressions fuel)
      expectSign "]"
      return .delete array (some subscripts)
    else return .delete array none
  | _ => return .expression (← expression fuel)

/-- Goes past the end of a statement. -/
def statementEnd : Reader Unit := do
  match ← peek with
  | .sign ";" | .lineEnd => advance
  | .sign "\x7d" | .finish => return
  | _ => unexpected

/-- Reads a part of a loop. -/
def looped {α : Type} (work : Reader α) : Reader α := do
  modify fun s => { s with loops := s.loops + 1 }
  let value ← work
  modify fun s => { s with loops := s.loops - 1 }
  return value

/-- The names in the head of a loop over a table, up to its end. -/
def listing? : Reader (Option (String × String)) := do
  let before ← get
  let read : Reader (Option (String × String)) := do
    match ← peek with
    | .name variableName =>
      advance
      if ← skipKeyword "in" then
        let array ← tableName
        if ← skipSign ")" then
          see variableName false
          return some (variableName, array)
        else return none
      else return none
    | _ => return none
  match read.run before with
  | .ok (some names, after) =>
    set after
    return some names
  | _ => return none

mutual

def statement : (fuel : Nat) → Reader Statement
  | 0 => unexpected
  | fuel + 1 => do
    let condition : Reader Expr := do
      expectSign "("
      let e ← within (expression fuel)
      expectSign ")"
      return e
    match ← peek with
    | .sign "\x7b" => block fuel
    | .sign ";" =>
      advance
      return .nothing
    | .keyword "if" =>
      advance
      let test ← condition
      skipAllLines
      let whenTrue ← statement fuel
      let before ← get
      skipAllLines
      if ← skipKeyword "else" then
        skipAllLines
        return .choice test whenTrue (← statement fuel)
      else
        set before
        return .choice test whenTrue .nothing
    | .keyword "while" =>
      advance
      let test ← condition
      if ← skipSign ";" then return .loop test .nothing
      skipAllLines
      return .loop test (← looped (statement fuel))
    | .keyword "do" =>
      advance
      skipAllLines
      let body ← looped (statement fuel)
      skipAllLines
      if ← skipKeyword "while" then
        let test ← condition
        statementEnd
        return .loopAfter body test
      else unexpected
    | .keyword "for" =>
      advance
      expectSign "("
      match ← listing? with
      | some (variableName, array) =>
        skipAllLines
        return .each variableName array (← looped (statement fuel))
      | none =>
        let start ← within (simpleStatement fuel)
        expectSign ";"
        skipAllLines
        let test ←
          if (← peek).isSign ";" then pure none else some <$> within (expression fuel)
        expectSign ";"
        skipAllLines
        let step ←
          if (← peek).isSign ")" then pure .nothing else within (simpleStatement fuel)
        expectSign ")"
        if ← skipSign ";" then return .count start test step .nothing
        skipAllLines
        return .count start test step (← looped (statement fuel))
    | _ =>
      let s ← simpleStatement fuel
      statementEnd
      return s

/-- Statements in braces. -/
def block : (fuel : Nat) → Reader Statement
  | 0 => unexpected
  | fuel + 1 => do
    expectSign "\x7b"
    statements fuel

/-- Statements up to a closing brace. -/
def statements : (fuel : Nat) → Reader Statement
  | 0 => unexpected
  | fuel + 1 => do
    skipAllLines
    match ← peek with
    | .sign "\x7d" =>
      advance
      return .nothing
    | .finish => fail "missing \x7d near end of file".toList
    | _ =>
      let first ← statement fuel
      return .sequence first (← statements fuel)

end

/-- The first two sightings of a name that do not fit together: whether it is known as a table, and where
it is used in the other way. -/
def conflict? : List Sighting → (known : List (String × Bool)) → Option (Bool × Sighting)
  | [], _ => none
  | sighting :: more, known =>
    match known.lookup sighting.name with
    | some isTable =>
      if isTable = sighting.isTable then conflict? more known else some (isTable, sighting)
    | none => conflict? more ((sighting.name, sighting.isTable) :: known)

/-- Refuses names that are used both as tables and as variables. -/
def checkSightings (kind : String) (sightings : List Sighting) (known : List (String × Bool)) :
    Reader Unit := do
  match conflict? sightings.reverse known with
  | none => return
  | some (isTable, sighting) =>
    failAt sighting.line
      (("illegal reference to " ++ kind ++ (if isTable then "array " else "variable ") ++
        sighting.name).toList)

/-- The names of parameters, up to the closing bracket. -/
def parameters : (fuel : Nat) → Reader (List String)
  | 0 => unexpected
  | fuel + 1 => do
    match ← peek with
    | .name name =>
      advance
      if ← skipSign "," then
        skipAllLines
        let more ← parameters fuel
        if more.contains name then fail (name.toList ++ " is duplicated in argument list".toList)
        return name :: more
      else
        expectSign ")"
        return [name]
    | _ => unexpected

/-- A routine, behind the word for it. -/
def routine (fuel : Nat) : Reader Routine := do
  let name ← match ← peek with
    | .name name | .callee name => pure name
    | _ => unexpected
  if (← get).defined.contains name then fail ("redefinition of ".toList ++ name.toList)
  advance
  expectSign "("
  let names ← if ← skipSign ")" then pure [] else parameters fuel
  if names.contains name then fail "function parameter cannot be the function".toList
  skipAllLines
  modify fun s =>
    { s with
      routine := some name, hasRecords := false, defined := name :: s.defined, parameters := names
      localSightings := [] }
  let body ← block fuel
  checkSightings "local " (← get).localSightings []
  modify fun s => { s with routine := none, hasRecords := true, parameters := [] }
  return ⟨name, names, body⟩

/-- A rule with an action, or with the usual one. -/
def rule (fuel : Nat) : Reader Rule := do
  let usual : Statement := .print [] none
  let special (pattern : Pattern) : Reader Rule := do
    advance
    modify fun s => { s with hasRecords := false }
    let action ← block fuel
    modify fun s => { s with hasRecords := true }
    return ⟨pattern, action⟩
  let actionOf (pattern : Pattern) : Reader Rule := do
    match ← peek with
    | .sign "\x7b" => return ⟨pattern, ← block fuel⟩
    | .lineEnd | .finish | .sign ";" => return ⟨pattern, usual⟩
    | _ => unexpected
  match ← peek with
  | .keyword "BEGIN" => special .start
  | .keyword "END" => special .finish
  | .sign "\x7b" => return ⟨.always, ← block fuel⟩
  | _ =>
    let first ← expression fuel
    if ← skipSign "," then
      skipAllLines
      let last ← expression fuel
      let number := (← get).ranges
      modify fun s => { s with ranges := number + 1 }
      actionOf (.range number first last)
    else actionOf (.test first)

/-- The rules and routines up to the end. -/
def items : (fuel : Nat) → Reader Program
  | 0 => unexpected
  | fuel + 1 => do
    skipAllLines
    match ← peek with
    | .finish => return ⟨[], []⟩
    | .sign "\x7d" => fail "extra '\x7d'".toList
    | .keyword "function" =>
      advance
      let first ← routine fuel
      let _ ← skipSign ";"
      let more ← items fuel
      return { more with routines := first :: more.routines }
    | _ =>
      let first ← rule fuel
      let _ ← skipSign ";"
      let more ← items fuel
      return { more with rules := first :: more.rules }

/-- The kinds of names from the start: whether they are tables. -/
def knownNames : List (String × Bool) :=
  [("ARGV", true), ("ENVIRON", true)] ++
    ["NR", "FNR", "NF", "FS", "OFS", "ORS", "RS", "FILENAME", "CONVFMT", "OFMT", "SUBSEP", "RSTART",
      "RLENGTH", "ARGC"].map fun name => (name, false)

/-- Refuses a call that does not fit its routine. -/
def checkCall (program : Program) (tables : TableParameters) (sightings : List Sighting)
    (site : CallSite) : Except Mistake Unit := do
  match program.routines.find? (·.name = site.routine) with
  | none => return
  | some routine =>
    let refuse (message : String) : Except Mistake Unit := .error ⟨site.line, message.toList⟩
    if routine.parameters.length < site.arguments.length then
      refuse ("too many arguments in call to " ++ routine.name)
    let kinds := (tables.lookup routine.name).getD []
    for (number, isTable, argument) in (List.range kinds.length).zip (kinds.zip site.arguments) do
      let start := "type error in arg(" ++ toString (number + 1) ++ ") in call to " ++ routine.name
      let isSeen (kind : Bool) (name : String) : Bool :=
        sightings.any fun s => s.name = name && s.isTable = kind
      let isUsed := routine.body.names.contains (routine.parameters.getD number "")
      match argument with
      | .variable name =>
        if isTable && isSeen false name then
          refuse (start ++ " (actual local variable vs local array)")
        if !isTable && isUsed && isSeen true name then
          refuse (start ++ " (actual local array vs local variable)")
      | _ => if isTable then refuse (start ++ " (actual local variable vs local array)")

/-- The program that a text writes. -/
def Program.ofText (text : Text) : Except Mistake Program := do
  let start : Reading :=
    { token := .finish, start := [], rest := [], line := 1, printing := false, depth := 0, loops := 0,
      routine := none, hasRecords := true, ranges := 0, defined := [], parameters := [], calls := [],
      sightings := [], localSightings := [] }
  let work : Reader Program := do
    scan text 1
    let program ← items (20 * text.length + 50)
    checkSightings "" (← get).sightings
      (knownNames ++ program.routines.map fun routine => (routine.name, false))
    return program
  let (program, reading) ← work.run start
  let calls := reading.calls.reverse
  match calls.find? fun site => !program.routines.any (·.name = site.routine) with
  | some site => throw ⟨reading.line, ("function " ++ site.routine ++ " never defined").toList⟩
  | none =>
    let tables := program.tableParameters
    for site in calls do checkCall program tables reading.sightings site
    return program

end KDispatch.Shell.Records
