import KDispatch.Shell.Condition
import KDispatch.Shell.Extended.Expansion
import KDispatch.Shell.Regex

/-!
Conditions on texts, numbers, variables and files: those between double brackets, which are trees, and
those of `test`, which are lists of words that are told apart by their number first.
-/

namespace KDispatch.Shell.Extended.Condition

def facts : Command Shell.Condition.Facts := do return ⟨(← get).machine.files, true⟩

/-- Whether a variable or an element is set. -/
def isSet (text : Text) : Command Bool := do
  match Holder.ofText? text with
  | some (.parameter name) =>
    if name.toList.all Char.isDigit then return false
    else return ((← Command.binding? (← Command.target name)).bind (·.content.value?)).isSome
  | some holder =>
    match ← holder.value with
    | .missing | .many _ [] => return false
    | _ => return true
  | none => return false

/-- Whether an operator holds of its operand. -/
def unary (operator : String) (operand : Text) : Command Bool := do
  match operator with
  | "-n" => return !operand.isEmpty
  | "-z" => return operand.isEmpty
  | "-v" => isSet operand
  | "-o" => Command.hasOption (String.ofList operand)
  | "-R" =>
    return ((Command.visible? (← get) (String.ofList operand)).map (·.attributes.reference)).getD false
  | "-t" | "-N" => return false
  | "-a" => return (← facts).holds "-e" operand
  | operator => return (← facts).holds operator operand

/-- Whether an operator holds between two texts or files. -/
def compareTexts? (operator : String) (a b : Text) : Command (Option Bool) := do
  match operator with
  | "=" | "==" => return some (a = b)
  | "!=" => return some (a ≠ b)
  | "<" => return some (Ordered.precedes a b)
  | ">" => return some (Ordered.precedes b a)
  | "-nt" => return some ((← facts).isNewer a b)
  | "-ot" => return some ((← facts).isNewer b a)
  | "-ef" => return some ((← facts).areSame a b)
  | _ => return none

/-- Whether an operator holds between two numbers. -/
def compareNumbers (operator : String) (a b : Int) : Bool :=
  match operator with
  | "-eq" => a = b
  | "-ne" => a ≠ b
  | "-lt" => a < b
  | "-le" => a ≤ b
  | "-gt" => b < a
  | "-ge" => b ≤ a
  | _ => false

/-- The text of a pattern, in which backslashes hide quoted characters. -/
def patternText (hides : Char → Bool) (pattern : List PatternChar) : Text :=
  pattern.flatMap fun c => if c.quoted && hides c.char then ['\\', c.char] else [c.char]

/-- The characters with a meaning in regular expressions. -/
def isExpressionSign (c : Char) : Bool := ".[]()*+?\x7b\x7d|^$\\".toList.contains c

/-- Shows a condition that is tested. -/
abbrev Tracer := Text → Command Unit

/-- What a trace shows for an operand. -/
def shownOperand (text : Text) : Text := if text.isEmpty then ['\'', '\''] else text

/-- Keeps what a regular expression has matched. -/
def remember (texts : List Text) : Command Unit := do
  Command.putVariable "BASH_REMATCH"
    ⟨.indexed true (texts.zipIdx.map fun (text, n) => (n, text)), .none⟩

/-- Whether a text has a part that a regular expression matches; `none` if the expression is malformed. -/
def matchesExpression (ignoresCase : Bool) (text expression : Text) : Command (Option Bool) := do
  match Regex.parse ⟨true, true⟩ expression with
  | .error _ =>
    remember []
    return none
  | .ok parsed =>
    match parsed.regex.search ⟨ignoresCase, false⟩ [] text with
    | some found =>
      remember (found.text :: (List.range parsed.groups).map fun n => (found.groups.lookup (n + 1)).getD [])
      return some true
    | none =>
      remember []
      return some false

/-- The status of a condition between double brackets; `inverted` tells whether it is shown with a sign
for that. -/
def evaluate (runner : Runner) (trace : Tracer) : Test → (inverted : Bool) → Command Nat
  | .not test, inverted => do
    let status ← evaluate runner trace test (!inverted)
    return if status = 0 then 1 else if status = 1 then 0 else status
  | .grouped test, _ => evaluate runner trace test false
  | .both a b, _ => do
    let status ← evaluate runner trace a false
    if status = 0 then evaluate runner trace b false else return status
  | .either a b, _ => do
    let status ← evaluate runner trace a false
    if status = 0 then return 0 else evaluate runner trace b false
  | .unary operator operand, inverted => do
    let text ← Expansion.text runner .atStart operand.parts
    trace ((if inverted then ['!', ' '] else []) ++ operator.toList ++ ' ' :: shownOperand text)
    return if ← unary operator text then 0 else 1
  | .binary operator a b, inverted => do
    let left ← Expansion.text runner .atStart a.parts
    let right ← Expansion.singleGlyphs runner .atStart b.parts
    let pattern := Glyph.pattern right
    let isPattern := ["=", "==", "!="].contains operator
    let shown :=
      if operator = "=~" then patternText isExpressionSign pattern
      else if isPattern then patternText (fun _ => true) pattern
      else Glyph.text right
    trace ((if inverted then ['!', ' '] else []) ++ shownOperand left ++ ' ' :: operator.toList ++
      ' ' :: shownOperand shown)
    let ignoresCase ← Command.hasSetting "nocasematch"
    if operator = "=~" then
      match ← matchesExpression ignoresCase left shown with
      | some found => return if found then 0 else 1
      | none => return 2
    else if isPattern then
      let found := (TextPattern.ofChars ⟨true, ignoresCase⟩ pattern).isMatch left
      return if found = (operator ≠ "!=") then 0 else 1
    else
      match ← compareTexts? operator left shown with
      | some found => return if found then 0 else 1
      | none =>
        match ← Arithmetic.evaluate? left with
        | none => return 1
        | some x =>
          match ← Arithmetic.evaluate? shown with
          | none => return 1
          | some y => return if compareNumbers operator x y then 0 else 1

/-- Work on the words of `test` that may be wrong. -/
abbrev Work := ExceptT Text Command

def fail {α : Type} (message : Text) : Work α := throw message

def isUnary (word : Text) : Bool := Reader.unaryTests.contains (String.ofList word)

def isBinary (word : Text) : Bool := Reader.binaryTests.contains (String.ofList word)

/-- A number that `test` is given. -/
def number (text : Text) : Work Int := do
  match Number.integer? (some 10) text with
  | some n => return n
  | none => fail (text ++ ": integer expression expected".toList)

/-- Whether an operator of `test` holds. -/
def binary (a operator b : Text) : Work Bool := do
  match ← (compareTexts? (String.ofList operator) a b : Command (Option Bool)) with
  | some found => return found
  | none =>
    let x ← number a
    let y ← number b
    return compareNumbers (String.ofList operator) x y

def needUnary {α : Type} (word : Text) : Work α := fail (word ++ ": unary operator expected".toList)

def ofTwo (a b : Text) : Work Bool := do
  if a = ['!'] then return b.isEmpty
  else if isUnary a then (unary (String.ofList a) b : Command Bool)
  else needUnary a

def ofThree (a b c : Text) : Work Bool := do
  if isBinary b then binary a b c
  else if b = "-a".toList then return !a.isEmpty && !c.isEmpty
  else if b = "-o".toList then return !a.isEmpty || !c.isEmpty
  else if a = ['!'] then return !(← ofTwo b c)
  else if a = ['('] && c = [')'] then return !b.isEmpty
  else fail (b ++ ": binary operator expected".toList)

def beyond {α : Type} : Work α := fail "argument expected".toList

mutual

/-- Conditions of which one has to hold, and the words after them. -/
def anyOf : (fuel : Nat) → List Text → Work (Bool × List Text)
  | 0, _ => beyond
  | fuel + 1, words => do
    let (a, rest) ← allOf fuel words
    match rest with
    | ['-', 'o'] :: rest =>
      let (b, rest) ← anyOf fuel rest
      return (a || b, rest)
    | rest => return (a, rest)

def allOf : (fuel : Nat) → List Text → Work (Bool × List Text)
  | 0, _ => beyond
  | fuel + 1, words => do
    let (a, rest) ← term fuel words
    match rest with
    | ['-', 'a'] :: rest =>
      let (b, rest) ← allOf fuel rest
      return (a && b, rest)
    | rest => return (a, rest)

def term : (fuel : Nat) → List Text → Work (Bool × List Text)
  | 0, _ => beyond
  | _ + 1, [] => beyond
  | fuel + 1, first :: rest => do
    if first = ['!'] then
      let (a, rest) ← term fuel rest
      return (!a, rest)
    else if first = ['('] then
      if rest.isEmpty then beyond
      let (a, rest) ← anyOf fuel rest
      match rest with
      | [')'] :: rest => return (a, rest)
      | [] => fail (Reader.marked [')'] ++ " expected".toList)
      | word :: _ => fail (Reader.marked [')'] ++ " expected, found ".toList ++ word)
    else
      match rest with
      | operator :: b :: more =>
        if isBinary operator then return (← binary first operator b, more)
        else if isUnary first then
          return (← (unary (String.ofList first) operator : Command Bool), b :: more)
        else return (!first.isEmpty, rest)
      | [operand] =>
        if isUnary first then return (← (unary (String.ofList first) operand : Command Bool), [])
        else return (!first.isEmpty, rest)
      | [] => return (!first.isEmpty, rest)

end

/-- The value of the words of `test`. -/
def ofWords (words : List Text) : Work Bool := do
  let general : Work Bool := do
    let (value, rest) ← anyOf (4 * words.length + 4) words
    match rest with
    | [] => return value
    | ('-' :: word) :: _ => fail ("syntax error: ".toList ++ Reader.marked ('-' :: word) ++ " unexpected".toList)
    | _ => fail "too many arguments".toList
  match words with
  | [] => return false
  | [a] => return !a.isEmpty
  | [a, b] => ofTwo a b
  | [a, b, c] => ofThree a b c
  | [a, b, c, d] =>
    if a = ['!'] then return !(← ofThree b c d)
    else if a = ['('] && d = [')'] then ofTwo b c
    else general
  | _ => general

end KDispatch.Shell.Extended.Condition
