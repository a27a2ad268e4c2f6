import KDispatch.Shell.Scan.Search

/-!
Reading patterns from their texts. The text of a pattern has its backslashes as they stand.
-/

namespace KDispatch.Shell.Scan

/-- What is left of the text of a pattern, and the groups so far. -/
structure Reading where
  rest : Text
  groups : Nat
  names : List (String × Nat)

/-- Reads a part of a pattern, or tells what is wrong with it. -/
abbrev Reader := StateT Reading (Except String)

namespace Reader

def fail {α : Type} (message : String) : Reader α := throw message

def peek? : Reader (Option Char) := return (← get).rest.head?

def skip (count : Nat) : Reader Unit := modify fun s => { s with rest := s.rest.drop count }

def startsWith (text : String) : Reader Bool := return text.toList.isPrefixOf (← get).rest

/-- Reads a text if it comes next. -/
def skipIf (text : String) : Reader Bool := do
  if ← startsWith text then
    skip text.length
    return true
  else return false

def fuel : Reader Nat := return (← get).rest.length + 1

/-- Reads the characters for which something holds, up to a number of them. -/
def takeWhile (holds : Char → Bool) (most : Nat) : Reader Text := do
  let found := ((← get).rest.take most).takeWhile holds
  skip found.length
  return found

def isHexDigit (c : Char) : Bool := c.isDigit || "abcdefABCDEF".toList.contains c

def digitValue (c : Char) : Nat :=
  if c.isDigit then c.toNat - '0'.toNat else c.toLower.toNat - 'a'.toNat + 10

/-- The number that digits stand for. -/
def numberOf (base : Nat) (digits : Text) : Nat := digits.foldl (fun n c => n * base + digitValue c) 0

/-- Reads a number. -/
def number? : Reader (Option Nat) := do
  let digits ← takeWhile Char.isDigit 9
  return if digits.isEmpty then none else some (numberOf 10 digits)

/-- The kind of characters that a letter after a backslash stands for. -/
def kindOf? (letter : Char) : Option CharKind :=
  match letter with
  | 'd' | 'D' => some .digit
  | 'w' | 'W' => some .word
  | 's' | 'S' => some .space
  | 'h' | 'H' => some .blank
  | 'v' | 'V' => some .lineSpace
  | _ => none

/-- The character that a letter after a backslash stands for; others stand for themselves. -/
def escapedChar (letter : Char) : Reader Char := do
  match letter with
  | 'n' => return '\n'
  | 't' => return '\t'
  | 'r' => return '\r'
  | 'f' => return '\x0c'
  | 'a' => return '\x07'
  | 'e' => return '\x1b'
  | 'x' =>
    if ← skipIf "\x7b" then
      let digits ← takeWhile isHexDigit 8
      let _ ← skipIf "\x7d"
      return Char.ofNat (numberOf 16 digits)
    else return Char.ofNat (numberOf 16 (← takeWhile isHexDigit 2))
  | 'u' => return Char.ofNat (numberOf 16 (← takeWhile isHexDigit 4))
  | 'U' => return Char.ofNat (numberOf 16 (← takeWhile isHexDigit 8))
  | 'c' =>
    match ← peek? with
    | some c =>
      skip 1
      return Char.ofNat (c.toUpper.toNat.xor 64)
    | none => return 'c'
  | '0' => return Char.ofNat (numberOf 8 (← takeWhile (fun c => '0' ≤ c && c ≤ '7') 2))
  | c => return c

/-- Reads an item of a set, which may be a single character. -/
def setItem : Reader SetItem := do
  match ← peek? with
  | none => fail "unterminated character set"
  | some '[' =>
    if ← startsWith "[:" then
      let name := ((← get).rest.drop 2).takeWhile fun c => c.isAlpha || c = '^'
      let isClosed := ":]".toList.isPrefixOf ((← get).rest.drop (2 + name.length))
      let negated := name.head? = some '^'
      match CharKind.ofName? (String.ofList (if negated then name.drop 1 else name)), isClosed with
      | some kind, true =>
        skip (name.length + 4)
        return .kind kind negated
      | _, _ =>
        skip 1
        return .range '[' '['
    else
      skip 1
      return .range '[' '['
  | some '\\' =>
    skip 1
    match ← peek? with
    | none => fail "unterminated character set"
    | some letter =>
      skip 1
      match kindOf? letter with
      | some kind => return .kind kind letter.isUpper
      | none =>
        let c ← if letter = 'b' then pure '\x08' else escapedChar letter
        return .range c c
  | some c =>
    skip 1
    return .range c c

/-- Reads the items of a set up to its closing bracket. -/
def setItems : (fuel : Nat) → (first : Bool) → Reader (List SetItem)
  | 0, _ => return []
  | fuel + 1, first => do
    match ← peek? with
    | none => fail "unterminated character set"
    | some ']' =>
      if first then
        skip 1
        let more ← setItems fuel false
        return .range ']' ']' :: more
      else
        skip 1
        return []
    | some _ =>
      let item ← setItem
      let isRange := (← startsWith "-") && !(← startsWith "-]")
      match item, isRange with
      | .range first _, true =>
        skip 1
        match ← setItem with
        | .range last _ =>
          if last < first then fail s!"bad character range {first}-{last}"
          return .range first last :: (← setItems fuel false)
        | kind => return item :: .range '-' '-' :: kind :: (← setItems fuel false)
      | _, _ => return item :: (← setItems fuel false)

/-- Reads a set after its opening bracket. -/
def set : Reader CharSet := do
  let negated ← skipIf "^"
  return ⟨negated, ← setItems (← fuel) true⟩

/-- A repetition that is read after an item: its bounds. -/
def bounds? : Reader (Option (Nat × Option Nat)) := do
  match ← peek? with
  | some '*' =>
    skip 1
    return some (0, none)
  | some '+' =>
    skip 1
    return some (1, none)
  | some '?' =>
    skip 1
    return some (0, some 1)
  | some '\x7b' =>
    let before := (← get).rest
    skip 1
    let least ← number?
    let hasComma ← skipIf ","
    let most ← if hasComma then number? else pure least
    let closed ← skipIf "\x7d"
    if closed && (least.isSome || most.isSome) then return some (least.getD 0, most)
    else
      modify fun s => { s with rest := before }
      return none
  | _ => return none

/-- Sets the flags of letters; letters after a minus sign take them back. -/
def flagsOf (flags : Flags) : (on : Bool) → Text → Flags
  | _, [] => flags
  | on, letter :: letters =>
    match letter with
    | '-' => flagsOf flags false letters
    | '^' => flagsOf .none true letters
    | 'i' => flagsOf { flags with ignoresCase := on } on letters
    | 'm' => flagsOf { flags with byLines := on } on letters
    | 's' => flagsOf { flags with dotAll := on } on letters
    | 'x' => flagsOf { flags with spaced := on } on letters
    | _ => flagsOf flags on letters

/-- What a group begins with: whether it keeps its match, its name, and what it is. -/
inductive Opening where
  | keeps (name : Option String)
  | plain (flags : Flags)
  | look (ahead negated : Bool)
  | firstWay
  /-- Flags for the rest of the surrounding group. -/
  | flags (flags : Flags)
  | comment

/-- Reads a name up to a closing sign. -/
def nameUpTo (close : String) : Reader String := do
  let name ← takeWhile CharKind.isWordChar 1000
  if name.isEmpty then fail "missing group name"
  else if ← skipIf close then return String.ofList name
  else fail s!"missing {close}, unterminated name"

/-- Reads what a group begins with, after its parenthesis. -/
def opening (flags : Flags) : Reader Opening := do
  if ← skipIf "?#" then
    let _ ← takeWhile (· ≠ ')') (← fuel)
    let _ ← skipIf ")"
    return .comment
  else if ← skipIf "?:" then return .plain flags
  else if ← skipIf "?=" then return .look true false
  else if ← skipIf "?!" then return .look true true
  else if ← skipIf "?<=" then return .look false false
  else if ← skipIf "?<!" then return .look false true
  else if ← skipIf "?>" then return .firstWay
  else if ← skipIf "?P<" then return .keeps (some (← nameUpTo ">"))
  else if ← skipIf "?<" then return .keeps (some (← nameUpTo ">"))
  else if ← skipIf "?'" then return .keeps (some (← nameUpTo "'"))
  else if ← skipIf "?" then
    let letters ← takeWhile (fun c => c.isAlpha || c = '-' || c = '^') 100
    let flags := flagsOf flags true letters
    if ← skipIf ":" then return .plain flags
    else if ← skipIf ")" then return .flags flags
    else fail "unknown extension"
  else return .keeps none

/-- Leaves out blanks and comments. -/
def skipSpaced (flags : Flags) : (fuel : Nat) → Reader Unit
  | 0 => return
  | fuel + 1 => do
    if !flags.spaced then return
    match ← peek? with
    | some c =>
      if CharKind.isSpaceChar c then
        skip 1
        skipSpaced flags fuel
      else if c = '#' then
        let _ ← takeWhile (· ≠ '\n') (← Reader.fuel)
        skipSpaced flags fuel
      else return
    | none => return

/-- The number of the group that a name or a number stands for. -/
def groupNumber (text : Text) : Reader Nat := do
  let s ← get
  match text with
  | '-' :: digits => return s.groups + 1 - numberOf 10 digits
  | _ =>
    if text.all Char.isDigit then return numberOf 10 text
    else
      match s.names.lookup (String.ofList text) with
      | some n => return n
      | none => fail s!"unknown group name '{String.ofList text}'"

/-- Reads what comes after a backslash outside sets. -/
def escape (flags : Flags) : Reader Node := do
  match ← peek? with
  | none => fail "bad escape (end of pattern)"
  | some letter =>
    skip 1
    let case := flags.ignoresCase
    let named (close : String) : Reader Node := do
      let name ← takeWhile (fun c => CharKind.isWordChar c || c = '-') 1000
      let _ ← skipIf close
      return .back case (← groupNumber name)
    match letter with
    | 'A' => return .anchor .textStart
    | 'z' => return .anchor .textEnd
    | 'Z' => return .anchor .lastEnd
    | 'b' => return .anchor .wordEdge
    | 'B' => return .anchor .notWordEdge
    | 'G' => return .anchor .lastMatch
    | 'K' => return .keep
    | 'R' => return .choice [.sequence [.char false '\r', .char false '\n'],
        .set false ⟨false, [.kind .lineSpace false]⟩]
    | 'N' => return .set false ⟨true, [.range '\n' '\n']⟩
    | 'k' =>
      if ← skipIf "<" then named ">"
      else if ← skipIf "\x7b" then named "\x7d"
      else if ← skipIf "'" then named "'"
      else return .char case 'k'
    | 'g' =>
      if ← skipIf "\x7b" then named "\x7d"
      else named ""
    | letter =>
      match kindOf? letter with
      | some kind => return .set false ⟨letter.isUpper, [.kind kind false]⟩
      | none =>
        if '1' ≤ letter && letter ≤ '9' then
          let more ← takeWhile Char.isDigit 2
          let n := numberOf 10 (letter :: more)
          return .back case n
        else return .char case (← escapedChar letter)

mutual

/-- Reads alternatives up to a closing parenthesis or the end. -/
def alternatives : (fuel : Nat) → Flags → Reader Node
  | 0, _ => fail "pattern too deep"
  | fuel + 1, flags => do
    let (first, flags) ← branch fuel flags
    let more ← otherBranches fuel flags
    return if more.isEmpty then first else .choice (first :: more)

def otherBranches : (fuel : Nat) → Flags → Reader (List Node)
  | 0, _ => return []
  | fuel + 1, flags => do
    if ← skipIf "|" then
      let (next, flags) ← branch fuel flags
      return next :: (← otherBranches fuel flags)
    else return []

/-- Reads a sequence of items; gives the flags that hold after it. -/
def branch : (fuel : Nat) → Flags → Reader (Node × Flags)
  | fuel, flags => do
    let (nodes, flags) ← items fuel flags
    return (match nodes with
      | [node] => node
      | nodes => .sequence nodes, flags)

def items : (fuel : Nat) → Flags → Reader (List Node × Flags)
  | 0, flags => return ([], flags)
  | fuel + 1, flags => do
    skipSpaced flags (← Reader.fuel)
    match ← peek? with
    | none | some '|' | some ')' => return ([], flags)
    | some '(' =>
      skip 1
      match ← opening flags with
      | .comment => items fuel flags
      | .flags flags =>
        items fuel flags
      | .plain inner =>
        let node ← alternatives fuel inner
        close
        more fuel flags node
      | .look ahead negated =>
        let node ← alternatives fuel flags
        close
        more fuel flags (.look ahead negated node)
      | .firstWay =>
        let node ← alternatives fuel flags
        close
        more fuel flags (.firstWay node)
      | .keeps name =>
        let number := (← get).groups + 1
        modify fun s => { s with groups := number, names := s.names ++ (name.map (·, number)).toList }
        let node ← alternatives fuel flags
        close
        more fuel flags (.group number node)
    | some c =>
      skip 1
      match c with
      | '[' => more fuel flags (.set flags.ignoresCase (← set))
      | '.' =>
        more fuel flags (.set false (if flags.dotAll then ⟨false, [.kind .any false]⟩
          else ⟨true, [.range '\n' '\n']⟩))
      | '^' => more fuel flags (.anchor (if flags.byLines then .lineStart else .textStart))
      | '$' => more fuel flags (.anchor (if flags.byLines then .lineEnd else .lastEnd))
      | '\\' => more fuel flags (← escape flags)
      | '*' | '+' | '?' => fail "nothing to repeat"
      | c => more fuel flags (.char flags.ignoresCase c)

/-- Reads a repetition of an item, and the items after it. -/
def more : (fuel : Nat) → Flags → Node → Reader (List Node × Flags)
  | 0, flags, node => return ([node], flags)
  | fuel + 1, flags, node => do
    skipSpaced flags (← Reader.fuel)
    match ← bounds? with
    | some (least, most) =>
      let isLeast ← skipIf "?"
      let isAll ← skipIf "+"
      let greed : Greed := if isLeast then .least else if isAll then .all else .most
      more fuel flags (.repeated least most greed node)
    | none =>
      let (nodes, flags) ← items fuel flags
      return (node :: nodes, flags)

def close : Reader Unit := do
  if !(← skipIf ")") then fail "missing ), unterminated subpattern"

end

end Reader

/-- Reads the text of a pattern. -/
def Pattern.ofText (flags : Flags) (text : Text) : Except String Pattern := do
  let work : Reader Node := do
    let node ← Reader.alternatives (2 * text.length + 4) flags
    if (← Reader.peek?).isSome then Reader.fail "unbalanced parenthesis"
    return node
  let (node, reading) ← work.run ⟨text, 0, []⟩
  return ⟨node, reading.groups, reading.names⟩

end KDispatch.Shell.Scan
