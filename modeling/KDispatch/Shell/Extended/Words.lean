import KDispatch.Shell.Extended.Printing
import KDispatch.Shell.Extended.Syntax
import KDispatch.Shell.Number

/-!
Reading words: texts, quotes and expansions up to the end of the word or of the quotes or brackets that
a text stands in. Commands inside a word are read by the reader that is handed in, and kept as texts. Braces
are opened before anything else is done with a word: `a{b,c}` stands for the words `ab` and `ac`, and `{1..3}`
for the numbers from one to three.
-/

namespace KDispatch.Shell.Extended.Braces

/-- A character outside quotes, or another part of a word. -/
inductive Item where
  | char (c : Char)
  | part (part : Part)

def items (parts : List Part) : List Item :=
  parts.flatMap fun
    | .text false content => content.map Item.char
    | part => [Item.part part]

def parts (items : List Item) : List Part :=
  Part.merge (items.map fun
    | .char c => .text false [c]
    | .part part => part)

def isChar (c : Char) : Item → Bool
  | .char d => c = d
  | .part _ => false

/-- What stands before the brace that closes, if there is a comma or a range in front of it, and what
comes after it. -/
def closing? : (items : List Item) → (level : Nat) → (found : Bool) → Option (List Item × List Item)
  | [], _, _ => none
  | .char '}' :: rest, 0, true => some ([], rest)
  | item :: rest, level, found =>
    let level' :=
      if isChar '\x7b' item then level + 1 else if isChar '\x7d' item then level - 1 else level
    let isRange := isChar '.' item && (rest.head?.any (isChar '.')) &&
      !((rest.drop 1).head?.any (isChar '\x7d'))
    let found' := found || (level = 0 && (isChar ',' item || isRange))
    (closing? rest level' found').map fun (inside, after) => (item :: inside, after)

/-- The pieces between commas outside of inner braces. -/
def pieces : (items : List Item) → (level : Nat) → (current : List Item) → List (List Item)
  | [], _, current => [current.reverse]
  | item :: rest, level, current =>
    if level = 0 && isChar ',' item then current.reverse :: pieces rest 0 []
    else
      let level' :=
        if isChar '\x7b' item then level + 1 else if isChar '\x7d' item then level - 1 else level
      pieces rest level' (item :: current)

/-- The characters of items that have no other parts. -/
def plain? : List Item → Option Text
  | [] => some []
  | .char c :: rest => (plain? rest).map (c :: ·)
  | .part _ :: _ => none

/-- The parts of a text between double dots. -/
def splitDots : Text → (current : Text) → List Text
  | [], current => [current.reverse]
  | '.' :: '.' :: rest, current => current.reverse :: splitDots rest []
  | c :: rest, current => splitDots rest (c :: current)

def integer? (text : Text) : Option Int :=
  if text.head?.any Number.isSpace then none else Number.integer? (some 10) text

/-- The numbers from one to another one. -/
def numbers (first last : Int) (step : Int) : List Int :=
  let step := if step = 0 then 1 else step.natAbs
  let count := (last - first).natAbs / step + 1
  (List.range count).map fun (n : Nat) => if first ≤ last then first + n * step else first - n * step

/-- A number with zeros in front of it up to a width. -/
def padded (width : Nat) (n : Int) : Text :=
  let digits := (toString n.natAbs).toList
  let sign : Text := if n < 0 then ['-'] else []
  sign ++ List.replicate (width - sign.length - digits.length) '0' ++ digits

/-- Whether a number is written with a zero in front. -/
def isPadded : Text → Bool
  | '0' :: _ :: _ | '-' :: '0' :: _ => true
  | _ => false

/-- The texts of a range. -/
def range? (text : Text) : Option (List Text) := do
  let (first, last, step) ← match splitDots text [] with
    | [first, last] => some (first, last, 1)
    | [first, last, step] => (integer? step).map fun step => (first, last, step)
    | _ => none
  match integer? first, integer? last with
  | some a, some b =>
    let width := if isPadded first || isPadded last then max first.length last.length else 0
    some ((numbers a b step).map (padded width))
  | none, none =>
    match first, last with
    | [a], [b] =>
      if a.isAlpha && b.isAlpha then
        some ((numbers a.toNat b.toNat step).map fun n => [Char.ofNat n.toNat])
      else none
    | _, _ => none
  | _, _ => none

/-- All combinations of a start and an end. -/
def combine (starts ends : List (List Item)) : List (List Item) :=
  starts.flatMap fun a => ends.map fun b => a ++ b

/-- The words that a word with braces stands for. -/
def expand : (fuel : Nat) → List Item → List (List Item)
  | 0, items => [items]
  | fuel + 1, items => go fuel [] items
where
  go (fuel : Nat) (before : List Item) : List Item → List (List Item)
    | [] => [before.reverse]
    | item :: rest =>
      if isChar '\x7b' item then
        match closing? rest 0 false with
        | none => go fuel (item :: before) rest
        | some (inside, after) =>
          let start := [before.reverse]
          let ends := if after.isEmpty then [[]] else expand fuel after
          match pieces inside 0 [] with
          | [_] =>
            match (plain? inside).bind range? with
            | some texts => combine (combine start (texts.map (·.map Item.char))) ends
            | none =>
              combine (combine start [item :: inside ++ [.char '\x7d']]) ends
          | several => combine (combine start (several.flatMap (expand fuel))) ends
      else go fuel (item :: before) rest

/-- The words that a word with braces stands for. -/
def words (word : List Part) : List (List Part) :=
  let hasBrace := word.any fun
    | .text false content => content.contains '\x7b'
    | _ => false
  if hasBrace then
    let items := items word
    (expand (items.length + 1) items).map parts
  else [word]

end KDispatch.Shell.Extended.Braces

/-!
Reading words: texts, quotes and expansions up to the end of the word or of the quotes or brackets that
a text stands in. Commands inside a word are read by the reader that is handed in, and kept as texts.
-/

namespace KDispatch.Shell.Extended

/-- What ends a text. -/
inductive Ending where
  /-- A blank or a sign that separates words. -/
  | word
  | doubleQuote
  /-- The end of all text. -/
  | finish
  /-- One of some characters. -/
  | signs (signs : List Char)
  /-- One of some characters, outside of the brackets between the first two. -/
  | outside (opening closing : List Char) (signs : List Char)
  /-- A blank outside of parentheses. -/
  | blank

/-- Where a text stands. -/
structure Context where
  /-- Whether only some characters are special. -/
  quoted : Bool
  /-- Whether single quotes quote. -/
  singles : Bool
  /-- Whether double quotes quote, or stand for themselves. -/
  doubles : Bool
  /-- Whether double quotes are dropped. -/
  numeric : Bool
  ending : Ending

namespace Context

def plain : Context := ⟨false, true, true, false, .word⟩

def doubleQuoted : Context := ⟨true, false, true, false, .doubleQuote⟩

def document : Context := ⟨true, false, false, false, .finish⟩

def arithmetic (ending : Ending) : Context := ⟨true, false, false, true, ending⟩

/-- Between the braces of an expansion, for a word that stands for a value. -/
def word (outer : Context) : Context :=
  if outer.quoted then ⟨true, false, true, false, .signs ['\x7d']⟩
  else ⟨false, true, true, false, .signs ['\x7d']⟩

/-- Between the braces of an expansion, for a pattern. -/
def pattern (signs : List Char) : Context := ⟨false, true, true, false, .signs signs⟩

def subscript : Context := ⟨false, true, true, false, .outside ['['] [']'] [']']⟩

def slice : Context := arithmetic (.outside ['(', '?'] [')', ':'] [':', '\x7d'])

/-- The right side of a match with a regular expression. -/
def expression : Context := ⟨false, true, true, false, .blank⟩

end Context

def isBlank (c : Char) : Bool := c = ' ' || c = '\t'

/-- The characters that end an unquoted word. -/
def endsWord (c : Char) : Bool := "\n \t;&|()<>".toList.contains c

/-- The parameters with names of one character that is no letter. -/
def isSpecialName (c : Char) : Bool := c.isDigit || "@*#?$!-".toList.contains c

/-- How the commands inside a word are read, up to the parenthesis that closes them. -/
structure NestedReader where
  commands : Reader Text

namespace Ending

/-- Whether a character ends a text inside the given number of open brackets. -/
def isAt (ending : Ending) (depth : Nat) (c : Char) : Bool :=
  match ending with
  | .word => depth = 0 && endsWord c
  | .doubleQuote => c = '"'
  | .finish => false
  | .signs list => list.contains c
  | .outside _ _ list => depth = 0 && list.contains c
  | .blank => (depth = 0 && (isBlank c || c = ')')) || c = '\n'

/-- The number of open brackets after a character. -/
def depthAfter (ending : Ending) (depth : Nat) (c : Char) : Nat :=
  match ending with
  | .outside opening closing _ =>
    if opening.contains c then depth + 1 else if closing.contains c then depth - 1 else depth
  | .word =>
    if depth = 0 then depth else if c = '(' then depth + 1 else if c = ')' then depth - 1 else depth
  | .blank => if c = '(' then depth + 1 else if c = ')' then depth - 1 else depth
  | _ => depth

end Ending

/-- The text of a code point, which is spelled out unless it is a character of one byte. -/
def codePoint (long : Bool) (n : Nat) : Text :=
  if n < 128 then [Char.ofNat n]
  else
    let digits := (Nat.toDigits 16 n).map Char.toUpper
    let width := if long && 65535 < n then 8 else 4
    '\\' :: (if width = 8 then 'U' else 'u') :: List.replicate (width - digits.length) '0' ++ digits

/-- The digits of a number at the start of a text, and the text after them. -/
def digitsAt (base limit : Nat) (text : Text) : Option (Nat × Text) :=
  let digits := (text.take limit).takeWhile fun c => (digit? c).isSome
  if digits.isEmpty then none
  else
    some (digits.foldl (fun n c => n * base + (digit? c).getD 0) 0, text.drop digits.length)
where
  digit? (c : Char) : Option Nat :=
    let n :=
      if c.isDigit then c.toNat - '0'.toNat
      else if 'a' ≤ c && c ≤ 'f' then c.toNat - 'a'.toNat + 10
      else if 'A' ≤ c && c ≤ 'F' then c.toNat - 'A'.toNat + 10
      else base
    if n < base then some n else none

/-- The letters after a backslash that stand for a character. -/
def letterEscape? : Char → Option Char
  | 'a' => some (Char.ofNat 7)
  | 'b' => some (Char.ofNat 8)
  | 'e' | 'E' => some (Char.ofNat 27)
  | 'f' => some (Char.ofNat 12)
  | 'n' => some '\n'
  | 'r' => some '\r'
  | 't' => some '\t'
  | 'v' => some (Char.ofNat 11)
  | '\\' => some '\\'
  | _ => none

/-- What a text between single quotes after a dollar sign stands for; it ends at a zero. -/
def unescape : (fuel : Nat) → Text → Text
  | 0, _ => []
  | _ + 1, [] => []
  | fuel + 1, '\\' :: c :: rest =>
    let byte (n : Nat) (rest : Text) : Text :=
      if n % 256 = 0 then [] else Char.ofNat (n % 256) :: unescape fuel rest
    match letterEscape? c with
    | some d => d :: unescape fuel rest
    | none =>
      if c = '\'' || c = '"' || c = '?' then c :: unescape fuel rest
      else if '0' ≤ c && c ≤ '7' then
        match digitsAt 8 3 (c :: rest) with
        | some (n, rest) => byte n rest
        | none => c :: unescape fuel rest
      else if c = 'x' then
        match digitsAt 16 2 rest with
        | some (n, rest) => byte n rest
        | none => '\\' :: 'x' :: unescape fuel rest
      else if c = 'u' || c = 'U' then
        match digitsAt 16 (if c = 'u' then 4 else 8) rest with
        | some (0, _) => []
        | some (n, rest) => codePoint (c = 'U') n ++ unescape fuel rest
        | none => '\\' :: c :: unescape fuel rest
      else if c = 'c' then
        match rest with
        | d :: rest => Char.ofNat (d.toUpper.toNat % 32) :: unescape fuel rest
        | [] => ['\\', 'c']
      else '\\' :: c :: unescape fuel rest
  | fuel + 1, c :: rest => c :: unescape fuel rest

namespace Reader

/-- Text up to the next single quote. -/
def singleQuoted (line : Nat) : (fuel : Nat) → Reader Text
  | 0 => unclosed line ['\'']
  | fuel + 1 => do
    match ← nextRaw? with
    | some '\'' => return []
    | some c => return c :: (← singleQuoted line fuel)
    | none => unclosed line ['\'']

/-- Text up to the next single quote that no backslash hides. -/
def escapeQuoted (line : Nat) : (fuel : Nat) → Reader Text
  | 0 => unclosed line ['\'']
  | fuel + 1 => do
    match ← nextRaw? with
    | some '\'' => return []
    | some '\\' =>
      match ← nextRaw? with
      | some c => return '\\' :: c :: (← escapeQuoted line fuel)
      | none => unclosed line ['\'']
    | some c => return c :: (← escapeQuoted line fuel)
    | none => unclosed line ['\'']

def backquote : Char := Char.ofNat 0x60

/-- Text up to the next backquote, which backslashes hide. -/
def backquoted (line : Nat) (quoted : Bool) : (fuel : Nat) → Reader Text
  | 0 => unclosed line [backquote]
  | fuel + 1 => do
    match ← nextRaw? with
    | none => unclosed line [backquote]
    | some '\\' =>
      match ← nextRaw? with
      | none => unclosed line [backquote]
      | some c =>
        let rest ← backquoted line quoted fuel
        if c = '\\' || c = backquote || c = '$' || (quoted && c = '"') then return c :: rest
        else return '\\' :: c :: rest
    | some c => if c = backquote then return [] else return c :: (← backquoted line quoted fuel)

/-- The commands up to a parenthesis; here-documents around them are kept for later. -/
def bracketed (nested : NestedReader) : Reader Text := do
  let outer ← get
  set { outer with announced := [], next := none, nested := true, seen := [] }
  let text ← nested.commands
  let text := if text.head? = some '(' then ' ' :: text else text
  modify fun s =>
    { s with
      announced := outer.announced, next := outer.next, nested := outer.nested,
      seen := ')' :: text.reverse ++ outer.seen }
  return text

/-- Reads the character that closes what began in a line. -/
def close (c : Char) (line : Nat) : Reader Unit := do
  if !(← skipIf c) then unclosed line [c]

/-- A name of letters, or a number. -/
def nameOrDigits : Reader String := do
  match ← peek? with
  | some c =>
    if c.isDigit then return String.ofList (← takeWhile Char.isDigit (← fuel))
    else return String.ofList (← takeWhile isNameChar (← fuel))
  | none => return ""

/-- The texts that a character hidden by a backslash becomes. -/
def escaped (context : Context) (c : Char) : Part :=
  if !context.quoted then .quotes [.text true [c]]
  else
    let special :=
      c = '\\' || c = backquote || c = '$' || (c = '"' && context.doubles) ||
        (match context.ending with
        | .signs list => list.contains c
        | _ => false)
    .text true (if special then [c] else ['\\', c])

mutual

/-- The pieces of a text up to its end in the context, inside a number of open brackets. -/
def parts (nested : NestedReader) : (fuel : Nat) → Context → (depth : Nat) → Reader (List Part)
  | 0, _, _ => return []
  | fuel + 1, context, depth => do
    let more (part : Part) : Reader (List Part) := return part :: (← parts nested fuel context depth)
    match ← peek? with
    | none => return []
    | some c =>
      let isWord := match context.ending with
        | .word | .blank => true
        | _ => false
      let isProcess := isWord && ((← startsWith "<(") || (← startsWith ">("))
      if isProcess then
        skip
        skip
        let text ← bracketed nested
        more (.process (c = '<') text)
      else if context.ending.isAt depth c then return []
      else if c = '\\' then
        skip
        match ← nextRaw? with
        | none => more (.text true ['\\'])
        | some d => more (escaped context d)
      else if c = '\'' && context.singles then
        let line := (← get).line
        skip
        let content ← singleQuoted line (← Reader.fuel)
        more (.quotes [.text true content])
      else if c = '"' && context.doubles then
        let line := (← get).line
        skip
        let content ← parts nested fuel .doubleQuoted 0
        close '"' line
        more (.quotes (Part.merge content))
      else if c = '"' && context.numeric then
        skip
        parts nested fuel context depth
      else if c = '$' then
        skip
        let part ← dollar nested fuel context
        more part
      else if c = backquote then
        let line := (← get).line
        skip
        let text ← backquoted line context.quoted (← Reader.fuel)
        more (.output text)
      else
        let s ← get
        let alternatives := isWord && s.alternatives && "?*+@!".toList.contains c &&
          s.rest.tail.head? = some '('
        skip
        if alternatives then
          skip
          return .text context.quoted [c, '('] :: (← parts nested fuel context (depth + 1))
        else
          return .text context.quoted [c] ::
            (← parts nested fuel context (context.ending.depthAfter depth c))

/-- The expansion after a dollar sign, or the sign itself. -/
def dollar (nested : NestedReader) : (fuel : Nat) → Context → Reader Part
  | 0, _ => return .text false ['$']
  | fuel + 1, context => do
    let line := (← get).line
    match ← peek? with
    | none => return .text context.quoted ['$']
    | some '(' =>
      let expression ← attempt do
        skip
        if ← skipIf '(' then
          let content ← parts nested fuel (.arithmetic (.outside ['('] [')'] [')'])) 0
          if ← skipIf ')' then
            if ← skipIf ')' then return some content
            else if (← peekRaw?).isNone then unclosed line [')']
            else return none
          else unclosed line [')']
        else return none
      match expression with
      | some content => return .arithmetic (Part.merge content)
      | none =>
        skip
        return .output (← bracketed nested)
    | some '[' =>
      skip
      let content ← parts nested fuel (.arithmetic (.outside ['['] [']'] [']'])) 0
      close ']' line
      return .arithmetic (Part.merge content)
    | some '\x7b' =>
      skip
      let (source, subject, indirect, use) ← capture (braces nested fuel context line)
      return .parameter ("$\x7b".toList ++ source) indirect subject use
    | some '\'' =>
      let inWord := match context.ending with
        | .signs _ => true
        | _ => !context.quoted
      if inWord then
        skip
        let text ← escapeQuoted line (← Reader.fuel)
        return .quotes [.text true (unescape (text.length + 1) text)]
      else return .text context.quoted ['$']
    | some c =>
      if c = '"' && !context.quoted then return .text true []
      else if isNameStart c then
        let name ← nameOrDigits
        return .parameter ('$' :: name.toList) false (.parameter name) .value
      else if c = '@' || c = '*' then
        skip
        return .parameter ['$', c] false (.all "@" (c = '*')) .value
      else if isSpecialName c then
        skip
        return .parameter ['$', c] false (.parameter (String.ofList [c])) .value
      else return .text context.quoted ['$']

/-- What stands between braces, and the closing brace. -/
def braces (nested : NestedReader) : (fuel : Nat) → Context → (line : Nat) →
    Reader (Subject × Bool × Use)
  | 0, _, line => unclosed line ['\x7d']
  | fuel + 1, context, line => do
    let isLength ← attempt do
      if ← skipIf '#' then
        match ← subject? nested fuel with
        | some subject => if (← peek?) = some '\x7d' then return some subject else return none
        | none => return none
      else return none
    match isLength with
    | some subject =>
      close '\x7d' line
      return (subject, false, .length)
    | none =>
      let indirect ← attempt do
        if ← skipIf '!' then
          match ← peek? with
          | some c =>
            if isNameChar c || c = '#' || c = '@' || c = '*' || c = '?' then
              match ← subject? nested fuel with
              | some (.parameter name) =>
                match ← peek? with
                | some c =>
                  if (c = '@' || c = '*') && (← startsWith (String.ofList [c, '\x7d'])) then
                    skip
                    return some (.names name (c = '*'))
                  else return some (.parameter name)
                | none => return some (.parameter name)
              | found => return found
            else return none
          | none => return none
        else return none
      let found ← match indirect with
        | some subject => pure (some subject)
        | none => subject? nested fuel
      let use ← match found with
        | some (.names _ _) => pure Use.value
        | some _ => operation nested fuel context line
        | none => pure Use.malformed
      if !(← skipIf '\x7d') then
        let _ ← parts nested fuel context.word 0
        close '\x7d' line
        return (found.getD (.parameter ""), indirect.isSome, .malformed)
      else return (found.getD (.parameter ""), indirect.isSome, use)

/-- A parameter, perhaps with a subscript. -/
def subject? (nested : NestedReader) : (fuel : Nat) → Reader (Option Subject)
  | 0 => return none
  | fuel + 1 => do
    match ← peek? with
    | none => return none
    | some c =>
      if isNameChar c then
        let name ← nameOrDigits
        if !c.isDigit && (← peek?) = some '[' then
          let line := (← get).line
          skip
          let all? ← attempt do
            match ← peek? with
            | some sign =>
              if sign = '@' || sign = '*' then
                skip
                if ← skipIf ']' then return some (decide (sign = '*')) else return none
              else return none
            | none => return none
          match all? with
          | some joined => return some (.all name joined)
          | none =>
            let subscript ← parts nested fuel .subscript 0
            close ']' line
            return some (.element name (Part.merge subscript))
        else return some (.parameter name)
      else if c = '@' || c = '*' then
        skip
        return some (.all "@" (c = '*'))
      else if isSpecialName c then
        skip
        return some (.parameter (String.ofList [c]))
      else return none

/-- What follows a parameter between braces, up to the closing brace. -/
def operation (nested : NestedReader) : (fuel : Nat) → Context → (line : Nat) → Reader Use
  | 0, _, _ => return .malformed
  | fuel + 1, context, line => do
    let fallback? : Char → Option Fallback
      | '-' => some .substitute
      | '=' => some .assign
      | '?' => some .fail
      | '+' => some .alternative
      | _ => none
    let word : Reader (List Part) := return Part.merge (← parts nested fuel context.word 0)
    let pattern (signs : List Char) : Reader (List Part) :=
      return Part.merge (← parts nested fuel (.pattern signs) 0)
    match ← peek? with
    | none => unclosed line ['\x7d']
    | some '\x7d' => return .value
    | some ':' =>
      skip
      match (← peek?).bind fallback? with
      | some f =>
        skip
        return .fallback f true (← word)
      | none =>
        let offset ← parts nested fuel .slice 0
        if ← skipIf ':' then
          let length ← parts nested fuel .slice 0
          return .slice (Part.merge offset) (some (Part.merge length))
        else if offset.isEmpty then return .malformed
        else return .slice (Part.merge offset) none
    | some '%' =>
      skip
      let longest ← skipIf '%'
      return .cut true longest (← pattern ['\x7d'])
    | some '#' =>
      skip
      let longest ← skipIf '#'
      return .cut false longest (← pattern ['\x7d'])
    | some '/' =>
      skip
      let place ←
        if ← skipIf '/' then pure Place.every
        else if ← skipIf '#' then pure Place.atStart
        else if ← skipIf '%' then pure Place.atEnd
        else pure Place.first
      let first ← pattern ['/', '\x7d']
      if ← skipIf '/' then return .replace place first (← pattern ['\x7d'])
      else return .replace place first []
    | some '@' =>
      skip
      match ← peek? with
      | some letter =>
        if "UuLQEPAKak".toList.contains letter then
          skip
          return .transform letter
        else return .malformed
      | none => unclosed line ['\x7d']
    | some c =>
      let casing? : Option Casing := match c with
        | '^' => some .upper
        | ',' => some .lower
        | '~' => some .toggled
        | _ => none
      match casing?, fallback? c with
      | some casing, _ =>
        skip
        let all ← skipIf c
        return .recase casing all (← pattern ['\x7d'])
      | none, some f =>
        skip
        return .fallback f false (← word)
      | none, none => return .malformed

end

/-- A whole text of a context, with its source. -/
def word (nested : NestedReader) (context : Context) : Reader Word := do
  let (source, content) ← capture (do parts nested (2 * (← fuel)) context 0)
  return ⟨source, Part.merge content⟩

/-- Reads a text by itself, as a source that begins in the given line. -/
def within {α : Type} (text : Text) (line : Nat) (read : Reader α) : Reader α := do
  let outer ← get
  set { outer with rest := text, line, passed := [], seen := [], next := none, announced := [] }
  let result ← read
  modify fun inner =>
    { inner with
      rest := outer.rest, line := outer.line, passed := outer.passed, seen := outer.seen,
      next := outer.next, announced := outer.announced }
  return result

/-- The lines up to the end mark, how many there are with the mark, the text after it, and whether the
mark has been found; in a document with expansions a line that ends in a lone backslash goes on in the
next one. -/
def documentLines (document : AnnouncedDocument) : (fuel : Nat) → (continued : Bool) → Text →
    Text × Nat × Text × Bool
  | 0, _, rest => ([], 0, rest, false)
  | _ + 1, _, [] => ([], 0, [], false)
  | fuel + 1, continued, rest =>
    let rest := if document.dropsTabs ∧ !continued then rest.dropWhile (· = '\t') else rest
    let line := rest.takeWhile (· ≠ '\n')
    let after := rest.drop line.length
    if !continued ∧ line = document.delimiter then ([], 1, after.drop 1, true)
    else
      let slashes := (line.reverse.takeWhile (· = '\\')).length
      let (more, count, last, found) :=
        documentLines document fuel (document.expands && slashes % 2 = 1) (after.drop 1)
      (line ++ '\n' :: more, count + 1, last, found)

/-- Reads the here-documents that have been announced. -/
def documents (nested : NestedReader) : Reader Unit := do
  let announced := (← get).announced
  modify fun s => { s with announced := [] }
  for document in announced do
    let s ← get
    let (body, count, rest, found) := documentLines document (s.rest.length + 1) false s.rest
    let parts ←
      if document.expands then do
        let word ← within body s.line (word nested .document)
        pure word.parts
      else pure [.text true body]
    let warning : Text :=
      "warning: here-document at line ".toList ++ (toString document.line).toList ++
        " delimited by end-of-file (wanted ".toList ++ backquote :: document.delimiter ++ "')".toList
    modify fun s =>
      { s with
        rest
        line := s.line + count
        documents :=
          (document.number, ⟨document.delimiter, document.expands, document.dropsTabs, body, parts⟩) ::
            s.documents
        warnings :=
          if found then s.warnings else s.warnings ++ [(s.line + count - 1, warning)] }

end Reader

end KDispatch.Shell.Extended
