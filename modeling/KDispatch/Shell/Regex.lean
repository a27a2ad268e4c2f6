import KDispatch.Shell.Number
import KDispatch.Shell.Pattern

/-!
Regular expressions, basic and extended. A match is the leftmost and of those the longest one; the ways
to match are gone through in an order that prefers longer repetitions.
-/

namespace KDispatch.Shell

inductive Regex where
  | empty
  | char (c : Char)
  | anyChar
  | oneOf (inverted : Bool) (choices : List Pattern.Choice)
  | lineStart
  | lineEnd
  | wordBoundary (inside : Bool)
  | wordStart
  | wordEnd
  | textStart
  | textEnd
  | group (number : Nat) (r : Regex)
  | again (number : Nat)
  | both (a b : Regex)
  | either (a b : Regex)
  /-- At least `least` times, and at most `most` times if there is a limit. -/
  | repeated (r : Regex) (least : Nat) (most : Option Nat)

namespace Regex

/-- How texts are compared. -/
structure Mode where
  ignoresCase : Bool
  /-- Whether lines begin and end inside a text too. -/
  multiline : Bool

/-- Where a match has come to: the character before, the text from there on, and what the groups have
matched. -/
structure Place where
  before : Option Char
  rest : Text
  groups : List (Nat × Text)

def isWordChar (c : Char) : Bool := c.isAlphanum || c = '_'

def Place.next (p : Place) : Option (Char × Place) :=
  match p.rest with
  | [] => none
  | c :: rest => some (c, { p with before := some c, rest })

/-- Whether a word begins or ends at a place. -/
def Place.atBoundary (p : Place) : Bool :=
  p.before.any isWordChar != p.rest.head?.any isWordChar

def sameCase (ignoresCase : Bool) (a b : Char) : Bool :=
  a = b || (ignoresCase && a.toLower = b.toLower)

def allows (ignoresCase inverted : Bool) (choices : List Pattern.Choice) (c : Char) : Bool :=
  let found (c : Char) : Bool := choices.any (·.allows c)
  (found c || (ignoresCase && (found c.toLower || found c.toUpper))) != inverted

/-- The places without those that have as much text left as one before them. -/
def distinct (places : List Place) : List Place :=
  (places.foldl (fun (kept : List (Nat × Place)) p =>
    let length := p.rest.length
    if kept.any (·.1 = length) then kept else (length, p) :: kept) []).reverse.map (·.2)

/-- All places that a repetition can come to. -/
def repeatFrom (step : Place → List Place) (most : Option Nat) :
    (fuel : Nat) → (count : Nat) → (least : Nat) → List Place → List Place
  | 0, _, _, _ => []
  | fuel + 1, count, least, places =>
    let more :=
      if most.any (· ≤ count) then []
      else
        let next := distinct (places.flatMap fun p =>
          (step p).filter fun q => q.rest.length < p.rest.length || count < least)
        if next.isEmpty then [] else repeatFrom step most fuel (count + 1) least next
    more ++ (if least ≤ count then places else [])

/-- The places that a match which begins at a place can come to. -/
def places (mode : Mode) : Regex → Place → List Place
  | .empty, p => [p]
  | .char c, p =>
    match p.next with
    | some (d, q) => if sameCase mode.ignoresCase c d then [q] else []
    | none => []
  | .anyChar, p =>
    match p.next with
    | some (_, q) => [q]
    | none => []
  | .oneOf inverted choices, p =>
    match p.next with
    | some (c, q) => if allows mode.ignoresCase inverted choices c then [q] else []
    | none => []
  | .lineStart, p =>
    if p.before.isNone || (mode.multiline && p.before = some '\n') then [p] else []
  | .lineEnd, p =>
    if p.rest.isEmpty || (mode.multiline && p.rest.head? = some '\n') then [p] else []
  | .wordBoundary inside, p => if p.atBoundary != inside then [p] else []
  | .wordStart, p => if p.atBoundary && p.rest.head?.any isWordChar then [p] else []
  | .wordEnd, p => if p.atBoundary && p.before.any isWordChar then [p] else []
  | .textStart, p => if p.before.isNone then [p] else []
  | .textEnd, p => if p.rest.isEmpty then [p] else []
  | .group number r, p =>
    (places mode r p).map fun q =>
      let text := p.rest.take (p.rest.length - q.rest.length)
      { q with groups := (number, text) :: q.groups.filter (·.1 ≠ number) }
  | .again number, p =>
    let text := (p.groups.lookup number).getD []
    let here := p.rest.take text.length
    if here.length = text.length && (here.zip text).all fun (a, b) => sameCase mode.ignoresCase a b then
      [{ p with before := (text.getLast?).or p.before, rest := p.rest.drop text.length }]
    else []
  | .both a b, p => distinct ((places mode a p).flatMap (places mode b))
  | .either a b, p => distinct (places mode a p ++ places mode b p)
  | .repeated r least most, p =>
    distinct (repeatFrom (places mode r) most (p.rest.length + least + 2) 0 least [p])

/-- A match: the text before it, what it matches, the groups, and the text after it. -/
structure Match where
  before : Text
  text : Text
  groups : List (Nat × Text)
  after : Text

/-- The longest of the places, the first one among those of the same length. -/
def longest : List Place → Option Place
  | [] => none
  | p :: ps =>
    match longest ps with
    | some q => if q.rest.length < p.rest.length then some q else some p
    | none => some p

/-- The leftmost longest match in a text whose part before `text` is given in reverse. -/
def search (r : Regex) (mode : Mode) : (before : Text) → (text : Text) → Option Match
  | before, text =>
    match longest (places mode r ⟨before.head?, text, []⟩) with
    | some p => some ⟨before.reverse, text.take (text.length - p.rest.length), p.groups, p.rest⟩
    | none =>
      match text with
      | [] => none
      | c :: rest => search r mode (c :: before) rest

/-- The match at the start of a text. -/
def matchStart (r : Regex) (text : Text) : Option Match :=
  (longest (places ⟨false, false⟩ r ⟨none, text, []⟩)).map fun p =>
    ⟨[], text.take (text.length - p.rest.length), p.groups, p.rest⟩

/-- The choices between brackets, up to the closing one, which may come first. -/
def choices : (fuel : Nat) → (first : Bool) → Text → Option (List Pattern.Choice × Text)
  | 0, _, _ => none
  | _ + 1, _, [] => none
  | fuel + 1, first, c :: rest =>
    if c = ']' && !first then some ([], rest)
    else
      match c, rest with
      | '[', ':' :: named =>
        let name := named.takeWhile (· ≠ ':')
        match named.drop name.length with
        | ':' :: ']' :: after =>
          (choices fuel false after).map fun (more, last) =>
            (.kind (String.ofList name) :: more, last)
        | _ => none
      | '[', '.' :: d :: '.' :: ']' :: after | '[', '=' :: d :: '=' :: ']' :: after =>
        (choices fuel false after).map fun (more, last) => (.range d d :: more, last)
      | _, '-' :: d :: after =>
        if d = ']' then
          (choices fuel false rest).map fun (more, last) => (.range c c :: more, last)
        else (choices fuel false after).map fun (more, last) => (.range c d :: more, last)
      | _, _ => (choices fuel false rest).map fun (more, last) => (.range c c :: more, last)

/-- How an expression is written. -/
structure Dialect where
  extended : Bool
  /-- Whether a repetition of nothing is a mistake. -/
  strict : Bool

/-- What is doubtful in an expression that can be read. -/
inductive Remark where
  /-- A sign of repetition has nothing before it. -/
  | leading (sign : String)
  /-- The name of a class stands in only one pair of brackets. -/
  | bareClass
  deriving DecidableEq

def bareClassMessage : String := "character class syntax is [[:space:]], not [:space:]"

/-- Where reading an expression has come to. -/
structure Reading where
  rest : Text
  groups : Nat
  remarks : List Remark

abbrev Reader := StateT Reading (Except String)

def remark (r : Remark) : Reader Unit := modify fun s => { s with remarks := s.remarks ++ [r] }

def invalidPreceding : String := "Invalid preceding regular expression"

/-- The numbers in the braces of a repetition. -/
def bounds (d : Dialect) : Reader (Nat × Option Nat) := do
  let rest := (← get).rest
  let (least, _, rest) := Number.digits 10 rest 0 0
  let (most, rest) : Option Nat × Text :=
    match rest with
    | ',' :: rest =>
      match Number.digits 10 rest 0 0 with
      | (_, 0, rest) => (none, rest)
      | (most, _, rest) => (some most, rest)
    | rest => (some least, rest)
  let closed? : Option Text :=
    match d.extended, rest with
    | true, '\x7d' :: rest => some rest
    | false, '\\' :: '\x7d' :: rest => some rest
    | _, _ => none
  match closed? with
  | none =>
    throw (if rest.isEmpty then "Unmatched \\\x7b" else "Invalid content of \\\x7b\\\x7d")
  | some rest =>
    if most.any (· < least) then throw "Invalid content of \\\x7b\\\x7d"
    modify fun s => { s with rest }
    return (least, most)

/-- Whether a repetition with complete braces begins here. -/
def isInterval (rest : Text) : Bool :=
  let after := rest.dropWhile fun c => c.isDigit || c = ','
  after.head? = some '\x7d' && rest.head?.any fun c => c.isDigit || c = ','

/-- Repetitions behind an expression; `starred` tells whether the last one has been a star, and `leading`
whether the expression matches no character and is the first one. -/
def repetitions (d : Dialect) (leading : Bool) : (fuel : Nat) → (starred : Bool) → Regex → Reader Regex
  | 0, _, r => return r
  | fuel + 1, starred, r => do
    let follow (sign : String) (r : Regex) (rest : Text) : Reader Regex := do
      if leading then remark (.leading sign)
      modify fun s => { s with rest }
      repetitions d leading fuel (sign = "*") r
    match d.extended, (← get).rest with
    | extended, '*' :: rest =>
      if starred && d.strict && !extended then throw invalidPreceding
      follow "*" (.repeated r 0 none) rest
    | true, '+' :: rest | false, '\\' :: '+' :: rest => follow "+" (.repeated r 1 none) rest
    | true, '?' :: rest | false, '\\' :: '?' :: rest => follow "?" (.repeated r 0 (some 1)) rest
    | true, '\x7b' :: rest | false, '\\' :: '\x7b' :: rest =>
      if d.extended && !d.strict && !isInterval rest then return r
      else
        modify fun s => { s with rest }
        let (least, most) ← bounds d
        follow "\x7b...\x7d" (.repeated r least most) (← get).rest
    | _, _ => return r

/-- A character or class that an escape stands for. -/
def escaped (c : Char) : Regex :=
  let word : List Pattern.Choice := [.kind "alnum", .range '_' '_']
  match c with
  | 'w' => .oneOf false word
  | 'W' => .oneOf true word
  | 's' => .oneOf false [.kind "space"]
  | 'S' => .oneOf true [.kind "space"]
  | 'b' => .wordBoundary false
  | 'B' => .wordBoundary true
  | '<' => .wordStart
  | '>' => .wordEnd
  | '\x60' => .textStart
  | '\'' => .textEnd
  | c => .char c

/-- Whether an expression holds at a place and matches no character. -/
def isAnchor : Regex → Bool
  | .lineStart | .lineEnd | .wordBoundary _ | .wordStart | .wordEnd | .textStart | .textEnd => true
  | _ => false

/-- Whether the choices between brackets are the name of a class with its colons. -/
def isBareClass (choices : List Pattern.Choice) : Bool :=
  let letters := choices.mapM fun
    | .range first last => if first = last then some first else none
    | .kind _ => none
  match letters with
  | some (':' :: more) => more.getLast? = some ':' && more.any (· ≠ ':')
  | _ => false

/-- Brackets after the opening one. -/
def brackets (rest : Text) : Reader Regex := do
  let (inverted, inside) := match rest with
    | '^' :: inside => (true, inside)
    | inside => (false, inside)
  match choices (inside.length + 1) true inside with
  | some (choices, after) =>
    for choice in choices do
      match choice with
      | .range first last => if last < first then throw "Invalid range end"
      | .kind name =>
        if !Pattern.kindNames.contains name then throw "Invalid character class name"
    if isBareClass choices then remark .bareClass
    modify fun s => { s with rest := after }
    return .oneOf inverted choices
  | none =>
    throw (if inside.isEmpty then "Invalid regular expression" else "Unmatched [, [^, [:, [., or [=")

mutual

/-- Alternatives, up to a closing bracket or the end. -/
def alternatives (d : Dialect) : (fuel : Nat) → (depth : Nat) → Reader Regex
  | 0, _ => return .empty
  | fuel + 1, depth => do
    let first ← branch d fuel depth true
    let more (rest : Text) : Reader Regex := do
      modify fun s => { s with rest }
      return .either first (← alternatives d fuel depth)
    match d.extended, (← get).rest with
    | true, '|' :: rest => more rest
    | false, '\\' :: '|' :: rest => more rest
    | _, _ => return first

/-- Expressions one after the other; `first` tells whether only anchors have come before. -/
def branch (d : Dialect) : (fuel : Nat) → (depth : Nat) → (first : Bool) → Reader Regex
  | 0, _, _ => return .empty
  | fuel + 1, depth, first => do
    let text := (← get).rest
    let go (r : Regex) (rest : Text) : Reader Regex := do
      modify fun s => { s with rest }
      let r ← repetitions d false (rest.length + 1) false r
      return .both r (← branch d fuel depth false)
    let anchored (r : Regex) (rest : Text) (first : Bool) : Reader Regex := do
      modify fun s => { s with rest }
      let r ←
        if d.extended && !d.strict then repetitions d first (rest.length + 1) false r else pure r
      return .both r (← branch d fuel depth first)
    let grouped (rest : Text) : Reader Regex := do
      let number := (← get).groups + 1
      modify fun s => { s with rest, groups := number }
      let inner ← alternatives d fuel (depth + 1)
      let closed? : Option Text := match d.extended, (← get).rest with
        | true, ')' :: rest => some rest
        | false, '\\' :: ')' :: rest => some rest
        | _, _ => none
      match closed? with
      | some rest => go (.group number inner) rest
      | none => throw "Unmatched ( or \\("
    match d.extended, text with
    | _, [] => return .empty
    | true, '|' :: _ => return .empty
    | false, '\\' :: '|' :: _ => return .empty
    | true, ')' :: rest =>
      if 0 < depth then return .empty
      else if d.strict then throw "Unmatched ) or \\)"
      else go (.char ')') rest
    | false, '\\' :: ')' :: _ =>
      if depth = 0 then throw "Unmatched ) or \\)" else return .empty
    | true, '(' :: rest => grouped rest
    | false, '\\' :: '(' :: rest => grouped rest
    | _, '[' :: rest =>
      let r ← brackets rest
      go r (← get).rest
    | _, '.' :: rest => go .anyChar rest
    | extended, '^' :: rest =>
      if extended || first then anchored .lineStart rest (first && extended)
      else go (.char '^') rest
    | extended, '$' :: rest =>
      let isLast := match rest with
        | [] => true
        | '\\' :: ')' :: _ | '\\' :: '|' :: _ => true
        | _ => false
      if extended || isLast then anchored .lineEnd rest (first && extended)
      else go (.char '$') rest
    | false, '*' :: rest => go (.char '*') rest
    | true, '*' :: _ | true, '+' :: _ | true, '?' :: _ =>
      if d.strict then throw invalidPreceding else anchored .empty text first
    | true, '\x7b' :: rest =>
      if d.strict then throw invalidPreceding
      else if isInterval rest then anchored .empty text first
      else go (.char '\x7b') rest
    | false, '\\' :: '\x7b' :: rest =>
      if d.strict then throw invalidPreceding else go (.char '\x7b') rest
    | _, ['\\'] => throw "Trailing backslash"
    | _, '\\' :: c :: rest =>
      if c.isDigit && c ≠ '0' then
        let number := c.toNat - '0'.toNat
        if (← get).groups < number then throw "Invalid back reference"
        else go (.again number) rest
      else if (escaped c).isAnchor then anchored (escaped c) rest (first && d.extended)
      else go (escaped c) rest
    | _, c :: rest => go (.char c) rest

end

/-- An expression that has been read. -/
structure Parsed where
  regex : Regex
  groups : Nat
  remarks : List Remark

/-- The expression that a text writes; tells what is wrong with one that is malformed. -/
def parse (d : Dialect) (text : Text) : Except String Parsed := do
  let (r, reading) ← (alternatives d (4 * text.length + 8) 0).run ⟨text, 0, []⟩
  return ⟨r, reading.groups, reading.remarks⟩

end Regex

end KDispatch.Shell
