import KDispatch.Shell.Expansion
import KDispatch.Shell.Pattern

/-!
Patterns for texts, also with alternatives: `@(a|b)` stands for one of them, `?(a)` for one or none,
`*(a)` and `+(a)` for some of them in a row, and `!(a)` for anything else. Matching goes from a set of
places in a text to the places that a part of the pattern can lead to. Words that are expanded become patterns
too, which stand for the paths that they match.
-/

namespace KDispatch.Shell.Extended

/-- How a pattern is read and matched. -/
structure PatternMode where
  alternatives : Bool
  /-- Whether upper and lower case count as the same. -/
  ignoresCase : Bool

inductive Matcher where
  | char (c : Char)
  | one
  | any
  | oneOf (inverted : Bool) (choices : List Pattern.Choice)
  /-- The sign before the parenthesis tells how often the alternatives match. -/
  | group (sign : Char) (alternatives : List (List Matcher))

namespace Matcher

/-- The alternatives up to the closing parenthesis, and the pattern after it. -/
def alternatives? : (text : List PatternChar) → (depth : Nat) → (current : List PatternChar) →
    Option (List (List PatternChar) × List PatternChar)
  | [], _, _ => none
  | c :: rest, depth, current =>
    if c.quoted then alternatives? rest depth (c :: current)
    else
      match c.char, depth with
      | ')', 0 => some ([current.reverse], rest)
      | '|', 0 => (alternatives? rest 0 []).map fun (more, rest) => (current.reverse :: more, rest)
      | ')', depth + 1 => alternatives? rest depth (c :: current)
      | '(', depth => alternatives? rest (depth + 1) (c :: current)
      | _, depth => alternatives? rest depth (c :: current)

/-- Compiles a pattern; brackets that are not closed stand for themselves. -/
def compile (extended : Bool) : (fuel : Nat) → List PatternChar → List Matcher
  | 0, _ => []
  | _ + 1, [] => []
  | fuel + 1, c :: rest =>
    if c.quoted then .char c.char :: compile extended fuel rest
    else
      let group? :=
        match rest with
        | ⟨'(', false⟩ :: inside =>
          if extended && "?*+@!".toList.contains c.char then alternatives? inside 0 [] else none
        | _ => none
      match group? with
      | some (alternatives, after) =>
        .group c.char (alternatives.map (compile extended fuel)) :: compile extended fuel after
      | none =>
        match c.char with
        | '*' => .any :: compile extended fuel rest
        | '?' => .one :: compile extended fuel rest
        | '\\' =>
          match rest with
          | [] => [.char '\\']
          | next :: rest => .char next.char :: compile extended fuel rest
        | '[' =>
          let (inverted, inside) :=
            match rest with
            | ⟨'!', false⟩ :: inside | ⟨'^', false⟩ :: inside => (true, inside)
            | _ => (false, rest)
          match Pattern.choices? (inside.length + 1) true inside with
          | some (choices, after) => .oneOf inverted choices :: compile extended fuel after
          | none => .char '[' :: compile extended fuel rest
        | c => .char c :: compile extended fuel rest

/-- Whether a pattern can match more than one text. -/
def isSpecial (pattern : List Matcher) : Bool :=
  pattern.any fun
    | .char _ => false
    | _ => true

/-- Places in their order, each of them once. -/
def union : List Nat → List Nat → List Nat
  | [], b => b
  | a, [] => a
  | x :: a, y :: b =>
    if x < y then x :: union a (y :: b)
    else if y < x then y :: union (x :: a) b
    else x :: union a b

/-- The places that repeated steps lead to. -/
def closure (step : List Nat → List Nat) : (fuel : Nat) → List Nat → List Nat
  | 0, places => places
  | fuel + 1, places =>
    let next := union places (step places)
    if next.length = places.length then places else closure step fuel next

/-- Whether a choice allows a character. -/
def allows (fold : Bool) (choices : List Pattern.Choice) (c : Char) : Bool :=
  choices.any (·.allows c) ||
    (fold && (choices.any (·.allows c.toLower) || choices.any (·.allows c.toUpper)))

mutual

/-- The places in a text that a pattern can lead to from some places. -/
def ends (fold : Bool) (text : Array Char) : List Matcher → List Nat → List Nat
  | [], places => places
  | matcher :: more, places =>
    if places.isEmpty then [] else ends fold text more (after fold text matcher places)

def after (fold : Bool) (text : Array Char) : Matcher → List Nat → List Nat
  | .char c, places =>
    places.filterMap fun i =>
      match text[i]? with
      | some d => if c = d || (fold && c.toLower = d.toLower) then some (i + 1) else none
      | none => none
  | .one, places => places.filterMap fun i => if i < text.size then some (i + 1) else none
  | .any, places =>
    match places with
    | first :: _ => List.range' first (text.size + 1 - first)
    | [] => []
  | .oneOf inverted choices, places =>
    places.filterMap fun i =>
      match text[i]? with
      | some c => if allows fold choices c != inverted then some (i + 1) else none
      | none => none
  | .group sign alternatives, places =>
    let once := anyEnds fold text alternatives places
    match sign with
    | '?' => union places once
    | '*' => closure (anyEnds fold text alternatives) (text.size + 1) places
    | '+' => closure (anyEnds fold text alternatives) (text.size + 1) once
    | '!' =>
      places.foldl (fun found i =>
        let excluded := anyEnds fold text alternatives [i]
        union found ((List.range' i (text.size + 1 - i)).filter (!excluded.contains ·))) []
    | _ => once

/-- The places that one of some patterns can lead to. -/
def anyEnds (fold : Bool) (text : Array Char) : List (List Matcher) → List Nat → List Nat
  | [], _ => []
  | pattern :: more, places => union (ends fold text pattern places) (anyEnds fold text more places)

end

end Matcher

/-- A compiled pattern. -/
structure TextPattern where
  fold : Bool
  matchers : List Matcher

namespace TextPattern

def ofChars (mode : PatternMode) (pattern : List PatternChar) : TextPattern :=
  ⟨mode.ignoresCase, Matcher.compile mode.alternatives (pattern.length + 1) pattern⟩

/-- The places where a match can end that begins at a place. -/
def endsFrom (pattern : TextPattern) (text : Array Char) (start : Nat) : List Nat :=
  Matcher.ends pattern.fold text pattern.matchers [start]

/-- Whether the pattern matches the whole of a text. -/
def isMatch (pattern : TextPattern) (text : Text) : Bool :=
  (pattern.endsFrom text.toArray 0).contains text.length

/-- Cuts off what the pattern matches at the start of a text. -/
def cutStart (pattern : TextPattern) (longest : Bool) (text : Text) : Text :=
  let places := pattern.endsFrom text.toArray 0
  match if longest then places.getLast? else places.head? with
  | some n => text.drop n
  | none => text

/-- Cuts off what the pattern matches at the end of a text. -/
def cutEnd (pattern : TextPattern) (longest : Bool) (text : Text) : Text :=
  let content := text.toArray
  let starts := (List.range (text.length + 1)).filter fun n =>
    (pattern.endsFrom content n).contains text.length
  match if longest then starts.head? else starts.getLast? with
  | some n => text.take n
  | none => text

/-- Replaces matches from a place on; `limit` tells how many at most. -/
def replaceFrom (pattern : TextPattern) (content : Array Char) (replacement : Text → Text) :
    (fuel : Nat) → (limit : Nat) → (place : Nat) → Text
  | 0, _, place => (content.extract place content.size).toList
  | fuel + 1, limit, place =>
    if limit = 0 then (content.extract place content.size).toList
    else
      match (pattern.endsFrom content place).getLast? with
      | some n =>
        if n = place then
          match content[place]? with
          | some c => c :: replaceFrom pattern content replacement fuel limit (place + 1)
          | none => []
        else
          replacement (content.extract place n).toList ++
            replaceFrom pattern content replacement fuel (limit - 1) n
      | none =>
        match content[place]? with
        | some c => c :: replaceFrom pattern content replacement fuel limit (place + 1)
        | none => []

/-- Replaces the first match, or all of them. -/
def replace (pattern : TextPattern) (all : Bool) (replacement : Text → Text) (text : Text) : Text :=
  if pattern.matchers.isEmpty then text
  else
    replaceFrom pattern text.toArray replacement (text.length + 1)
      (if all then text.length + 1 else 1) 0

/-- Replaces the longest match at the start of a text. -/
def replaceStart (pattern : TextPattern) (replacement : Text → Text) (text : Text) : Text :=
  match (pattern.endsFrom text.toArray 0).getLast? with
  | some n => replacement (text.take n) ++ text.drop n
  | none => text

/-- Replaces the longest match at the end of a text. -/
def replaceEnd (pattern : TextPattern) (replacement : Text → Text) (text : Text) : Text :=
  let content := text.toArray
  let starts := (List.range (text.length + 1)).filter fun n =>
    (pattern.endsFrom content n).contains text.length
  match starts.head? with
  | some n => text.take n ++ replacement (text.drop n)
  | none => text

end TextPattern

/-!
Words while they are expanded: characters that know whether they are quoted and whether fields can be
split at them, marks where quotes stand, and gaps between the values of a list.
-/

inductive Glyph where
  | char (c : Char) (quoted splits : Bool)
  /-- Quotes make a field even if they hold nothing. -/
  | mark
  /-- One value of a list ends and the next one begins. -/
  | gap
  /-- A list without values, for which quotes around it make no field. -/
  | nothing
  deriving DecidableEq

namespace Glyph

def ofText (quoted splits : Bool) (text : Text) : List Glyph := text.map fun c => .char c quoted splits

/-- The characters; values of a list are joined by blanks. -/
def text (glyphs : List Glyph) : Text :=
  glyphs.filterMap fun
    | .char c _ _ => some c
    | .gap => some ' '
    | _ => none

def pattern (glyphs : List Glyph) : List PatternChar :=
  glyphs.filterMap fun
    | .char c quoted _ => some ⟨c, quoted⟩
    | .gap => some ⟨' ', true⟩
    | _ => none

def isNothing : Glyph → Bool
  | .nothing => true
  | _ => false

/-- Between double quotes. -/
def quotes (inner : List Glyph) : List Glyph :=
  if !inner.isEmpty && inner.all isNothing then [.nothing]
  else .mark :: inner.filter (!·.isNothing)

/-- Values next to each other, with gaps between them. -/
def spread (values : List (List Glyph)) : List Glyph := [Glyph.gap].intercalate values

end Glyph

/-- Fields while they are split off. -/
structure Splitting where
  /-- The fields so far, in reverse. -/
  fields : List (List Glyph)
  /-- What has been read of the next field, in reverse. -/
  current : List Glyph
  /-- Whether a blank has ended the last field. -/
  afterBlank : Bool

namespace Splitting

def isBlank (c : Char) : Bool := c = ' ' || c = '\t' || c = '\n'

def endField (s : Splitting) : Splitting :=
  { s with fields := s.current.reverse :: s.fields, current := [] }

/-- Goes on with a glyph; `ifs` are the separators. -/
def step (ifs : Text) (s : Splitting) (glyph : Glyph) : Splitting :=
  match glyph with
  | .nothing => s
  | .mark => { s with current := .mark :: s.current, afterBlank := false }
  | .gap => if s.current.isEmpty then s else { s.endField with afterBlank := false }
  | .char c quoted splits =>
    if splits && ifs.contains c then
      if isBlank c then
        if s.current.isEmpty then s else { s.endField with afterBlank := true }
      else if s.current.isEmpty && s.afterBlank then { s with afterBlank := false }
      else { s.endField with afterBlank := false }
    else { s with current := .char c quoted splits :: s.current, afterBlank := false }

/-- The fields of glyphs. -/
def split (ifs : Text) (glyphs : List Glyph) : List (List Glyph) :=
  let s := glyphs.foldl (step ifs) ⟨[], [], false⟩
  (if s.current.isEmpty then s else s.endField).fields.reverse

end Splitting

/-!
The paths that a pattern matches. Each part between slashes is matched against the names in a directory,
and a part of two asterisks may stand for any number of directories.
-/

/-- How paths are matched. -/
structure PathMode where
  patterns : PatternMode
  /-- Whether names that begin with a dot count like others. -/
  hidden : Bool
  /-- Whether two asterisks stand for any directories. -/
  deep : Bool

namespace PathMode

/-- Whether a pattern can match more than one name. -/
def isSpecial (mode : PathMode) (pattern : List PatternChar) : Bool :=
  Matcher.isSpecial (TextPattern.ofChars mode.patterns pattern).matchers

/-- The text that a pattern without special characters stands for. -/
def plain (mode : PathMode) (pattern : List PatternChar) : Text :=
  (TextPattern.ofChars mode.patterns pattern).matchers.filterMap fun
    | .char c => some c
    | _ => none

/-- The names in a directory that a pattern matches. -/
def matching (mode : PathMode) (files : FileSystem) (directory : Text) (pattern : List PatternChar) :
    List Text :=
  let dotted := match pattern with
    | ⟨'.', _⟩ :: _ | ⟨'\\', false⟩ :: ⟨'.', _⟩ :: _ => true
    | _ => false
  let compiled := TextPattern.ofChars mode.patterns pattern
  (Shell.Paths.namesIn files directory).filter fun name =>
    (dotted || mode.hidden || name.head? ≠ some '.') && compiled.isMatch name

/-- Whether a path leads to a directory, which is not a link if `strict`. -/
def isDirectory (files : FileSystem) (strict : Bool) (path : Text) : Bool :=
  match files.locateWith (!strict) (Task.path path) with
  | .ok location => files.node? location = some .directory
  | .error _ => false

/-- The directories below a path that ends in a slash or is empty, to a depth; the path itself comes
first. -/
def below (mode : PathMode) (files : FileSystem) : (depth : Nat) → (base : Text) → List Text
  | 0, base => [base]
  | depth + 1, base =>
    let names := (Shell.Paths.namesIn files base).filter fun name =>
      (mode.hidden || name.head? ≠ some '.') && isDirectory files true (base ++ name)
    base :: names.flatMap fun name => below mode files depth (base ++ name ++ ['/'])

def isDeep (mode : PathMode) (pattern : List PatternChar) : Bool :=
  mode.deep && pattern = [⟨'*', false⟩, ⟨'*', false⟩]

/-- How deep directories are gone down. -/
def depth : Nat := 1000

/-- The paths that a pattern matches below a path that ends in a slash or is empty. -/
def expand (mode : PathMode) (files : FileSystem) : Text → List (List PatternChar) → List Text
  | _, [] => []
  | base, [pattern] =>
    if mode.isDeep pattern then
      (mode.below files depth base).flatMap fun directory =>
        (if directory = base && base.isEmpty then [] else if directory = base then [base] else []) ++
          (mode.matching files directory [⟨'*', false⟩]).map (directory ++ ·)
    else if pattern.isEmpty then
      if isDirectory files false (if base.isEmpty then ['.'] else base) then [base] else []
    else if mode.isSpecial pattern then (mode.matching files base pattern).map (base ++ ·)
    else
      let path := base ++ mode.plain pattern
      if Shell.Paths.isThere files path then [path] else []
  | base, pattern :: more =>
    if mode.isDeep pattern then
      let skipped := more.dropWhile mode.isDeep
      match skipped with
      | [[]] => ((mode.below files depth base).drop (if base.isEmpty then 1 else 0))
      | _ => (mode.below files depth base).flatMap fun directory => expand mode files directory more
    else if mode.isSpecial pattern then
      (mode.matching files base pattern).flatMap fun name =>
        if isDirectory files false (base ++ name) then expand mode files (base ++ name ++ ['/']) more
        else []
    else expand mode files (base ++ mode.plain pattern ++ ['/']) more

/-- The paths that a pattern matches, in their order. -/
def paths (mode : PathMode) (files : FileSystem) (pattern : List PatternChar) : List Text :=
  (Shell.Paths.sorted (mode.expand files [] (Shell.Paths.components pattern))).eraseDups

end PathMode

end KDispatch.Shell.Extended
