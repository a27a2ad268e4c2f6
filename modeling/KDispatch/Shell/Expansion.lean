import KDispatch.Shell.Arithmetic
import KDispatch.Shell.Pattern
import KDispatch.Shell.State

/-!
What words become: parameters, the output of commands and arithmetic are put in, what is not quoted is
split into fields, and fields that are patterns become the paths they match. The output of commands is
handed in.
-/

namespace KDispatch.Shell

/-- A character of an expanded word, or a place where quotation marks stand. -/
inductive Glyph where
  | char (c : Char) (quoted : Bool)
  | mark
  deriving DecidableEq

/-- How the text of a segment is split. -/
inductive Region where
  | fixed
  | split
  /-- Only where one parameter ends and the next one begins. -/
  | parameters
  deriving DecidableEq

structure Segment where
  region : Region
  glyphs : List Glyph

namespace Glyph

def ofText (quoted : Bool) (text : Text) : List Glyph := text.map fun c => .char c quoted

def text (glyphs : List Glyph) : Text :=
  glyphs.filterMap fun
    | .char c _ => some c
    | .mark => none

def pattern (glyphs : List Glyph) : List PatternChar :=
  glyphs.filterMap fun
    | .char c quoted => some ⟨c, quoted⟩
    | .mark => none

end Glyph

/-- All glyphs of a list of segments. -/
def Segment.all (segments : List Segment) : List Glyph := segments.flatMap (·.glyphs)

/-- The text of segments without the marks between parameters. -/
def Segment.text (segments : List Segment) : Text :=
  (Glyph.text (Segment.all segments)).filter (· ≠ '\x00')

/-- Fields while they are split off. -/
structure Splitting where
  /-- The fields so far, in reverse. -/
  fields : List (List Glyph)
  /-- What has been read of the next field, in reverse. -/
  current : List Glyph
  /-- Whether a blank has ended the last field. -/
  space : Bool
  /-- Whether the last region has been one of parameters. -/
  parameters : Bool
  /-- How many fields may still be made, if there is a limit. -/
  left : Option Nat
  /-- How many glyphs at the end of the last field are separators only. -/
  removable : Option Nat

namespace Splitting

def start (limit : Option Nat) : Splitting := ⟨[], [], false, false, limit, none⟩

def isBlank (c : Char) : Bool := c = ' ' || c = '\t' || c = '\n' || c = '\x00'

/-- Goes on with a glyph once all but the last field have been made. -/
def stepLast (ifs : Text) (s : Splitting) (glyph : Glyph) : Splitting :=
  let separator := match glyph with
    | .char c _ => ifs.contains c
    | .mark => false
  let blank := match glyph with
    | .char c _ => separator && isBlank c
    | .mark => false
  let grown := { s with current := glyph :: s.current }
  if blank then { grown with removable := some (s.removable.getD 0 + 1) }
  else if separator && s.space then { grown with removable := s.removable.map (· + 1), space := false }
  else { grown with removable := none, space := false }

/-- Ends a field at a separator. -/
def endField (s : Splitting) (glyph : Glyph) : Splitting :=
  match s.left with
  | some 1 => { s with current := glyph :: s.current, left := some 0, removable := some 1 }
  | left =>
    { s with
      fields := s.current.reverse :: s.fields
      current := []
      left := left.map (· - 1) }

/-- Goes on with a glyph of a region whose separators are `ifs`. -/
def step (ifs : Text) (afterParameters : Bool) (s : Splitting) (glyph : Glyph) : Splitting :=
  if s.left = some 0 then stepLast ifs s glyph
  else
    let separator := match glyph with
      | .char c _ => ifs.contains c || c = '\x00'
      | .mark => false
    let blank := match glyph with
      | .char c _ => separator && isBlank c
      | .mark => false
    if s.space then
      if blank then { s with current := [] }
      else if separator then { s with current := [], space := false }
      else { s with current := [glyph], space := false }
    else if separator then
      let s := { s with space := !(afterParameters || s.parameters) && blank }
      if s.current.isEmpty && s.space then { s with space := false } else endField s glyph
    else { s with current := glyph :: s.current }

/-- Goes on with a segment. -/
def segment (ifs : Text) (s : Splitting) (segment : Segment) : Splitting :=
  match segment.region with
  | .fixed => { s with current := segment.glyphs.reverse ++ s.current }
  | .split =>
    segment.glyphs.foldl (step ifs s.parameters) { s with space := false, parameters := false }
  | .parameters =>
    segment.glyphs.foldl (step [] s.parameters) { s with space := false, parameters := true }

/-- The fields; what is left makes one unless it is nothing. -/
def finish (s : Splitting) : List (List Glyph) :=
  let last := match s.removable with
    | some n => s.current.drop n
    | none => s.current
  if last.isEmpty && !s.parameters then s.fields.reverse else (last.reverse :: s.fields).reverse

end Splitting

/-- The fields that segments are split into, as many as the limit allows. -/
def Segment.fields (ifs : Text) (limit : Option Nat) (segments : List Segment) :
    List (List Glyph) :=
  (segments.foldl (Splitting.segment ifs) (Splitting.start limit)).finish

namespace Paths

/-- The parts of a pattern between slashes. -/
def components (pattern : List PatternChar) : List (List PatternChar) :=
  pattern.foldr
    (fun c parts =>
      if c.char = '/' then [] :: parts
      else
        match parts with
        | part :: parts => (c :: part) :: parts
        | [] => [[c]])
    [[]]

/-- The names that stand in a directory, given by its path. -/
def namesIn (files : FileSystem) (directory : Text) : List Text :=
  match files.locate (if directory.isEmpty then "." else Task.path directory) with
  | .error _ => []
  | .ok location =>
    match files.node? location with
    | some .directory => (files.entries location).map Task.ofPath
    | _ => []

def isThere (files : FileSystem) (path : Text) : Bool := (files.openToRead (Task.path path)).isOk

/-- The names in a directory that a pattern matches; names that begin with a dot are only matched by a
dot. -/
def matching (files : FileSystem) (directory : Text) (pattern : List PatternChar) : List Text :=
  let hidden := match pattern with
    | ⟨'.', _⟩ :: _ | ⟨'\\', false⟩ :: ⟨'.', _⟩ :: _ => true
    | _ => false
  let elements := Pattern.ofChars pattern
  let names := (if hidden then [['.'], ['.', '.']] else []) ++ namesIn files directory
  names.filter fun name => (hidden || name.head? ≠ some '.') && Pattern.isMatch elements name

/-- The paths that a pattern matches below a path that ends in a slash or is empty. -/
def expand (files : FileSystem) : Text → List (List PatternChar) → List Text
  | _, [] => []
  | base, [pattern] =>
    if Pattern.isSpecial (Pattern.ofChars pattern) then
      (matching files base pattern).map (base ++ ·)
    else
      let path := base ++ plain pattern
      if isThere files path then [path] else []
  | base, pattern :: more =>
    if Pattern.isSpecial (Pattern.ofChars pattern) then
      (matching files base pattern).flatMap fun name => expand files (base ++ name ++ ['/']) more
    else expand files (base ++ plain pattern ++ ['/']) more
where
  plain (pattern : List PatternChar) : Text :=
    (Pattern.ofChars pattern).filterMap fun
      | .char c => some c
      | _ => none

/-- The order of the paths that a pattern matches. -/
def sorted (paths : List Text) : List Text :=
  paths.mergeSort fun a b => !(b.map Char.toNat < a.map Char.toNat)

end Paths

/-- What a field becomes: the paths that it matches if it is a pattern and matches any. -/
def Glyph.paths (files : FileSystem) (field : List Glyph) : List Text :=
  let pattern := Glyph.pattern field
  let special := pattern.any fun c => !c.quoted && (c.char = '*' || c.char = '?' || c.char = '[')
  let found :=
    if special && Pattern.isSpecial (Pattern.ofChars pattern) then
      Paths.sorted (Paths.expand files [] (Paths.components pattern))
    else []
  if found.isEmpty then [Glyph.text field] else found

/-- Where a tilde stands for a directory. -/
inductive Tilde where
  | never
  /-- At the start of the word. -/
  | atStart
  /-- At the start of an assigned value, and after colons in it. -/
  | inValue
  /-- After the first equals sign of the word, and after colons behind it. -/
  | afterEquals
  deriving DecidableEq

/-- What words are expanded for. -/
structure Purpose where
  /-- Whether the word is split into fields. -/
  splits : Bool
  /-- Whether the word stands in place of a parameter, where its unquoted text is split too. -/
  inPlace : Bool

namespace Expansion

/-- The directory that a tilde with a name stands for. -/
def home? (name : Text) : Command (Option Text) := do
  if name.isEmpty then Command.variableValue? "HOME"
  else if name = "root".toList then return some "/root".toList
  else return none

/-- Puts directories in for tildes; `here` tells whether one may stand at the start of the text, and
`last` whether the word ends with the text. -/
def tildesIn (colons last : Bool) : (fuel : Nat) → (here : Bool) → Text → Command Word
  | 0, _, text => return [.text false text]
  | _ + 1, _, [] => return []
  | fuel + 1, here, c :: rest => do
    let ends (c : Char) : Bool := c = '/' || (colons && c = ':')
    if here && c = '~' then
      let name := rest.takeWhile (!ends ·)
      let after := rest.drop name.length
      let home ← if after.isEmpty && !last then pure none else home? name
      match home with
      | some directory => return .text true directory :: (← tildesIn colons last fuel false after)
      | none => return .text false ('~' :: name) :: (← tildesIn colons last fuel false after)
    else
      return .text false [c] :: (← tildesIn colons last fuel (colons && c = ':') rest)

/-- Puts directories in for the tildes of a word. -/
def tildes (tilde : Tilde) (word : Word) : Command Word := do
  let colons := tilde = .inValue || tilde = .afterEquals
  match tilde, word with
  | .never, _ => return word
  | .afterEquals, .text false content :: more =>
    let name := content.takeWhile (· ≠ '=')
    match content.drop name.length with
    | '=' :: value =>
      let start ← tildesIn true more.isEmpty (value.length + 1) true value
      return .text false (name ++ ['=']) :: start ++ (← later colons more)
    | _ => return word
  | _, .text false content :: more =>
    let start ← tildesIn colons more.isEmpty (content.length + 1) true content
    return start ++ (← later colons more)
  | _, _ => later colons word
where
  later (colons : Bool) : Word → Command Word
    | [] => return []
    | .text false content :: more => do
      if colons && content.contains '~' then
        let parts ← tildesIn true more.isEmpty (content.length + 1) false content
        return parts ++ (← later colons more)
      else return .text false content :: (← later colons more)
    | part :: more => return part :: (← later colons more)

/-- Puts directories in for tildes if there are any. -/
def withTildes (tilde : Tilde) (word : Word) : Command Word := do
  let any := word.any fun
    | .text false content => content.contains '~'
    | _ => false
  if any then return Word.merge (← tildes tilde word) else return word

/-- The value of a parameter as a segment. -/
def parameter? (purpose : Purpose) (quoted : Bool) (name : String) : Command (Option Segment) := do
  let segment (text : Text) (region : Region) : Segment := ⟨region, Glyph.ofText quoted text⟩
  if name = "@" ∨ name = "*" then
    let arguments := (← get).arguments
    let joiner ←
      if purpose.splits && (!quoted || name = "@") then pure ['\x00'] else Command.joiner
    let text := joiner.intercalate arguments
    return some (segment text (if !quoted then .split
      else if name = "@" && !arguments.isEmpty then .parameters else .fixed))
  else
    return (← Command.parameter? name).map fun text => segment text (if quoted then .fixed else .split)

/-- Refuses a parameter that is not set. -/
def refuseUnset {α : Type} (name : String) (message : Text) : Command α :=
  Command.fail (name.toList ++ ": ".toList ++ message)

/-- Variables in arithmetic. -/
def valueStore (expression : Text) : Arithmetic.Variables Command where
  value name := do
    match ← Command.variableValue? name with
    | none => return 0
    | some text =>
      match Number.signed? none text with
      | some (n, rest) =>
        if rest.all Number.isSpace && Number.fits n then return n else illegal text
      | none => if text.all Number.isSpace then return 0 else illegal text
  assign name n := do
    Command.setVariable name (some (Number.decimal n)) false
    return n
  divisionByZero :=
    Command.fail ("arithmetic expression: division by zero: \"".toList ++ expression ++ ['"'])
where
  illegal (text : Text) : Command Int := Command.fail ("Illegal number: ".toList ++ text)

/-- The value of an arithmetic expression. -/
def arithmetic (text : Text) : Command Int := do
  match Arithmetic.parse text with
  | .ok expression => expression.eval (valueStore text)
  | .error message =>
    Command.fail
      ("arithmetic expression: ".toList ++ message.toList ++ ": \"".toList ++ text ++ ['"'])

/-- The output of a command without the line ends at its end. -/
def withoutLineEnds (text : Text) : Text :=
  (text.reverse.dropWhile (· = '\n')).reverse.filter (· ≠ '\x00')

mutual

/-- The segments of a word whose tildes have been replaced. -/
def segments (output : Script → Command Text) : (fuel : Nat) → Purpose → Word →
    Command (List Segment)
  | 0, _, _ => return []
  | _ + 1, _, [] => return []
  | fuel + 1, purpose, part :: parts => do
    let first : List Segment ←
      match part with
      | .text quoted content =>
        pure [⟨if purpose.inPlace && !quoted then .split else .fixed, Glyph.ofText quoted content⟩]
      | .quotes => pure [⟨.fixed, [.mark]⟩]
      | .parameter quoted name use => parameter output fuel purpose quoted name use
      | .output quoted script => do
        let text ← output script
        pure [⟨if quoted then .fixed else .split, Glyph.ofText quoted (withoutLineEnds text)⟩]
      | .arithmetic quoted expression => do
        let inner ← segments output fuel ⟨false, false⟩ expression
        let n ← arithmetic (Segment.text inner)
        pure [⟨if quoted then .fixed else .split, Glyph.ofText quoted (Number.decimal n)⟩]
    return first ++ (← segments output fuel purpose parts)

/-- The segments that a parameter and what is done with it become. -/
def parameter (output : Script → Command Text) : (fuel : Nat) → Purpose → (quoted : Bool) →
    String → ParameterUse → Command (List Segment)
  | 0, _, _, _, _ => return []
  | fuel + 1, purpose, quoted, name, use => do
    let region : Region := if quoted then .fixed else .split
    let isSet (orEmpty : Bool) : Command (Option Segment) := do
      match ← parameter? purpose quoted name with
      | some segment => return if orEmpty && segment.glyphs.isEmpty then none else some segment
      | none => return none
    let required : Command Segment := do
      match ← parameter? purpose quoted name with
      | some segment => return segment
      | none =>
        if ← Command.hasOption 'u' then refuseUnset name "parameter not set".toList
        else return ⟨region, []⟩
    match use with
    | .value => return [← required]
    | .malformed => Command.fail "Bad substitution".toList
    | .length =>
      let value ← required
      let length := (Glyph.text value.glyphs).length
      return [⟨region, Glyph.ofText quoted (toString length).toList⟩]
    | .fallback .substitute orEmpty word =>
      match ← isSet orEmpty with
      | some segment => return [segment]
      | none => segments output fuel { purpose with inPlace := true } (← withTildes .atStart word)
    | .fallback .alternative orEmpty word =>
      match ← isSet orEmpty with
      | some _ => segments output fuel { purpose with inPlace := true } (← withTildes .atStart word)
      | none => return []
    | .fallback .assign orEmpty word =>
      match ← isSet orEmpty with
      | some segment => return [segment]
      | none =>
        let value ← segments output fuel ⟨false, false⟩ (← withTildes .atStart word)
        Command.setVariable name (some (Segment.text value)) false
        return [← required]
    | .fallback .fail orEmpty word =>
      match ← isSet orEmpty with
      | some segment => return [segment]
      | none =>
        if word.isEmpty then
          refuseUnset name
            (if orEmpty then "parameter not set or null".toList else "parameter not set".toList)
        else
          let message ← segments output fuel ⟨false, false⟩ (← withTildes .atStart word)
          refuseUnset name (Segment.text message)
    | .cut atEnd longest word =>
      let value ← required
      let inner ← segments output fuel ⟨false, false⟩ (← withTildes .atStart word)
      let pattern := Pattern.ofChars (Glyph.pattern (Segment.all inner))
      let text := Glyph.text value.glyphs
      let cut := if atEnd then Pattern.cutEnd pattern longest text
        else Pattern.cutStart pattern longest text
      return [{ value with glyphs := Glyph.ofText quoted cut }]

end

/-- The glyphs of a word that is not split. -/
def glyphs (output : Script → Command Text) (fuel : Nat) (tilde : Tilde) (word : Word) :
    Command (List Glyph) := do
  return Segment.all (← segments output fuel ⟨false, false⟩ (← withTildes tilde word))

/-- The text that a word becomes where it is not split. -/
def text (output : Script → Command Text) (fuel : Nat) (tilde : Tilde) (word : Word) :
    Command Text := do
  return Glyph.text (← glyphs output fuel tilde word)

/-- The fields that a word becomes. -/
def fields (output : Script → Command Text) (fuel : Nat) (word : Word) : Command (List Text) := do
  let segments ← segments output fuel ⟨true, false⟩ (← withTildes .atStart word)
  let fields := Segment.fields (← Command.separators) none segments
  if ← Command.hasOption 'f' then return fields.map Glyph.text
  else
    let files := (← get).machine.files
    return fields.flatMap (Glyph.paths files)

/-- The pattern that a word becomes. -/
def pattern (output : Script → Command Text) (fuel : Nat) (word : Word) :
    Command (List Pattern.Element) := do
  return Pattern.ofChars (Glyph.pattern (← glyphs output fuel .atStart word))

end Expansion

end KDispatch.Shell
