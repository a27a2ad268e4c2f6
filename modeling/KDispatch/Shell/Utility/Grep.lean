import KDispatch.Shell.Regex
import KDispatch.Shell.Utility.Basic

/-!
Searching lines for regular expressions.
-/

namespace KDispatch.Shell.Utility

namespace Grep

/-- What lines are searched for, and how. -/
structure Query where
  regex : Regex
  ignoresCase : Bool
  /-- Whether a match has to be a word by itself. -/
  words : Bool
  inverted : Bool

/-- An expression that matches a text and nothing else. -/
def literal (text : Text) : Regex := text.foldr (fun c r => .both (.char c) r) .empty

/-- The matches in a line one after the other, empty ones apart. -/
def matchesIn (q : Query) : (fuel : Nat) → (before rest : Text) → List Regex.Match
  | 0, _, _ => []
  | fuel + 1, before, rest =>
    match q.regex.search ⟨q.ignoresCase, true⟩ before rest with
    | none => []
    | some m =>
      let isWord :=
        !(m.before.getLast?.any Regex.isWordChar) && !(m.after.head?.any Regex.isWordChar)
      if q.words && !isWord || m.text.isEmpty then
        match m.text ++ m.after with
        | [] => if q.words && !isWord then [] else [m]
        | c :: after =>
          let found := if m.text.isEmpty && (!q.words || isWord) then [m] else []
          found ++ matchesIn q fuel (c :: m.before.reverse) after
      else m :: matchesIn q fuel (m.text.reverse ++ m.before.reverse) m.after

/-- Whether a line is one that is searched for. -/
def selects (q : Query) (line : Text) : Bool :=
  let found :=
    if q.words then !(matchesIn q (line.length + 1) [] line).isEmpty
    else (q.regex.search ⟨q.ignoresCase, true⟩ [] line).isSome
  found != q.inverted

/-- The lines of a text around which context is shown. -/
structure Shown where
  number : Nat
  /-- How many characters come before the line. -/
  offset : Nat
  line : Text
  selected : Bool

/-- The lines that are selected, and those around them. -/
def withContext (q : Query) (limit : Option Nat) (before after : Nat) (lines : List Text) :
    List Shown :=
  let offsets := lines.foldl
    (fun (offsets : List Nat) line => (offsets.headD 0 + line.length + 1) :: offsets) [0]
  let marked := ((lines.zip offsets.reverse).zipIdx 1).map fun ((line, offset), n) =>
    (n, offset, line, selects q line)
  let chosen := (marked.filter (·.2.2.2)).map (·.1)
  let chosen := match limit with
    | some n => chosen.take n
    | none => chosen
  marked.filterMap fun (n, offset, line, _) =>
    if chosen.contains n then some ⟨n, offset, line, true⟩
    else if chosen.any fun c => c ≤ n + before && n ≤ c + after then some ⟨n, offset, line, false⟩
    else none

end Grep

/-- The files that are searched: those below directories if `recursive`. -/
def searchedFiles (recursive : Bool) (operands : List Text) : Task (List Text) := do
  if !recursive then return inputs operands
  let files := (← get).files
  let rec below : (fuel : Nat) → Text → Location → List Text
    | 0, _, _ => []
    | fuel + 1, path, location =>
      match files.node? location with
      | some .directory =>
        (files.entries location).flatMap fun entry =>
          let name := Task.ofPath entry
          below fuel (if path.isEmpty then name else path ++ '/' :: name) (location ++ [entry])
      | _ => [path]
  if operands.isEmpty then return below 1000 [] files.workingDirectory
  else
    return operands.flatMap fun path =>
      match files.locate (Task.path path) with
      | .ok location =>
        if files.node? location = some .directory then
          below 1000 ((path.reverse.dropWhile (· = '/')).reverse) location
        else [path]
      | .error _ => [path]

def grepFlags : List Flag :=
  [⟨'E', "extended-regexp", false⟩, ⟨'F', "fixed-strings", false⟩, ⟨'G', "basic-regexp", false⟩,
    ⟨'e', "regexp", true⟩, ⟨'f', "file", true⟩, ⟨'i', "ignore-case", false⟩, ⟨'y', "", false⟩,
    ⟨'v', "invert-match", false⟩, ⟨'w', "word-regexp", false⟩, ⟨'x', "line-regexp", false⟩,
    ⟨'c', "count", false⟩, ⟨'l', "files-with-matches", false⟩,
    ⟨'L', "files-without-match", false⟩, ⟨'q', "quiet", false⟩, ⟨'s', "no-messages", false⟩,
    ⟨'n', "line-number", false⟩, ⟨'h', "no-filename", false⟩, ⟨'H', "with-filename", false⟩,
    ⟨'o', "only-matching", false⟩, ⟨'m', "max-count", true⟩, ⟨'r', "recursive", false⟩,
    ⟨'R', "", false⟩, ⟨'A', "after-context", true⟩, ⟨'B', "before-context", true⟩,
    ⟨'C', "context", true⟩, ⟨'a', "text", false⟩, ⟨'z', "null-data", false⟩,
    ⟨'b', "byte-offset", false⟩, ⟨'Z', "null", false⟩, ⟨'T', "initial-tab", false⟩,
    ⟨'K', "include", true⟩, ⟨'k', "exclude", true⟩]

/-- A wrong call of `grep`. -/
def grepUsage {α : Type} (name : Text) (message : Option Text) : Task α := do
  match message with
  | some message => complain name message
  | none => pure ()
  let _ ← Task.write 2 ("Usage: ".toList ++ name ++ " [OPTION]... PATTERNS [FILE]...\n".toList ++
    "Try '".toList ++ name ++ " --help' for more information.\n".toList)
  Task.exit 2

/-- The words without options that only choose colors, and with numbers of context lines as arguments
of an option. -/
def grepWords (words : List Text) : List Text :=
  words.filterMap fun word =>
    match word with
    | '-' :: c :: digits =>
      if c.isDigit && digits.all Char.isDigit then some ('-' :: 'C' :: c :: digits)
      else if "--color".toList.isPrefixOf word then none
      else some word
    | word => some word

/-- Whether a file below a directory is searched, given patterns for its name. -/
def isIncluded (found : Found) (path : Text) : Bool :=
  let named (letter : Char) : Bool :=
    (found.all letter).any fun pattern =>
      Pattern.isMatch
        (Pattern.compile (pattern.length + 1) (pattern.map fun c => ⟨c, false⟩)) (afterSlash path)
  (!found.has 'K' || named 'K') && !named 'k'

/-- The expressions that are searched for, put together. -/
def grepRegex (name : Text) (found : Found) (patterns : List Text) : Task Regex := do
  let extended := found.has 'E' || name = "egrep".toList
  let fixed := found.has 'F' || name = "fgrep".toList
  let parsed ← (patterns.flatMap (·.splitOn '\n')).mapM fun pattern => do
    if fixed then pure ⟨Grep.literal pattern, 0, []⟩
    else
      match Regex.parse ⟨extended, false⟩ pattern with
      | .ok parsed => pure parsed
      | .error message => do
        complain name message.toList
        Task.exit 2
  for remark in parsed.flatMap (·.remarks) do
    match remark with
    | .leading sign => complain name ("warning: " ++ sign ++ " at start of expression").toList
    | .bareClass =>
      complain name Regex.bareClassMessage.toList
      Task.exit 2
  let parts := parsed.map (·.regex)
  let whole (r : Regex) : Regex :=
    if found.has 'x' then .both .lineStart (.both r .lineEnd) else r
  match parts with
  | [] => return .both .lineStart (.both (.char '\n') .empty)
  | first :: more => return more.foldl (fun r next => .either r (whole next)) (whole first)

def grep : Utility := fun name words => do
  let found ←
    match scan grepFlags true (words.length + 1) (grepWords words) with
    | .ok found => pure found
    | .error message => grepUsage name (some message.toList)
  let fromFiles ← (found.all 'f').mapM fun file => do
    match ← content file with
    | .ok text => pure (lines text)
    | .error e => do
      complain name (file ++ ": ".toList ++ e.reason.toList)
      Task.exit 2
  let given := found.all 'e' ++ fromFiles.flatten
  let hasPattern := found.has 'e' || found.has 'f'
  if !hasPattern && found.operands.isEmpty then grepUsage name none
  let patterns := if hasPattern then given else found.operands.take 1
  let operands := if hasPattern then found.operands else found.operands.drop 1
  let regex ← grepRegex name found patterns
  let q : Grep.Query := ⟨regex, found.has 'i' || found.has 'y', found.has 'w', found.has 'v'⟩
  let recursive := found.has 'r' || found.has 'R'
  let files ← searchedFiles recursive operands
  let files := files.filter fun file => !recursive || isIncluded found file
  let named := !found.has 'h' && (found.has 'H' || 1 < operands.length || (recursive && (
    operands.length ≠ 1 || files ≠ operands)))
  let number (letter : Char) : Option Nat :=
    (found.last? letter).bind fun t => (Number.integer? (some 10) t).map Int.toNat
  for letter in ['A', 'B', 'C'] do
    match found.last? letter with
    | some t =>
      if (number letter).isNone then
        complain name (t ++ ": invalid context length argument".toList)
        Task.exit 2
    | none => pure ()
  if found.has 'm' && (number 'm').isNone then
    complain name "invalid max count".toList
    Task.exit 2
  let separator := if found.has 'z' then '\x00' else '\n'
  let nameEnd (usual : Char) : Char := if found.has 'Z' then '\x00' else usual
  let around := number 'C'
  let before := (number 'B').getD (around.getD 0)
  let after := (number 'A').getD (around.getD 0)
  let hasContext := (number 'A').isSome || (number 'B').isSome || around.isSome
  let mut any := false
  let mut listed := false
  let mut failed := false
  let mut shownBefore := false
  for file in files do
    match ← content file with
    | .error e =>
      if !found.has 's' then complain name (file ++ ": ".toList ++ e.reason.toList)
      failed := true
    | .ok text =>
      let title := if file = ['-'] then "(standard input)".toList else file
      let shown := Grep.withContext q (number 'm') before after
        (if found.has 'z' then partsOf separator text else lines text)
      let selected := shown.filter (·.selected)
      if !selected.isEmpty then any := true
      if found.has 'q' then
        if !selected.isEmpty then return 0
      else if found.has 'L' then
        if selected.isEmpty then
          listed := true
          emit name (title ++ [nameEnd '\n'])
      else if found.has 'l' then
        if !selected.isEmpty then emit name (title ++ [nameEnd '\n'])
      else if found.has 'c' then
        emit name ((if named then title ++ [nameEnd ':'] else []) ++ decimal selected.length ++ ['\n'])
      else if text.contains '\x00' && !found.has 'a' && !found.has 'z' then
        if !selected.isEmpty then complain name (title ++ ": binary file matches".toList)
      else
        let mut last := 0
        for s in shown do
          let mark := if s.selected then ':' else '-'
          let start (skipped : Nat) : Text :=
            (if named then title ++ [nameEnd mark] else []) ++
              (if found.has 'n' then decimal s.number ++ [mark] else []) ++
              (if found.has 'b' then decimal (s.offset + skipped) ++ [mark] else [])
          if hasContext && (shownBefore && last + 1 ≠ s.number) then emit name "--\n".toList
          last := s.number
          shownBefore := true
          if found.has 'o' then
            if s.selected && !found.has 'v' then
              for m in Grep.matchesIn q (s.line.length + 1) [] s.line do
                if !m.text.isEmpty then
                  emit name (start m.before.length ++ m.text ++ [separator])
          else emit name (start 0 ++ s.line ++ [separator])
  if failed then return 2
  else if found.has 'L' then return if listed then 0 else 1
  else return if any then 0 else 1

end KDispatch.Shell.Utility
