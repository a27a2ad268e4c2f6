import KDispatch.Shell.Utility.Basic

/-!
Utilities that work on the lines of their input and on the fields in them: cutting, joining and
numbering.
-/

namespace KDispatch.Shell.Utility

/-- Ranges of positions from 1 on; the last position may be open. -/
abbrev Ranges := List (Nat × Option Nat)

/-- A range of fields, or of bytes or characters. -/
def range (isField : Bool) (text : Text) : Except Text (Nat × Option Nat) :=
  let pick (field other : String) : Text := (if isField then field else other).toList
  let fromOne := pick "fields are numbered from 1" "byte/character positions are numbered from 1"
  let invalid (rest : Text) : Text :=
    pick "invalid field value " "invalid byte/character position " ++ cited rest
  let (first, given, rest) := Number.digits 10 text 0 0
  match rest with
  | [] => if first = 0 then .error fromOne else .ok (first, some first)
  | '-' :: rest =>
    if 0 < given && first = 0 then .error fromOne
    else
      let start := if given = 0 then 1 else first
      match Number.digits 10 rest 0 0 with
      | (_, 0, []) =>
        if given = 0 then .error "invalid range with no endpoint: -".toList else .ok (start, none)
      | (last, _, []) =>
        if last < start then .error "invalid decreasing range".toList else .ok (start, some last)
      | (_, _, '-' :: _) =>
        .error (pick "invalid field range" "invalid byte or character range")
      | (_, _, rest) => .error (invalid rest)
  | rest => .error (invalid rest)

def ranges (isField : Bool) (text : Text) : Except Text Ranges :=
  (text.splitOn ',').mapM (range isField)

def inRanges (ranges : Ranges) (n : Nat) : Bool :=
  ranges.any fun (first, last) => first ≤ n && (last.map (decide <| n ≤ ·)).getD true

/-- The elements at the positions that are chosen. -/
def choose {α : Type} (chosen : Nat → Bool) (elements : List α) : List α :=
  (elements.zipIdx 1).filterMap fun (a, n) => if chosen n then some a else none

def cut : Utility := fun name words => do
  let known : List Flag :=
    [⟨'b', "bytes", true⟩, ⟨'c', "characters", true⟩, ⟨'d', "delimiter", true⟩,
      ⟨'f', "fields", true⟩, ⟨'s', "only-delimited", false⟩, ⟨'n', "", false⟩,
      ⟨'K', "complement", false⟩, ⟨'O', "output-delimiter", true⟩]
  let found ← parse name known 1 words
  let lists := found.options.filter fun o => o.1 = 'b' || o.1 = 'c' || o.1 = 'f'
  match lists with
  | [] => usage name "you must specify a list of bytes, characters, or fields".toList 1
  | _ :: _ :: _ => usage name "only one list may be specified".toList 1
  | [(letter, text)] =>
    let delimiter ←
      match found.last? 'd' with
      | none => pure '\t'
      | some [c] => pure c
      | some [] => pure '\x00'
      | some _ => usage name "the delimiter must be a single character".toList 1
    if letter ≠ 'f' && found.has 'd' then
      usage name "an input delimiter may be specified only when operating on fields".toList 1
    if letter ≠ 'f' && found.has 's' then
      usage name
        "suppressing non-delimited lines makes sense\n\tonly when operating on fields".toList 1
    match ranges (letter = 'f') text with
    | .error message => usage name message 1
    | .ok ranges =>
      let chosen (n : Nat) : Bool := inRanges ranges n != found.has 'K'
      let between := (found.last? 'O').getD (if letter = 'f' then [delimiter] else [])
      let cutLine (line : Text) : Option Text :=
        if letter = 'f' then
          if line.contains delimiter then
            some (between.intercalate (choose chosen (line.splitOn delimiter)))
          else if found.has 's' then none
          else some line
        else some (choose chosen line)
      forEach name (inputs found.operands) fun _ text =>
        emit name (unlines ((lines text).filterMap cutLine))

/-- The characters of a list of delimiters, with escapes. -/
def delimiters : Text → List Text
  | '\\' :: c :: rest =>
    (match c with
      | 'n' => ['\n']
      | 't' => ['\t']
      | '0' => []
      | c => [c]) :: delimiters rest
  | c :: rest => [c] :: delimiters rest
  | [] => []

/-- Texts with the delimiters between them, which are used in turn. -/
def joinWith (delimiters : List Text) : List Text → (index : Nat) → Text
  | [], _ => []
  | [last], _ => last
  | text :: texts, index =>
    text ++ delimiters.getD (index % max delimiters.length 1) [] ++
      joinWith delimiters texts (index + 1)

/-- Puts the lines of files beside each other, or those of each file behind each other. -/
def paste : Utility := fun name words => do
  let found ← parse name [⟨'d', "delimiters", true⟩, ⟨'s', "serial", false⟩] 1 words
  let between := delimiters ((found.last? 'd').getD ['\t'])
  let mut columns : List (List Text) := []
  for file in inputs found.operands do
    if file = ['-'] && 1 < found.operands.count ['-'] then columns := columns ++ [[]]
    else
      match ← content file with
      | .ok text => columns := columns ++ [lines text]
      | .error e =>
        complainOf name [] file e
        Task.exit 1
  let shared := found.operands.count ['-']
  if 1 < shared then
    let input ← match ← Task.readAll 0 with
      | .ok text => pure (lines text)
      | .error _ => pure []
    let mut next : List (List Text) := []
    let mut index := 0
    for (file, column) in found.operands.zip columns do
      if file = ['-'] then
        let start := index
        next := next ++ [(input.zipIdx).filterMap fun (line, n) =>
          if n % shared = start then some line else none]
        index := index + 1
      else next := next ++ [column]
    columns := next
  if found.has 's' then
    for column in columns do emit name (joinWith between column 0 ++ ['\n'])
  else
    let height := (columns.map List.length).foldl max 0
    for n in List.range height do
      emit name (joinWith between (columns.map fun column => column.getD n []) 0 ++ ['\n'])
  return 0

/-- Numbers lines. -/
def nl : Utility := fun name words => do
  let known : List Flag :=
    [⟨'b', "body-numbering", true⟩, ⟨'w', "number-width", true⟩, ⟨'s', "number-separator", true⟩,
      ⟨'v', "starting-line-number", true⟩, ⟨'i', "line-increment", true⟩,
      ⟨'n', "number-format", true⟩]
  let found ← parse name known 1 words
  let number (letter : Char) (default : Nat) : Nat :=
    ((found.last? letter).bind fun t => (Number.integer? (some 10) t).map Int.toNat).getD default
  let width := number 'w' 6
  let separator := (found.last? 's').getD ['\t']
  let all := found.last? 'b' = some ['a']
  let mut n := number 'v' 1
  let mut status := 0
  for file in inputs found.operands do
    match ← content file with
    | .error e =>
      complainOf name [] file e
      status := 1
    | .ok text =>
      for line in lines text do
        if all || !line.isEmpty then
          let digits := decimal n
          let shown := match found.last? 'n' with
            | some ['l', 'n'] => digits ++ List.replicate (width - digits.length) ' '
            | some ['r', 'z'] => List.replicate (width - digits.length) '0' ++ digits
            | _ => padLeft width digits
          emit name (shown ++ separator ++ line ++ ['\n'])
          n := n + number 'i' 1
        else emit name (List.replicate (width + separator.length) ' ' ++ line ++ ['\n'])
  return status

/-- How the lines are folded. -/
structure Folding where
  width : Nat
  /-- Whether every byte takes one column. -/
  bytes : Bool
  /-- Whether lines are broken behind blanks if that is possible. -/
  atBlanks : Bool

/-- The column after a character. -/
def Folding.after (f : Folding) (column : Nat) (c : Char) : Nat :=
  if f.bytes then column + 1
  else if c = '\t' then column + 8 - column % 8
  else if c = Char.ofNat 8 then column - 1
  else if c = '\r' then 0
  else column + 1

/-- The rows that a line is folded into, given the row so far, in reverse, and its column. -/
def Folding.rows (f : Folding) : (fuel : Nat) → (row : Text) → (column : Nat) → Text → List Text
  | 0, row, _, rest => [row.reverse ++ rest]
  | _ + 1, row, _, [] => [row.reverse]
  | fuel + 1, row, column, c :: rest =>
    let next := f.after column c
    if next ≤ f.width || row.isEmpty then f.rows fuel (c :: row) next rest
    else
      let word := row.takeWhile fun d => d ≠ ' ' && d ≠ '\t'
      let kept := row.drop word.length
      if f.atBlanks && !kept.isEmpty then
        kept.reverse :: f.rows fuel word (word.reverse.foldl f.after 0) (c :: rest)
      else row.reverse :: f.rows fuel [] 0 (c :: rest)

def fold : Utility := fun name words => do
  let known : List Flag := [⟨'w', "width", true⟩, ⟨'b', "bytes", false⟩, ⟨'s', "spaces", false⟩]
  let found ← parse name known 1
    (match words with
      | ('-' :: c :: digits) :: rest =>
        if c.isDigit then ['-', 'w'] :: (c :: digits) :: rest else words
      | _ => words)
  let width ← match found.last? 'w' with
    | none => pure 80
    | some text =>
      match Number.digits 10 text 0 0 with
      | (n + 1, _, []) => pure (n + 1)
      | (_, count, rest) =>
        let reason := if count ≠ 0 && rest.isEmpty then ": Numerical result out of range" else ""
        complain name ("invalid number of columns: ".toList ++ cited text ++ reason.toList)
        Task.exit 1
  forEach name (inputs found.operands) fun _ text =>
    emit name ((fullLines text).flatMap fun line =>
      let ended := line.getLast? = some '\n'
      let body := if ended then line.dropLast else line
      let folding : Folding := ⟨width, found.has 'b', found.has 's'⟩
      let rows := folding.rows (2 * body.length + 2) [] 0 body
      ['\n'].intercalate rows ++ (if ended then ['\n'] else []))

/-- Neighbouring lines with the same key together. -/
def groups (same : Text → Text → Bool) : List Text → List (Text × Nat)
  | [] => []
  | line :: rest =>
    match groups same rest with
    | (next, count) :: more =>
      if same line next then (line, count + 1) :: more else (line, 1) :: (next, count) :: more
    | [] => [(line, 1)]

/-- Drops fields with the blanks before them. -/
def skipFields : Nat → Text → Text
  | 0, line => line
  | n + 1, line =>
    let blank (c : Char) : Bool := c = ' ' || c = '\t'
    skipFields n ((line.dropWhile blank).dropWhile (!blank ·))

def uniq : Utility := fun name words => do
  let known : List Flag :=
    [⟨'c', "count", false⟩, ⟨'d', "repeated", false⟩, ⟨'u', "unique", false⟩,
      ⟨'i', "ignore-case", false⟩, ⟨'f', "skip-fields", true⟩, ⟨'s', "skip-chars", true⟩,
      ⟨'w', "check-chars", true⟩]
  let found ← parse name known 1 words
  let number (letter : Char) : Option Nat :=
    (found.last? letter).bind fun t => (Number.integer? (some 10) t).map Int.toNat
  let key (line : Text) : Text :=
    let rest := (skipFields ((number 'f').getD 0) line).drop ((number 's').getD 0)
    let rest := match number 'w' with
      | some n => rest.take n
      | none => rest
    if found.has 'i' then rest.map Char.toLower else rest
  for (letter, what) in [('f', "fields to skip"), ('s', "bytes to skip"), ('w', "bytes to compare")] do
    match found.last? letter with
    | some text =>
      if text.isEmpty || !text.all Char.isDigit then
        complain name (named text ++ (": invalid number of " ++ what).toList)
        Task.exit 1
    | none => pure ()
  match found.operands with
  | _ :: _ :: extra :: _ => usage name ("extra operand ".toList ++ cited extra) 1
  | operands =>
    match ← content (operands.headD ['-']) with
    | .error .isADirectory =>
      complain name
        ("error reading ".toList ++ quoted (operands.headD ['-']) ++ ": Is a directory".toList)
      return 1
    | .error e =>
      complainOf name [] (operands.headD ['-']) e
      return 1
    | .ok text =>
      let chosen := (groups (fun a b => key a = key b) (lines text)).filter fun (_, count) =>
        (!found.has 'd' || 1 < count) && (!found.has 'u' || count = 1)
      let shown := chosen.flatMap fun (line, count) =>
        (if found.has 'c' then padLeft 7 (decimal count) ++ [' '] else []) ++ line ++ ['\n']
      match operands with
      | [_, target] =>
        match ← Task.openFile target .write with
        | .ok number => let _ ← Task.writeTo number shown
        | .error e =>
          complainOf name [] target e
          Task.exit 1
      | _ => emit name shown
      return 0

end KDispatch.Shell.Utility
