import KDispatch.Shell.Utility.Basic
import KDispatch.Shell.Utility.Sed.Reader

/-!
Editing lines. For every line of the input the commands of a script are gone through in turn; they change
the line, which is shown at the end of the round. The last line may have no end, and then its end is only
written if something else follows.
-/

namespace KDispatch.Shell.Utility.Sed

/-- A line of the input, whether it ends with a line end, and its file. -/
structure Line where
  text : Text
  ended : Bool
  file : Text

/-- A text that is being written, in reverse. -/
structure Output where
  text : Text
  /-- Whether the end of the last line is still to be written. -/
  unended : Bool

namespace Output

def empty : Output := ⟨[], false⟩

/-- The output with its last line ended. -/
def endLine (o : Output) (separator : Char) : Output :=
  if o.unended then ⟨separator :: o.text, false⟩ else o

/-- Writes a text as it is. -/
def write (o : Output) (separator : Char) (text : Text) : Output :=
  let o := o.endLine separator
  { o with text := text.reverse ++ o.text }

/-- Writes a line. -/
def writeLine (o : Output) (separator : Char) (text : Text) (ended : Bool) : Output :=
  let o := o.write separator text
  if ended then { o with text := separator :: o.text } else { o with unended := true }

end Output

/-- What stays the same during the editing. -/
structure Settings where
  quiet : Bool
  /-- The character that ends lines. -/
  separator : Char
  /-- The length of the rows in which lines are shown with all characters visible. -/
  rowLength : Nat
  /-- The files that the script reads. -/
  files : List (Text × Text)

/-- Where editing has come to. -/
structure State where
  settings : Settings
  /-- The lines that have not been read yet. -/
  input : List Line
  number : Nat
  file : Text
  space : Text
  /-- Whether the line has a line end. -/
  ended : Bool
  hold : Text
  holdEnded : Bool
  substituted : Bool
  /-- What is shown at the end of the round. -/
  queue : List Text
  output : Output
  /-- For each command with a range the number of its last line, while the range lasts. -/
  ranges : List (Nat × Option Nat)
  lastRegex : Option (Regex × Regex.Mode)
  /-- The texts written to files. -/
  written : List (Text × Output)
  /-- Whether the last line that the script has written to standard output as to a file has no end. -/
  copyUnended : Bool
  /-- The lines that are left of files which are shown line by line. -/
  partsLeft : List (Text × List Text)

/-- The state before anything is read. -/
def State.start (settings : Settings) : State :=
  ⟨settings, [], 0, ['-'], [], true, [], true, false, [], .empty, [], none, [], false, []⟩

/-- The state before a file that is edited by itself. -/
def State.forFile (s : State) (input : List Line) : State :=
  { s with
    input, number := 0, hold := [], holdEnded := true, ranges := []
    output := s.output.endLine s.settings.separator }

/-- How a round goes on after a command. -/
inductive Next where
  | at (index : Nat)
  /-- The round is over; the line is shown or not. -/
  | over (shows : Bool)
  /-- The round begins again without a new line. -/
  | restart
  | quit (shows : Bool) (status : Nat)

/-- What stands before the first end of a line in the space, and whether there is an end behind it. -/
def State.firstPart (s : State) : Text × Bool :=
  let separator := s.settings.separator
  (s.space.takeWhile (· ≠ separator), s.ended || s.space.contains separator)

abbrev Work := StateM State

/-- Shows a text as it is. -/
def showText (text : Text) : Work Unit :=
  modify fun s => { s with output := s.output.write s.settings.separator text }

def showLine (text : Text) (ended : Bool) : Work Unit :=
  modify fun s => { s with output := s.output.writeLine s.settings.separator text ended }

/-- Shows what has been put off. -/
def showQueue : Work Unit := do
  for text in (← get).queue do showText text
  modify fun s => { s with queue := [] }

/-- Shows the line and what has been put off. -/
def finishRound (shows : Bool) : Work Unit := do
  let s ← get
  if shows && !s.settings.quiet then showLine s.space s.ended
  showQueue

/-- Takes the next line of the input, if there is one. -/
def takeLine : Work (Option Line) := do
  match (← get).input with
  | [] => return none
  | line :: input =>
    modify fun s => { s with input, number := s.number + 1, ended := line.ended, file := line.file }
    return some line

def Address.holds (a : Address) : Work Bool := do
  let s ← get
  match a with
  | .line n => return s.number = n
  | .last => return s.input.isEmpty
  | .spaced first distance => return first ≤ s.number && (s.number - first) % distance = 0
  | .regex r mode =>
    modify fun s => { s with lastRegex := some (r, mode) }
    return (r.search mode [] s.space).isSome
  | .lastRegex =>
    return (s.lastRegex.bind fun (r, mode) => r.search mode [] s.space).isSome

/-- Whether a command is for the line; `index` is its place in the script. -/
def applies (index : Nat) (c : Command) : Work Bool := do
  let setRange (state : Option (Option Nat)) : Work Unit :=
    modify fun s =>
      let others := s.ranges.filter (·.1 ≠ index)
      match state with
      | some last => { s with ranges := (index, last) :: others }
      | none => { s with ranges := others }
  let begin_ (last : RangeEnd) : Work Unit := do
    let n := (← get).number
    match last with
    | .address (.line m) => if n < m then setRange (some (some m)) else pure ()
    | .address _ => setRange (some none)
    | .count m => if 0 < m then setRange (some (some (n + m))) else pure ()
    | .multiple m =>
      if 0 < m && n % m ≠ 0 then setRange (some (some ((n / m + 1) * m))) else pure ()
  let found ←
    match c.lines with
    | .all => pure true
    | .one a => a.holds
    | .range first last =>
      let s ← get
      let started := match first with
        | .line 0 => s.number = 1 && !s.ranges.any (·.1 = index)
        | _ => false
      if started then setRange (some none)
      match (← get).ranges.lookup index with
      | some (some m) =>
        let n := (← get).number
        if m ≤ n then setRange none
        if m < n then
          if ← first.holds then
            begin_ last
            pure true
          else pure false
        else pure true
      | some none =>
        match last with
        | .address a => if ← a.holds then setRange none
        | _ => pure ()
        pure true
      | none =>
        if ← first.holds then
          begin_ last
          pure true
        else pure false
  return found != c.inverted

/-- Changes the case of letters as asked for by the pieces before. -/
structure Casing where
  /-- For all that follows. -/
  general : Option Char
  /-- For the next character only. -/
  next : Option Char

def Casing.apply (casing : Casing) (text : Text) : Text × Casing :=
  let one (letter : Option Char) (c : Char) : Char :=
    match letter with
    | some 'U' | some 'u' => c.toUpper
    | some 'L' | some 'l' => c.toLower
    | _ => c
  match text with
  | [] => ([], casing)
  | c :: rest =>
    let first := if casing.next.isSome then one casing.next c else one casing.general c
    (first :: rest.map (one casing.general), { casing with next := none })

/-- What takes the place of a match. -/
def replacement (m : Regex.Match) : List Piece → Casing → Text
  | [], _ => []
  | .text t :: more, casing =>
    let (shown, casing) := casing.apply t
    shown ++ replacement m more casing
  | .group n :: more, casing =>
    let (shown, casing) := casing.apply (if n = 0 then m.text else (m.groups.lookup n).getD [])
    shown ++ replacement m more casing
  | .caseChange letter :: more, casing =>
    match letter with
    | 'E' => replacement m more ⟨none, none⟩
    | 'U' | 'L' => replacement m more { casing with general := some letter }
    | letter => replacement m more { casing with next := some letter }

/-- Replaces matches from the `nth` one on; tells whether there have been any. -/
def substituteIn (r : Regex) (mode : Regex.Mode) (s : Substitution) : (fuel : Nat) →
    (count : Nat) → (before rest : Text) → (afterMatch : Bool) → Text × Bool
  | 0, _, _, rest, _ => (rest, false)
  | fuel + 1, count, before, rest, afterMatch =>
    match r.search mode before rest with
    | none => (rest, false)
    | some m =>
      let skipped := m.before.drop before.length
      if m.text.isEmpty && afterMatch && skipped.isEmpty then
        match rest with
        | [] => ([], false)
        | c :: rest =>
          let (more, done) := substituteIn r mode s fuel count (c :: before) rest false
          (c :: more, done)
      else
        let nth := s.nth.getD 1
        let replaces := nth ≤ count + 1 && (s.every || count + 1 = nth)
        let shown := if replaces then replacement m s.replacement ⟨none, none⟩ else m.text
        if replaces && !s.every then (skipped ++ shown ++ m.after, true)
        else
          let passed := m.text.reverse ++ m.before.reverse
          if m.text.isEmpty then
            match m.after with
            | [] => (skipped ++ shown, replaces)
            | c :: after =>
              let (more, done) := substituteIn r mode s fuel (count + 1) (c :: passed) after false
              (skipped ++ shown ++ c :: more, done || replaces)
          else
            let (more, done) := substituteIn r mode s fuel (count + 1) passed m.after true
            (skipped ++ shown ++ more, done || replaces)

/-- Writes a line to a file of the script. -/
def writeTo (file text : Text) (ended : Bool) : Work Unit :=
  if file = "/dev/stdout".toList then
    modify fun s =>
      let separator := s.settings.separator
      let lineEnd (isWritten : Bool) : Text := if isWritten then [separator] else []
      let line := lineEnd s.copyUnended ++ text ++ lineEnd ended
      { s with
        copyUnended := !ended
        output := { s.output with text := line.reverse ++ s.output.text } }
  else
    modify fun s =>
      let before := (s.written.lookup file).getD .empty
      let after := before.writeLine s.settings.separator text ended
      { s with written := (file, after) :: s.written.filter (·.1 ≠ file) }

/-- A character as the command `l` shows it. -/
def unambiguous (c : Char) : Text :=
  match c with
  | '\\' => ['\\', '\\']
  | '\n' => ['\\', 'n']
  | '\t' => ['\\', 't']
  | '\r' => ['\\', 'r']
  | c =>
    if 32 ≤ c.toNat && c.toNat < 127 then [c]
    else if c.toNat = 7 then ['\\', 'a']
    else if c.toNat = 8 then ['\\', 'b']
    else if c.toNat = 12 then ['\\', 'f']
    else if c.toNat = 11 then ['\\', 'v']
    else
      let digits := Nat.toDigits 8 c.toNat
      '\\' :: List.replicate (3 - digits.length) '0' ++ digits

/-- The text of a line in rows; each row but the last ends in a backslash. -/
def rows (length : Nat) : (used : Nat) → Text → Text
  | _, [] => ['$']
  | used, c :: rest =>
    let shown := unambiguous c
    if 0 < length && length - 1 < used + shown.length then
      '\\' :: '\n' :: shown ++ rows length shown.length rest
    else shown ++ rows length (used + shown.length) rest

/-- Carries out a command that is a letter only. -/
def plain (index : Nat) (letter : Char) : Work Next := do
  let s ← get
  match letter with
  | '=' => showText (decimal s.number ++ [s.settings.separator])
  | 'F' => showText (s.file ++ [s.settings.separator])
  | 'd' => return .over false
  | 'D' =>
    if s.space.contains s.settings.separator then
      modify fun s =>
        { s with space := (s.space.dropWhile (· ≠ s.settings.separator)).drop 1 }
      return .restart
    else return .over false
  | 'g' => modify fun s => { s with space := s.hold, ended := s.holdEnded }
  | 'G' =>
    modify fun s =>
      { s with
        space := s.space ++ s.settings.separator :: s.hold
        ended := s.holdEnded }
  | 'h' => modify fun s => { s with hold := s.space, holdEnded := s.ended }
  | 'H' =>
    modify fun s =>
      { s with
        hold := s.hold ++ s.settings.separator :: s.space
        holdEnded := s.ended }
  | 'x' =>
    modify fun s =>
      { s with space := s.hold, hold := s.space, ended := s.holdEnded, holdEnded := s.ended }
  | 'z' => modify fun s => { s with space := [] }
  | 'p' => showLine s.space s.ended
  | 'P' =>
    let (line, ended) := s.firstPart
    showLine line ended
  | 'n' =>
    if s.input.isEmpty then return .quit true 0
    finishRound true
    match ← takeLine with
    | some line => modify fun s => { s with space := line.text }
    | none => pure ()
  | 'N' =>
    if s.input.isEmpty then return .quit true 0
    showQueue
    match ← takeLine with
    | some line =>
      modify fun s => { s with space := s.space ++ s.settings.separator :: line.text }
    | none => pure ()
  | _ => pure ()
  return .at (index + 1)

/-- The place behind the end of a block, given the commands from the opening of the block on. -/
def blockEnd : List Command → (index depth : Nat) → Nat
  | [], index, _ => index
  | c :: rest, index, depth =>
    match c.action with
    | .openBlock => blockEnd rest (index + 1) (depth + 1)
    | .closeBlock => if depth ≤ 1 then index + 1 else blockEnd rest (index + 1) (depth - 1)
    | _ => blockEnd rest (index + 1) depth

/-- The place of a label; the end of the script for no label. -/
def labelPlace (commands : List Command) (name : Text) : Nat :=
  if name.isEmpty then commands.length
  else
    (commands.findIdx? fun c => match c.action with
      | .label l => l = name
      | _ => false).getD commands.length

/-- Carries out a substitution. -/
def substitute (sub : Substitution) : Work Unit := do
  let s ← get
  match (sub.regex.map fun r => (r, sub.mode)).or s.lastRegex with
  | none => return
  | some (r, mode) =>
    let (space, done) := substituteIn r mode sub (s.space.length + 2) 0 [] s.space false
    modify fun s => { s with lastRegex := some (r, mode) }
    if done then
      modify fun s => { s with space, substituted := true }
      if sub.prints then showLine space s.ended
      match sub.file with
      | some file => writeTo file space s.ended
      | none => pure ()

/-- Puts off a file that is to be shown. -/
def queueFile (file : Text) : Work Unit :=
  modify fun s =>
    match s.settings.files.lookup file with
    | some text => { s with queue := s.queue ++ [text] }
    | none => { s with queue := s.queue ++ [[]] }

/-- Puts off the next line of a file. -/
def queueLine (file : Text) : Work Unit :=
  modify fun s =>
    let left := (s.partsLeft.lookup file).getD (lines ((s.settings.files.lookup file).getD []))
    match left with
    | [] => s
    | line :: more =>
      { s with
        queue := s.queue ++ [line ++ ['\n']]
        partsLeft := (file, more) :: s.partsLeft.filter (·.1 ≠ file) }

/-- The text that a script gives, with the line end that the lines have. -/
def givenLines (settings : Settings) (text : Text) : Text :=
  if text.getLast? = some '\n' then text.dropLast ++ [settings.separator] else text

/-- Carries out a command. -/
def act (commands : List Command) (index : Nat) (c : Command) : Work Next := do
  let next : Next := .at (index + 1)
  match c.action with
  | .openBlock | .closeBlock | .label _ => return next
  | .plain letter => plain index letter
  | .list length =>
    let s ← get
    showText (rows (length.getD s.settings.rowLength) 0 s.space ++ [s.settings.separator])
    return next
  | .translate pairs =>
    modify fun s => { s with space := s.space.map fun d => (pairs.lookup d).getD d }
    return next
  | .append t =>
    modify fun s => { s with queue := s.queue ++ [givenLines s.settings t] }
    return next
  | .insert t =>
    showText (givenLines (← get).settings t)
    return next
  | .change t =>
    let inside := (← get).ranges.any (·.1 = index)
    if !inside || c.inverted then showText (givenLines (← get).settings t)
    return .over false
  | .read file =>
    queueFile file
    return next
  | .readLine file =>
    queueLine file
    return next
  | .write file first =>
    let s ← get
    let (line, ended) := if first then s.firstPart else (s.space, s.ended)
    writeTo file line ended
    return next
  | .branch letter name =>
    let target : Next := .at (labelPlace commands name)
    let was := (← get).substituted
    match letter with
    | 'b' => return target
    | 't' =>
      modify fun s => { s with substituted := false }
      return if was then target else next
    | _ =>
      modify fun s => { s with substituted := false }
      return if was then next else target
  | .quit prints status => return .quit prints status
  | .substitute sub =>
    substitute sub
    return next

/-- Goes through the commands for a line; gives the status if the script quits. -/
def round (commands : List Command) : (fuel : Nat) → (index : Nat) → Work (Option Nat)
  | 0, _ => return none
  | fuel + 1, index => do
    match commands[index]? with
    | none =>
      finishRound true
      return none
    | some c =>
      if !(← applies index c) then
        match c.action with
        | .openBlock => round commands fuel (blockEnd (commands.drop index) index 0)
        | _ => round commands fuel (index + 1)
      else
        match ← act commands index c with
        | .at index => round commands fuel index
        | .over shows =>
          finishRound shows
          return none
        | .restart =>
          finishRound false
          round commands fuel 0
        | .quit shows status =>
          finishRound shows
          return some status

/-- Edits lines until there are none left; gives the status if the script quits. -/
def edit (commands : List Command) : (fuel : Nat) → Work (Option Nat)
  | 0 => return none
  | fuel + 1 => do
    match ← takeLine with
    | none => return none
    | some line =>
      modify fun s => { s with space := line.text, substituted := false }
      match ← round commands 1000000 0 with
      | some status => return some status
      | none => edit commands fuel

/-- The lines of a file. -/
def linesOf (separator : Char) (file text : Text) : List Line :=
  let parts := text.splitOn separator
  let complete := parts.dropLast.map fun part => (⟨part, true, file⟩ : Line)
  match parts.getLast? with
  | some (c :: last) => complete ++ [⟨c :: last, false, file⟩]
  | _ => complete

/-- The lines of files one after the other; a line without an end gets one if another line follows. -/
def linesOfAll (separator : Char) : List (Text × Text) → List Line
  | [] => []
  | (file, text) :: more =>
    let rest := linesOfAll separator more
    let own := linesOf separator file text
    (if rest.isEmpty then own else own.map fun line => { line with ended := true }) ++ rest

end KDispatch.Shell.Utility.Sed
