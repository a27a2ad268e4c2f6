import KDispatch.Shell.Utility.Sed.Editor
import KDispatch.Shell.Utility.Sed.Reader

/-!
The utility that edits lines by scripts. It puts its script together from options and files, and it may
write the edited lines back into their files.
-/

namespace KDispatch.Shell.Utility

/-- The options of `sed`; the one for editing files in place may have an argument in the same word. -/
def sedFlags : List Flag :=
  [⟨'n', "quiet", false⟩, ⟨'e', "expression", true⟩, ⟨'f', "file", true⟩,
    ⟨'E', "regexp-extended", false⟩, ⟨'r', "", false⟩, ⟨'s', "separate", false⟩,
    ⟨'u', "unbuffered", false⟩, ⟨'z', "null-data", false⟩, ⟨'i', "in-place", false⟩,
    ⟨'n', "silent", false⟩, ⟨'l', "line-length", true⟩, ⟨'P', "posix", false⟩]

/-- The words without an argument in the option for editing in place, and the argument. -/
def inPlaceSuffix : List Text → List Text × Text
  | [] => ([], [])
  | ('-' :: letters) :: rest =>
    let before := letters.takeWhile (· ≠ 'i')
    let long := "-in-place=".toList
    if letters.contains 'i' && before.all (fun c => "nErsuz".toList.contains c) &&
        letters.head? ≠ some '-' then
      (('-' :: before ++ ['i']) :: rest, letters.drop (before.length + 1))
    else if long.isPrefixOf letters then (['-', 'i'] :: rest, letters.drop long.length)
    else
      let (rest, suffix) := inPlaceSuffix rest
      (('-' :: letters) :: rest, suffix)
  | word :: rest =>
    let (rest, suffix) := inPlaceSuffix rest
    (word :: rest, suffix)

/-- A part of a script, and its file if it comes from one. -/
structure ScriptPart where
  text : Text
  file : Option Text

/-- What is said about a mistake behind so many characters of the parts, which are separate lines. -/
def scriptComplaint (message : Text) : (parts : List ScriptPart) → (expression offset : Nat) → Text
  | [], _, _ => message
  | part :: more, expression, offset =>
    let expression := if part.file.isNone then expression + 1 else expression
    if part.text.length < offset && !more.isEmpty then
      scriptComplaint message more expression (offset - part.text.length - 1)
    else
      match part.file with
      | some file =>
        let line := (part.text.take (offset - 1)).count '\n' + 1
        "file ".toList ++ file ++ " line ".toList ++ decimal line ++ ": ".toList ++ message
      | none =>
        "-e expression #".toList ++ decimal expression ++ ", char ".toList ++ decimal offset ++
          ": ".toList ++ message

/-- The name of the copy that is kept of a file. -/
def copyName (suffix file : Text) : Text :=
  if suffix.contains '*' then suffix.flatMap fun c => if c = '*' then file else [c]
  else file ++ suffix

/-- The parts of the script and the names of the files to be edited. -/
def sedScript (name : Text) (found : Found) : Task (List ScriptPart × List Text) := do
  let parts ← (found.options.filter fun o => o.1 = 'e' || o.1 = 'f').mapM fun (letter, text) => do
    if letter = 'e' then pure (⟨text, none⟩ : ScriptPart)
    else
      match ← content text with
      | .ok script =>
        pure ⟨if script.getLast? = some '\n' then script.dropLast else script, some text⟩
      | .error e => do
        complain name ("couldn't open file ".toList ++ text ++ ": ".toList ++ e.reason.toList)
        Task.exit 4
  if !parts.isEmpty then return (parts, found.operands)
  else
    match found.operands with
    | script :: operands => return ([⟨script, none⟩], operands)
    | [] =>
      let _ ← Task.write 2 ("Usage: ".toList ++ name ++
        " [OPTION]... \x7bscript-only-if-no-other-script\x7d [input-file]...\n".toList)
      Task.exit 1

/-- A file that cannot be edited. -/
structure BadInput where
  /-- How many files before it can be edited. -/
  place : Nat
  status : Nat
  message : Text

structure SedInputs where
  files : List (Text × Text)
  bad : List BadInput

/-- Reads the files to be edited, up to a directory unless they are edited in place. -/
def sedInputs (inPlace : Bool) : List Text → SedInputs → Task SedInputs
  | [], inputs => return inputs
  | file :: more, inputs => do
    let refuse (status : Nat) (message : Text) : SedInputs :=
      { inputs with bad := inputs.bad ++ [⟨inputs.files.length, status, message⟩] }
    match ← content file with
    | .ok text =>
      sedInputs inPlace more { inputs with files := inputs.files ++ [(file, text)] }
    | .error .isADirectory =>
      if inPlace then
        sedInputs inPlace more
          (refuse 4 ("couldn't edit ".toList ++ file ++ ": not a regular file".toList))
      else return refuse 4 ("read error on ".toList ++ file ++ ": Is a directory".toList)
    | .error e =>
      sedInputs inPlace more
        (refuse 2 ("can't read ".toList ++ file ++ ": ".toList ++ e.reason.toList))

/-- Tells which files could not be edited, except for those behind the file with which the script has quit;
gives the status. -/
def reportBad (name : Text) (inputs : SedInputs) (quit : Option (Nat × Nat)) : Task Nat := do
  let place := (quit.map (·.2)).getD inputs.files.length
  let met := inputs.bad.filter (·.place ≤ place)
  for bad in met do complain name bad.message
  return (met.map (·.status)).foldl max ((quit.map (·.1)).getD 0)

/-- The number of the file in which a line is, given how many lines come before the files. -/
def fileOfLine (separator : Char) (number : Nat) : List (Text × Text) → (before : Nat) → Nat
  | [], _ => 0
  | (file, text) :: more, before =>
    let here := before + (Sed.linesOf separator file text).length
    if number ≤ here then 0 else fileOfLine separator number more here + 1

/-- Writes the files of a script. -/
def writeScriptFiles (name : Text) (files : List Text) (written : List (Text × Sed.Output)) :
    Task Unit := do
  for file in files do
    if file ≠ "/dev/stdout".toList then
      match ← Task.openFile file .write with
      | .ok number =>
        let _ ← Task.writeTo number ((written.lookup file).getD .empty).text.reverse
      | .error e =>
        complain name ("couldn't open file ".toList ++ file ++ ": ".toList ++ e.reason.toList)
        Task.exit 4

/-- Puts an edited text in place of a file. -/
def replaceFile (suffix file text : Text) : Task Unit := do
  match ← Task.node file with
  | .ok (location, .file content executable) =>
    if !suffix.isEmpty then
      match ← Task.openFile (copyName suffix file) .write with
      | .ok number => let _ ← Task.writeTo number (ByteText.ofBytes content)
      | .error _ => pure ()
    Task.removeAt location
    modify fun m =>
      { m with files := m.files.put location (.file (ByteText.toBytes text) executable) }
  | _ => return

/-- Edits files one by one, each with its own output; `work` is done with every output. Gives the status
and the number of the file if the script quits. -/
def editEach (commands : List Sed.Command) (work : Text → Sed.State → Task Sed.State) :
    List (Text × Text) → (number : Nat) → Sed.State → Task (Option (Nat × Nat) × Sed.State)
  | [], _, s => return (none, s)
  | (file, text) :: more, number, s => do
    let lines := Sed.linesOf s.settings.separator file text
    let (status, s) := (Sed.edit commands (lines.length + 1)).run (s.forFile lines)
    let s ← work file s
    match status with
    | some status => return (some (status, number), s)
    | none => editEach commands work more (number + 1) s

def sed : Utility := fun name words => do
  let (words, suffix) := inPlaceSuffix words
  let found ← parse name sedFlags 1 words
  let (parts, operands) ← sedScript name found
  let script := ['\n'].intercalate (parts.map (·.text))
  let quietByScript := "#n\n".toList.isPrefixOf script || script = "#n".toList
  match Sed.parse (found.has 'E' || found.has 'r') script with
  | .error .bareClass =>
    complain name Regex.bareClassMessage.toList
    return 4
  | .error (.before left message) =>
    let offset := if "unmatched".isPrefixOf message then 0 else script.length - left
    complain name (scriptComplaint message.toList parts 0 offset)
    return 1
  | .ok commands =>
    if let some label := Sed.missingLabel? commands then
      complain name ("can't find label for jump to `".toList ++ label ++ ['\''])
      return 4
    let inPlace := found.has 'i'
    if inPlace && operands.isEmpty then
      complain name "no input files".toList
      return 4
    let mut files : List (Text × Text) := []
    for file in Sed.filesRead commands do
      match ← content file with
      | .ok text => files := files ++ [(file, text)]
      | .error _ => pure ()
    let settings : Sed.Settings :=
      { quiet := found.has 'n' || quietByScript
        separator := if found.has 'z' then '\x00' else '\n'
        rowLength := match (found.last? 'l').bind (Number.integer? (some 10)) with
          | some n => if n = 1 then 0 else n.toNat
          | none => 70
        files }
    let start := Sed.State.start settings
    let given ← sedInputs inPlace (inputs operands) ⟨[], []⟩
    let writeFiles (s : Sed.State) : Task Unit :=
      writeScriptFiles name (Sed.filesWritten commands) s.written
    if inPlace then
      let keep (file : Text) (s : Sed.State) : Task Sed.State := do
        replaceFile suffix file s.output.text.reverse
        return { s with output := .empty }
      let (quit, s) ← editEach commands keep given.files 0 start
      writeFiles s
      reportBad name given quit
    else if found.has 's' then
      let (quit, s) ← editEach commands (fun _ s => return s) given.files 0 start
      writeFiles s
      emit name s.output.text.reverse
      reportBad name given quit
    else
      let lines := Sed.linesOfAll settings.separator given.files
      let (status, s) := (Sed.edit commands (lines.length + 1)).run { start with input := lines }
      writeFiles s
      emit name s.output.text.reverse
      reportBad name given
        (status.map fun status => (status, fileOfLine settings.separator s.number given.files 0))

end KDispatch.Shell.Utility
