import KDispatch.Shell.Utility.Records.Evaluation
import KDispatch.Shell.Utility.Records.Reader
import KDispatch.Shell.Utility.Records.Table
import KDispatch.Shell.Utility.System

/-!
Programs of patterns and actions as a utility: the rules for the start, then all rules for each record,
then the rules for the end.
-/

namespace KDispatch.Shell.Utility

namespace Records

open KDispatch.Shell.Records KDispatch.Shell.Records.Work

/-- A bound for the nesting of evaluation, and for the rounds of loops. -/
def depth : Nat := 1000000000000

/-- Whether a pattern applies to the record at hand. -/
def applies (execute : Execution) (pattern : Records.Pattern) : Work Bool := do
  match pattern with
  | .start | .finish => return false
  | .always => return true
  | .test e => return (← eval execute depth e).isTrue
  | .range number first last =>
    let isOpen := (← get).openRanges.contains number
    let begins ← if isOpen then pure true else do pure (← eval execute depth first).isTrue
    if !begins then return false
    let ends := (← eval execute depth last).isTrue
    modify fun s =>
      { s with
        openRanges :=
          if ends then s.openRanges.filter (· ≠ number)
          else number :: s.openRanges.filter (· ≠ number) }
    return true

/-- Applies rules to the record at hand. -/
def applyRules (execute : Execution) : List Records.Rule → Work Unit
  | [] => return
  | rule :: rules => do
    if ← applies execute rule.pattern then run execute depth rule.action
    applyRules execute rules

/-- Does the work for a record, which may go on with the next one early. -/
def forRecord (work : Work Unit) : Work Unit := fun s =>
  match work s with
  | .error .next s => .ok () s
  | .error .nextFile s => .ok () { s with main := none }
  | result => result

/-- Applies rules to all records. -/
def forRecords (execute : Execution) (rules : List Records.Rule) : (fuel : Nat) → Work Unit
  | 0 => return
  | fuel + 1 => do
    match ← nextRecord execute manyBlocks with
    | none => return
    | some record =>
      setRecord record
      forRecord (applyRules execute rules)
      forRecords execute rules fuel

/-- Does work that the program may be ended from; tells whether it has come to its own end. -/
def untilExit (work : Work Unit) : Work Bool := fun s =>
  match work s with
  | .ok () s => .ok true s
  | .error .exit s => .ok false s
  | .error jump s => .error jump s

/-- Carries out the actions of the rules with a special pattern. -/
def actions (execute : Execution) (rules : List Records.Rule) (isMeant : Records.Pattern → Bool) :
    Work Unit := do
  for rule in rules do
    if isMeant rule.pattern then run execute depth rule.action

/-- Runs a program. -/
def runProgram (execute : Execution) (program : Program) : Work Unit := do
  let isStart : Records.Pattern → Bool
    | .start => true
    | _ => false
  let isFinish : Records.Pattern → Bool
    | .finish => true
    | _ => false
  let goesOn ← untilExit (actions execute program.rules isStart)
  let main := program.rules.filter fun rule => !isStart rule.pattern && !isFinish rule.pattern
  let hasEnd := program.rules.any fun rule => isFinish rule.pattern
  if goesOn && (!main.isEmpty || hasEnd) then
    let _ ← untilExit (forRecords execute main depth)
  modify fun s => { s with frame := [] }
  let _ ← untilExit (actions execute program.rules isFinish)
  closeAll execute

/-- The words of the utility, taken apart. -/
structure Options where
  /-- The files that the program is in. -/
  sources : List Text
  separator : Option Text
  assignments : List Text

def usageText : String :=
  "Usage: mawk [Options] [Program] [file ...]\n\n" ++
    "Program:\n" ++
    "    The -f option value is the name of a file containing program text.\n" ++
    "    If no -f option is given, a \"--\" ends option processing; the following\n" ++
    "    parameters are the program text.\n\n" ++
    "Options:\n" ++
    "    -f program-file  Program  text is read from file instead of from the\n" ++
    "                     command-line.  Multiple -f options are accepted.\n" ++
    "    -F value         sets the field separator, FS, to value.\n" ++
    "    -v var=value     assigns value to program variable var.\n" ++
    "    --               unambiguous end of options.\n\n" ++
    "    Implementation-specific options are prefixed with \"-W\".  They can be\n" ++
    "    abbreviated:\n\n" ++
    "    -W version       show version information and exit.\n" ++
    "    -W compat        pre-POSIX 2001.\n" ++
    "    -W dump          show assembler-like listing of program and exit.\n" ++
    "    -W help          show this message and exit.\n" ++
    "    -W interactive   set unbuffered output, line-buffered input.\n" ++
    "    -W exec file     use file as program as well as last option.\n" ++
    "    -W posix         stricter POSIX checking.\n" ++
    "    -W random=number set initial random seed.\n" ++
    "    -W sprintf=number adjust size of sprintf buffer.\n" ++
    "    -W usage         show this message and exit.\n"

/-- The options at the start of the words, and the words after them. -/
def optionsOf (name : Text) : (fuel : Nat) → List Text → Options → Task (Options × List Text)
  | 0, words, options => return (options, words)
  | fuel + 1, words, options => do
    let argument (letter : Char) (attached : Text) (rest : List Text) : Task (Text × List Text) := do
      if !attached.isEmpty then return (attached, rest)
      match rest with
      | value :: rest => return (value, rest)
      | [] =>
        complain name ("option -".toList ++ letter :: " lacks argument".toList)
        Task.exit 2
    match words with
    | ['-', '-'] :: rest => return (options, rest)
    | ('-' :: 'f' :: attached) :: rest =>
      let (value, rest) ← argument 'f' attached rest
      optionsOf name fuel rest { options with sources := options.sources ++ [value] }
    | ('-' :: 'F' :: attached) :: rest =>
      let (value, rest) ← argument 'F' attached rest
      optionsOf name fuel rest { options with separator := some value }
    | ('-' :: 'v' :: attached) :: rest =>
      let (value, rest) ← argument 'v' attached rest
      if !(value.contains '=' && isName (value.takeWhile (· ≠ '='))) then
        complain name ("improper assignment: -v ".toList ++ value)
        Task.exit 2
      optionsOf name fuel rest { options with assignments := options.assignments ++ [value] }
    | ('-' :: 'W' :: attached) :: rest =>
      let (_, rest) ← argument 'W' attached rest
      optionsOf name fuel rest options
    | ('-' :: c :: more) :: _ =>
      let word := '-' :: c :: more
      if word = "--help".toList || word = "--usage".toList then
        let _ ← Task.write 2 usageText.toList
        Task.exit 0
      complain name ("not an option: ".toList ++ word)
      Task.exit 2
    | words => return (options, words)

/-- The text of a program. -/
def programText (name : Text) (options : Options) (words : List Text) : Task (Text × List Text) := do
  if options.sources.isEmpty then
    match words with
    | text :: rest => return (text, rest)
    | [] =>
      let _ ← Task.write 2 usageText.toList
      Task.exit 0
  else
    let texts ← options.sources.mapM fun file => do
      match ← content file with
      | .ok text => return text
      | .error .isADirectory =>
        complain name ("read error (".toList ++ SystemError.isADirectory.reason.toList ++ [')'])
        Task.exit 2
      | .error e =>
        complain name ("cannot open \"".toList ++ file ++ "\" (".toList ++ e.reason.toList ++ [')'])
        Task.exit 2
    return (texts.flatten, words)

/-- A description that leads nowhere. -/
def noDescription : Nat := 1000000000

/-- The state that a program begins in. -/
def startState (name : Text) (program : Program) (words : List Text) (machine : Machine) : State :=
  let output (descriptor : Nat) (path : Text) : Output :=
    ⟨path, false, (machine.description? descriptor).getD noDescription, []⟩
  let arguments := name :: words
  let numbered := (List.range arguments.length).zip arguments
  let argumentTable := numbered.foldl
    (fun t (n, word) => t.insert (.integer (n : Int)) (.given word)) Table.empty
  let environmentTable := machine.environment.foldl
    (fun t (key, value) => t.insert (.text key.toList) (.given value)) Table.empty
  { machine, name, routines := program.routines, tableParameters := program.tableParameters,
    globals :=
      [("NR", .number 0), ("FNR", .number 0), ("FS", .text [' ']), ("OFS", .text [' ']),
        ("ORS", .text ['\n']), ("RS", .text ['\n']), ("FILENAME", .missing),
        ("CONVFMT", .text "%.6g".toList), ("OFMT", .text "%.6g".toList),
        ("SUBSEP", .text [Char.ofNat 28]), ("RSTART", .number 0), ("RLENGTH", .number (-1)),
        ("ARGC", .ofNat arguments.length)]
    tableNames := [("ARGV", 0), ("ENVIRON", 1)]
    tables := #[argumentTable, environmentTable], frame := [], record := [], fields := #[],
    isSplit := true, isJoined := true
    outputs := [output 1 usualOutput, output 2 messageOutput], inputs := [], main := none,
    nextArgument := 1, hasFiles := false, openRanges := [], matchers := [], status := 0,
    seed := .number 0, random := UInt64.ofNat machine.files.clock.toNat }

end Records

open KDispatch.Shell.Records KDispatch.Shell.Records.Work in
/-- Runs a program of patterns and actions. -/
def records (execute : Execute) : Utility := fun name words => do
  let name := afterSlash name
  let (options, words) ← Records.optionsOf name (words.length + 1) words ⟨[], none, []⟩
  match options.separator with
  | some (c :: d :: more) =>
    let separator := decoded (more.length + 3) (c :: d :: more)
    match if separator.length < 2 then .ok ⟨[], .empty⟩ else Matcher.ofText separator with
    | .ok _ => pure ()
    | .error reason =>
      complain name ("line 0: ".toList ++ Matcher.complaint separator reason)
      Task.exit 2
  | _ => pure ()
  let (text, words) ← Records.programText name options words
  match Program.ofText (text ++ ['\n']) with
  | .error mistake =>
    let place :=
      match options.sources with
      | file :: _ => file ++ ": ".toList
      | [] => []
    let line := if mistake.line = 0 then [] else "line ".toList ++ decimal mistake.line ++ ": ".toList
    complain name (place ++ line ++ mistake.message)
    return 2
  | .ok program =>
    let work : Work Unit := do
      match options.separator with
      | some separator =>
        putGlobal "FS" (.text (decoded (separator.length + 1) separator))
      | none => pure ()
      for assignment in options.assignments do
        let _ ← assignFrom execute assignment
      Records.runProgram execute program
    fun machine =>
      match work (Records.startState name program words machine) with
      | .ok () s => .ok s.status s.machine
      | .error (.halt halt) s => .error halt s.machine
      | .error _ s => .ok s.status s.machine

end KDispatch.Shell.Utility
