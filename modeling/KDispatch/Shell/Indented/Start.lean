import KDispatch.Shell.Indented.Interpreter

/-!
Programs as a utility: its switches, the state that a program begins in, and the end of a program.
-/

namespace KDispatch.Shell.Indented

/-- Where a program comes from. -/
inductive Origin where
  /-- It is given in the words. -/
  | given (text : Text) (arguments : List Text)
  | file (path : Text) (arguments : List Text)
  | input (name : Text) (arguments : List Text)
  | version
  /-- The words are wrong. -/
  | refused (message : Text)

namespace Origin

def usage (message : Text) : Origin :=
  .refused (message ++ "\nusage: python3 [option] ... [-c cmd | -m mod | file | -] [arg] ...\n".toList ++
    "Try ".toList ++ Char.ofNat 0x60 :: "python -h' for more information.\n".toList)

/-- The program that lays out data in the notation with braces and brackets. -/
def dataTool : Text :=
  "import json, sys\ntry:\n    source = open(sys.argv[1]) if len(sys.argv) > 1 else sys.stdin\n    value = json.load(source)\nexcept ValueError as e:\n    raise SystemExit(e)\nprint(json.dumps(value, indent=4))\n".toList

/-- Where the program comes from that words name. -/
def ofWords : (fuel : Nat) → List Text → Origin
  | 0, words => .input [] words
  | _ + 1, [] => .input [] []
  | _ + 1, ['-'] :: words => .input ['-'] words
  | _ + 1, ['-', '-'] :: words =>
    match words with
    | path :: arguments => .file path arguments
    | [] => .input [] []
  | fuel + 1, ('-' :: letters) :: words =>
    if letters = "-version".toList then .version
    else if letters.head? = some '-' then
      usage ("unknown option --".toList ++ letters.drop 1)
    else
      match letters.span fun c => "BuEsSOIqvixdbPR".toList.contains c with
      | (_, []) => ofWords fuel words
      | (_, 'V' :: _) => .version
      | (_, 'c' :: rest) =>
        match rest, words with
        | [], text :: arguments => .given text arguments
        | [], [] => usage "Argument expected for the -c option".toList
        | rest, arguments => .given rest arguments
      | (_, 'm' :: rest) =>
        match rest, words with
        | [], [] => usage "Argument expected for the -m option".toList
        | [], module :: arguments => ofModule module arguments
        | module, arguments => ofModule module arguments
      | (_, 'W' :: rest) => ofWords fuel (if rest.isEmpty then words.drop 1 else words)
      | (_, 'X' :: rest) => ofWords fuel (if rest.isEmpty then words.drop 1 else words)
      | (_, letter :: _) => usage ("Unknown option: -".toList ++ [letter])
  | _ + 1, path :: arguments => .file path arguments
where
  /-- A program that is a module. -/
  ofModule (module : Text) (arguments : List Text) : Origin :=
    if module = "json.tool".toList then .given dataTool arguments
    else .refused ("/usr/bin/python3: No module named ".toList ++ module ++ ['\n'])

end Origin

/-- What is said about a program that is wrong. -/
def SyntaxError.report (e : SyntaxError) (file : Text) (text : Text) : Text :=
  let source := (text.splitOn '\n').getD (e.line - 1) []
  let blanks := (source.takeWhile Numeric.isSpace).length
  let stripped := Numeric.stripped source
  let count := if e.first < e.last then e.last - e.first else 1
  let shown : Text :=
    if stripped.isEmpty then []
    else if e.last < e.first then "    ".toList ++ stripped ++ ['\n']
    else
      "    ".toList ++ stripped ++ "\n    ".toList ++ List.replicate (e.first - blanks) ' ' ++
        List.replicate (max 1 (min count (stripped.length + 1))) '^' ++ ['\n']
  "  File \"".toList ++ file ++ "\", line ".toList ++ (toString e.line).toList ++ '\n' :: shown ++ e.kind.toList ++
    ": ".toList ++ e.message ++ ['\n']

namespace Work

/-- The state that a program begins in. -/
def start (file : Text) (lines : List Text) (machine : Machine) : State :=
  { machine, file, lines := lines.toArray, heap := #[.scope []]
    frames := [⟨"<module>", .ofLine 0, [0], [0], [], [], []⟩], top := 0, handling := [], traces := [], given := []
    members := [], finals := [], random := UInt64.ofNat machine.files.clock.toNat }

/-- Binds the names that every program has. -/
def bindUsual (file : Option Text) (name : Text) (arguments : List Text) (note : Value) : Work Unit := do
  let stdin ← inherited "<stdin>" 0 true
  let stdout ← inherited "<stdout>" 1 false
  let stderr ← inherited "<stderr>" 2 false
  for (n, v) in [("stdin", stdin), ("stdout", stdout), ("stderr", stderr), ("__stdout__", stdout),
      ("__stderr__", stderr), ("__stdin__", stdin)] do
    putMember "sys" n v
  putMember "sys" "argv" (← newList ((name :: arguments).map fun t => .text (decoded t)))
  let directory ← match file with
    | some path => pure (Paths.directory (← absolute path))
    | none => pure []
  putMember "sys" "path" (← newList [.text directory])
  putMember "sys" "modules" (← newTable (Module.all.map fun m => (.text m.toList, .module m)))
  let environment := (← get).machine.environment
  putMember "os" "environ" (← new (.table "environ" .nothing
    (environment.map fun (n, t) => (Value.text n.toList, Value.text (decoded t))).toArray))
  bindIn 0 "__name__" (.text "__main__".toList)
  bindIn 0 "__doc__" note
  match file with
  | some path => bindIn 0 "__file__" (.text (← absolute path))
  | none => return

/-- What stands for the status of a program that ends as if it had been interrupted. -/
def interrupted : Nat := 1000

/-- What a program leaves when it ends because of a failure. -/
def statusOf (core : Core) (failure : Value) : Work Nat := do
  if ← isInstance failure 20 (.kind "SystemExit") then
    let code ← do
      match Core.tupleItems (← Core.memberOfRecord failure "args"), ← Core.memberOfRecord failure "code" with
      | [], code => pure code
      | [v], _ => pure v
      | vs, _ => pure (.tuple vs)
    match code with
    | .nothing => return 0
    | .integer n => return (n.emod 256).toNat
    | .boolean b => return if b then 1 else 0
    | v => do
      complain ((← core.text v) ++ ['\n'])
      return 1
  else
    complain (← core.report 20 failure)
    return if ← isInstance failure 20 (.kind "KeyboardInterrupt") then interrupted else 1

/-- Does work of a whole program; gives its status. -/
def ending (core : Core) (work : Work Unit) : Work Nat := fun s =>
  match work s with
  | .ok () s => .ok 0 s
  | .error (.failure failure) s =>
    match statusOf core failure s with
    | .ok status s => .ok status s
    | .error (.halt halt) s => .error (.halt halt) s
    | .error _ s => .ok 1 s
  | .error (.halt halt) s => .error (.halt halt) s
  | .error _ s => .ok 0 s

/-- Does what has been left for the end. -/
def runFinals (core : Core) : Work Unit := do
  for (function, arguments) in (← get).finals do
    let _ ← core.call function arguments []

/-- Runs a program from its start to its end. -/
def runWhole (core : Core) (statements : List Statement) : Work Nat := do
  let status ← ending core (core.run statements)
  modify fun s => { s with frames := s.frames.drop (s.frames.length - 1) }
  let _ ← ending core (runFinals core)
  let flushed ← ending core flushAll
  if status = interrupted then throw (.halt (.killed 2))
  return if flushed = 0 then status else 120

end Work

/-- Writes a message and ends with a status. -/
def refuse (message : Text) (status : Nat) : Task Nat := do
  let _ ← Task.write 2 message
  return status

/-- Runs the text of a program. -/
def runText (execute : Utility.Execute) (file : Option Text) (shown name : Text) (arguments : List Text)
    (isShown : Bool) (content : Text) : Task Nat := do
  let text := Work.plainLines (Work.decoded content)
  let text := if text.head? = some (Char.ofNat 0xfeff) then text.drop 1 else text
  let here := Work.decoded (Task.ofLocation (← get).files.workingDirectory)
  let shown := match file with
    | some path => Paths.plain (Paths.joined here (Work.decoded path))
    | none => shown
  match programOf text with
  | .error e => refuse (Work.encoded (e.report shown text)) 1
  | .ok statements =>
    let note : Value := match statements with
      | .expression _ (.text t) :: _ => .text t
      | _ => .nothing
    let lines := if isShown then text.splitOn '\n' else []
    let work : Work Nat := do
      Work.bindUsual (file.map Work.decoded) name arguments note
      Work.runWhole (Core.ofDepth execute Core.plenty) statements
    fun machine =>
      match work (Work.start shown lines machine) with
      | .ok status s => .ok (status % 256) s.machine
      | .error (.halt halt) s => .error halt s.machine
      | .error _ s => .ok 1 s.machine

/-- Runs a program that is given in the words, in a file, or on standard input. -/
def utility (execute : Utility.Execute) : Utility := fun program words => do
  match Origin.ofWords (words.length + 1) words with
  | .version => do
    let _ ← Task.write 1 "Python 3.11.2\n".toList
    return 0
  | .refused message => refuse message (if message.head? = some '/' then 1 else 2)
  | .given text arguments =>
    runText execute none "<string>".toList "-c".toList arguments false (text ++ ['\n'])
  | .input name arguments => do
    match ← Task.readAll 0 with
    | .ok content => runText execute none "<stdin>".toList name arguments false content
    | .error _ => return 0
  | .file path arguments => do
    let here := Task.ofLocation (← get).files.workingDirectory
    match ← Task.readFile path with
    | .ok content => runText execute (some path) [] path arguments true content
    | .error .isADirectory =>
      refuse ("/usr/bin/python3: can't find '__main__' module in '".toList ++ path ++ "'\n".toList) 1
    | .error e =>
      refuse (program ++ ": can't open file '".toList ++ Paths.plain (Paths.joined here path) ++ "': [Errno ".toList ++
        (toString (e.number?.getD 5)).toList ++ "] ".toList ++ e.reason.toList ++ ['\n']) 2

end KDispatch.Shell.Indented
