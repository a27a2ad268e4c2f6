import KDispatch.Shell.Sigil.Interpreter

/-!
Programs as a utility: its switches, the state that a program begins in, and the end of a program.
-/

namespace KDispatch.Shell.Sigil

/-- The switches in the words of the utility. -/
structure Switches where
  /-- Lines of the program that are given in place of a file. -/
  lines : List Text
  isGiven : Bool
  /-- Whether the program is run for each line, and whether lines are printed then. -/
  loops : Bool
  prints : Bool
  /-- Whether the ends of lines are taken off and put back. -/
  trims : Bool
  /-- Whether lines are split, and where. -/
  splits : Bool
  separator : Option Text
  inPlace : Option Text
  /-- What lines end in, if it is not the usual thing; nothing reads everything at once. -/
  ending : Option (Option Text)
  checks : Bool
  modules : List Text

def Switches.usual : Switches :=
  ⟨[], false, false, false, false, false, none, none, none, false, []⟩

namespace Switches

/-- Reads the letters behind a hyphen; the words after them may be their arguments. -/
def letters : (fuel : Nat) → Text → List Text → Switches → Except Text (Switches × List Text)
  | 0, _, words, s => .ok (s, words)
  | _ + 1, [], words, s => .ok (s, words)
  | fuel + 1, letter :: rest, words, s =>
    let argument : Option (Text × List Text) :=
      if !rest.isEmpty then some (rest, words)
      else
        match words with
        | word :: words => some (word, words)
        | [] => none
    match letter with
    | 'e' | 'E' =>
      match argument with
      | some (line, words) => .ok ({ s with lines := s.lines ++ [line], isGiven := true }, words)
      | none => .error "No code specified for -e.\n".toList
    | 'n' => letters fuel rest words { s with loops := true }
    | 'p' => letters fuel rest words { s with loops := true, prints := true }
    | 'l' => letters fuel (rest.dropWhile Char.isDigit) words { s with trims := true }
    | 'a' => letters fuel rest words { s with splits := true, loops := true }
    | 'F' =>
      match argument with
      | some (pattern, words) =>
        .ok ({ s with separator := some pattern, splits := true, loops := true }, words)
      | none => .ok (s, words)
    | 'i' => .ok ({ s with inPlace := some rest }, words)
    | '0' =>
      let digits := rest.takeWhile Char.isDigit
      let code := Scan.Reader.numberOf 8 digits
      let ending : Option Text :=
        if digits.isEmpty then some ['\x00']
        else if code = 0 then some []
        else if 255 < code then none
        else some [Char.ofNat code]
      letters fuel (rest.drop digits.length) words { s with ending := some ending }
    | 'c' => letters fuel rest words { s with checks := true }
    | 'M' | 'm' =>
      match argument with
      | some (module, words) => .ok ({ s with modules := s.modules ++ [module] }, words)
      | none => .ok (s, words)
    | 'I' =>
      match argument with
      | some (_, words) => .ok (s, words)
      | none => .ok (s, words)
    | '-' => letters fuel rest words s
    | letter =>
      if "wWXTtusSUC".toList.contains letter || letter.isWhitespace then letters fuel rest words s
      else
        .error ("Unrecognized switch: -".toList ++ letter :: rest ++
          "  (-h will show valid options).\n".toList)

/-- Reads the switches at the start of words. -/
def ofWords : (fuel : Nat) → List Text → Switches → Except Text (Switches × List Text)
  | 0, words, s => .ok (s, words)
  | fuel + 1, words, s =>
    match words with
    | ['-', '-'] :: rest => .ok (s, rest)
    | ('-' :: letter :: rest) :: words =>
      match letters (rest.length + 2) (letter :: rest) words s with
      | .error message => .error message
      | .ok (s, words) => ofWords fuel words s
    | words => .ok (s, words)

/-- The words of the line at the start of a program that names its interpreter. -/
def lineWords (text : Text) : List Text :=
  match text with
  | '#' :: '!' :: rest =>
    let line := rest.takeWhile (· ≠ '\n')
    (line.splitBy fun a b => Reader.isBlank a == Reader.isBlank b).filter fun word =>
      !word.all Reader.isBlank
  | _ => []

/-- The program with the loop that switches put around it. -/
def wrapped (s : Switches) (statements : List Statement) : List Statement :=
  if !s.loops then statements
  else
    let topic := Reader.topic
    let trimming : List Statement := if s.trims then [.expression 1 (.function "chomp" [topic])] else []
    let separator : Expr :=
      match s.separator with
      | some pattern =>
        let inner := match pattern with
          | c :: rest =>
            if (c = '/' || c = '"' || c = '\'') && rest.getLast? = some c then rest.dropLast else pattern
          | [] => pattern
        .matching none (.text inner) ""
      | none => .text [' ']
    let splitting : List Statement :=
      if s.splits then [.expression 1 (.assign (.named ⟨'@', "F"⟩) (.function "split" [separator, topic]))]
      else []
    let printing : List Statement := if s.prints then [.expression 1 (.print .plain none [])] else []
    let isStart : Statement → Bool
      | .special false _ => true
      | _ => false
    let before := statements.filter isStart
    let body := statements.filter fun s => !isStart s
    before ++ [.loop 0 (some "LINE") (some (.readLine (.word "ARGV"))) false
      (trimming ++ splitting ++ body) printing]

end Switches

namespace Work

/-- The state that a program begins in. -/
def start (file : Text) (machine : Machine) : State :=
  { machine, file
    heap := #[⟨.list #[], none⟩, ⟨.handle (Handle.closed "STDOUT".toList), none⟩]
    globals := [(⟨'*', "STDOUT"⟩, 1)], scope := [], fileScope := [], depth := 0, restorations := []
    package := "main", line := 0, finding := none, patterns := [], arguments := 0, wanted := .nothing
    calls := [], lastRead := none, selected := 1, finals := [], hasFiles := false, inPlace := none
    random := UInt64.ofNat machine.files.clock.toNat
    startSeconds := machine.files.clock.fdiv 1000000000 }

/-- Binds the names that every program has. -/
def bindUsual (name : Text) (arguments : List Text) (data : Option Text) (switches : Switches) :
    Work Unit := do
  putHandle 1 (← inherited "STDOUT" 1 false)
  putHandle (← handleNamed "STDERR") (← inherited "STDERR" 2 false)
  putHandle (← handleNamed "STDIN") (← inherited "STDIN" 0 true)
  putHandle (← handleNamed "ARGV") (Handle.closed [])
  match data with
  | some text =>
    putHandle (← handleNamed "DATA")
      { Handle.closed "DATA".toList with isOpen := true, reads := true, held := text }
  | none => pure ()
  putGlobal "0" (.text name)
  putGlobal "/" (match switches.ending with
    | none => .text ['\n']
    | some none => .missing
    | some (some text) => .text text)
  putGlobal "," .missing
  putGlobal "\\" (if switches.trims then .text ['\n'] else .missing)
  putGlobal "\"" (.text [' '])
  putGlobal ";" (.text [Char.ofNat 28])
  putGlobal "|" (.integer 0)
  putGlobal "@" Value.empty
  putGlobal "!" (.dual 0 [])
  putGlobal "?" (.integer 0)
  for sign in ["-", "%", "<", ">"] do putGlobal sign (.integer 0)
  for sign in ["(", ")"] do putGlobal sign (.text "0 0".toList)
  putGlobal "=" (.integer 60)
  putGlobal ":" (.text " \n-".toList)
  putGlobal "~" (.text "STDOUT".toList)
  putGlobal "^O" (.text "linux".toList)
  putGlobal "^W" (.integer 0)
  putGlobal "^T" (.integer (← get).startSeconds)
  putGlobal "]" (.text "5.038002".toList)
  fillList (← global ⟨'@', "ARGV"⟩) (arguments.map .text)
  let environment := (← get).machine.environment
  fillTable (← global ⟨'%', "ENV"⟩)
    (environment.flatMap fun (key, value) => [.text key.toList, .text value])

/-- What a program leaves when it fails. -/
def failureStatus : Work Nat := do
  let error := (← globalValue "!").toInt.toNat % 256
  let status := (← globalValue "?").toInt.toNat / 256 % 256
  return if error ≠ 0 then error else if status ≠ 0 then status else 255

/-- Does work of a whole program; gives its status. -/
def statusOf (work : Work Unit) : Work Nat := fun s =>
  let failed (message : Work Text) (s : State) : EStateM.Result Jump State Nat :=
    (do
      complain (← message)
      failureStatus : Work Nat) s
  match work s with
  | .ok () s => .ok 0 s
  | .error (.exit status) s => .ok status s
  | .error (.die value) s => failed (textOf value) s
  | .error (.loop kind label) s =>
    let word := match kind with
      | .next => "next"
      | .last => "last"
      | .redo => "redo"
    failed (do
      let place ← whereabouts
      match label with
      | none => return "Can't \"".toList ++ word.toList ++ "\" outside a loop block".toList ++ place
      | some label =>
        return "Label not found for \"".toList ++ word.toList ++ ' ' :: label.toList ++ ['"'] ++ place) s
  | .error (.give _) s => failed (do return "Can't return outside a subroutine".toList ++ (← whereabouts)) s
  | .error (.halt halt) s => .error (.halt halt) s

/-- Runs the blocks for the end. -/
def runFinals (execute : Utility.Execute) (status : Nat) : Work Nat := do
  putGlobal "?" (.ofNat status)
  let finals := (← get).finals
  for final in finals do
    let s ← get
    set { s with package := final.package, scope := s.fileScope }
    let ended ← statusOf (inBlock ((Core.ofDepth execute plenty).run final.body))
    if ended ≠ 0 then putGlobal "?" (.ofNat ended)
  return (← globalValue "?").toInt.toNat

/-- Runs a program from its start to its end. -/
def runProgramText (execute : Utility.Execute) (switches : Switches) (program : Program) : Work Nat := do
  defineAll plenty program.statements
  let status ← statusOf ((Core.ofDepth execute plenty).run (switches.wrapped program.statements))
  endReplacing
  let status ← runFinals execute status
  closeAll execute
  return status

end Work

/-- Writes a message of the utility and ends it. -/
def refuse (message : Text) (status : Nat) : Task Nat := do
  let _ ← Task.write 2 message
  return status

/-- What is said about a program that is wrong. -/
def SyntaxError.text (e : SyntaxError) (file : Text) : Text :=
  let place := " at ".toList ++ file ++ " line ".toList ++ Number.decimal e.line
  let aborted := "Execution of ".toList ++ file ++ " aborted due to compilation errors.\n".toList
  if "syntax error at".toList.isPrefixOf e.message then e.message ++ '\n' :: aborted
  else if e.message = "syntax error".toList then e.message ++ place ++ ", at EOF\n".toList ++ aborted
  else if "Missing right".toList.isPrefixOf e.message then
    e.message ++ place ++ ", at end of line\nsyntax error".toList ++ place ++ ", at EOF\n".toList ++ aborted
  else e.message ++ place ++ ".\n".toList

/-- Runs a program that is given in the words, in a file, or on standard input. -/
def utility (execute : Utility.Execute) : Utility := fun _ words => do
  match Switches.ofWords (words.length + 1) words Switches.usual with
  | .error message => refuse message 29
  | .ok (switches, words) =>
    let (file, text, arguments) ←
      if switches.isGiven then pure ("-e".toList, ['\n'].intercalate switches.lines ++ ['\n'], words)
      else
        match words with
        | [] => do
          match ← Task.readAll 0 with
          | .ok text => pure (['-'], text, [])
          | .error _ => pure (['-'], [], [])
        | file :: arguments => do
          match ← (if file = ['-'] then Task.readAll 0 else Task.readFile file) with
          | .ok text => pure (file, text, arguments)
          | .error e =>
            let _ ← Task.write 2
              ("Can't open perl script \"".toList ++ file ++ "\": ".toList ++ e.reason.toList ++ ['\n'])
            Task.exit 2
    let named := Switches.lineWords text
    let isOther := match named with
      | program :: _ =>
        !switches.isGiven && (Work.indexFrom "perl".toList (program.length + 1) 0 program).isNone &&
          !named.any fun word => (Work.indexFrom "perl".toList (word.length + 1) 0 word).isSome
      | [] => false
    if isOther then
      -- A line that names another interpreter hands the file over to it.
      match ← execute (named.headD []) (named ++ file :: arguments) with
      | .ok status => return status
      | .error _ => return 255
    else
      let further := (named.dropWhile fun word => word.head? ≠ some '-').takeWhile fun word =>
        word.head? = some '-'
      let switches := match Switches.ofWords (further.length + 1) further switches with
        | .ok (s, _) => if switches.isGiven then switches else s
        | .error _ => switches
      let modules := switches.modules.map fun module =>
        let name := module.takeWhile (· ≠ '=')
        let items := module.drop (name.length + 1)
        let spaced := items.map fun c => if c = ',' then ' ' else c
        "use ".toList ++ name ++ (if items.isEmpty then [] else " qw(".toList ++ spaced ++ [')']) ++ [';']
      match Program.ofText file (modules.flatten ++ text) with
      | .error e => refuse (e.text file) 255
      | .ok program =>
        if switches.checks then refuse (file ++ " syntax OK\n".toList) 0
        else
          let work : Work Nat := do
            Work.bindUsual file arguments program.data switches
            modify fun s => { s with inPlace := switches.inPlace }
            Work.runProgramText execute switches program
          fun machine =>
            match work (Work.start file machine) with
            | .ok status s => .ok (status % 256) s.machine
            | .error (.halt halt) s => .error halt s.machine
            | .error _ s => .ok 255 s.machine

end KDispatch.Shell.Sigil
