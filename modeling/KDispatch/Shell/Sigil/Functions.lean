import KDispatch.Shell.Builtin.Processes
import KDispatch.Shell.Expansion
import KDispatch.Shell.Sigil.Finding
import KDispatch.Shell.Sigil.State
import KDispatch.Shell.Sigil.Streams
import KDispatch.Shell.Utility.Calendar
import KDispatch.Shell.Utility.Find

/-!
Functions of the language that are given values only, and texts made from formats, whose directives take values
in turn or by their numbers.
-/

namespace KDispatch.Shell.Sigil.Format

/-- A directive: its layout, the number of its value if it names one, its letter, and the values that are
left when its sizes have been taken. -/
structure Directive where
  layout : Layout
  chosen : Option Nat
  letter : Char
  values : List Value

/-- A size that is spelled out or taken from the values. -/
def size (rest : Text) (values : List Value) : Int × Text × List Value :=
  match rest with
  | '*' :: rest => ((values.headD .missing).toInt, rest, values.drop 1)
  | rest =>
    let (n, _, rest) := Number.digits 10 rest 0 0
    ((n : Int), rest, values)

/-- Reads the directive behind a percent sign; gives what comes after it. -/
def directive? (rest : Text) (values : List Value) : Option (Directive × Text) :=
  let digits := rest.takeWhile Char.isDigit
  let (chosen, rest) : Option Nat × Text :=
    match rest.drop digits.length with
    | '$' :: more => (some (Number.digits 10 digits 0 0).1, more)
    | _ => (none, rest)
  let (layout, rest) := Printf.flags rest ⟨false, false, false, false, false, 0, none⟩
  let (width, rest, values) := size rest values
  let layout := { layout with width := width.natAbs, left := layout.left || width < 0 }
  let (layout, rest, values) : Layout × Text × List Value :=
    match rest with
    | '.' :: rest =>
      let (precision, rest, values) := size rest values
      ({ layout with precision := if precision < 0 then none else some precision.toNat }, rest, values)
    | rest => (layout, rest, values)
  match rest.dropWhile fun c => "hlqLVz".toList.contains c with
  | letter :: rest =>
    if "csdiuoxXbBeEfFgGaADUO".toList.contains letter then some (⟨layout, chosen, letter, values⟩, rest)
    else none
  | [] => none

/-- A character with a code, as bytes. -/
def characterText (code : Int) : Text :=
  if code < 256 then [Char.ofNat code.toNat]
  else (ByteText.ofString (String.singleton (Char.ofNat code.toNat))).toList

/-- The text that a directive makes of a value. -/
def shown (layout : Layout) (letter : Char) (value : Value) : Work Text := do
  let quantity := value.toQuantity
  let prefixed (mark digits : Text) : Text :=
    layout.padNumber layout.precision.isNone
      (if layout.alternative && !quantity.isZero then mark else []) digits
  match letter with
  | 's' => return layout.string (← Work.textOf value)
  | 'c' => return layout.pad (characterText quantity.toInt)
  | 'd' | 'i' | 'D' =>
    match quantity with
    | .real x =>
      if x.isNaN || x.isInf then return layout.pad quantity.toText
      else return layout.signed (max Number.minimum (min (Records.truncated x) Number.maximum))
    | .whole n => return layout.signed n
  | 'u' | 'U' => return layout.unsigned 10 false (Number.bits quantity.toInt)
  | 'o' | 'O' => return layout.unsigned 8 false (Number.bits quantity.toInt)
  | 'x' | 'X' => return layout.unsigned 16 letter.isUpper (Number.bits quantity.toInt)
  | 'b' | 'B' =>
    let digits := Nat.toDigits 2 (Number.bits quantity.toInt)
    let filled := List.replicate ((layout.precision.getD 0) - digits.length) '0' ++ digits
    return prefixed ['0', letter] filled
  | _ =>
    match quantity with
    | .real x =>
      if x.isNaN || x.isInf then return layout.pad quantity.toText
      else return layout.real letter .double (Records.toReal x)
    | .whole n => return layout.real letter .double (Records.toReal (Float.ofInt n))

/-- The text that a format makes of values. -/
def print (all : List Value) : (fuel : Nat) → Text → List Value → Work Text
  | 0, _, _ => return []
  | _ + 1, [], _ => return []
  | fuel + 1, '%' :: '%' :: rest, values => do return '%' :: (← print all fuel rest values)
  | fuel + 1, '%' :: rest, values => do
    match directive? rest values with
    | none => return '%' :: (← print all fuel rest values)
    | some (d, rest) =>
      match d.chosen with
      | some n =>
        let text ← shown d.layout d.letter (all.getD (n - 1) .missing)
        return text ++ (← print all fuel rest d.values)
      | none =>
        let text ← shown d.layout d.letter (d.values.headD .missing)
        return text ++ (← print all fuel rest (d.values.drop 1))
  | fuel + 1, c :: rest, values => do return c :: (← print all fuel rest values)

/-- The text of values of which the first is a format. -/
def ofValues (values : List Value) : Work Text := do
  let format ← Work.textOf (values.headD .missing)
  print (values.drop 1) (format.length + 1) format (values.drop 1)

end KDispatch.Shell.Sigil.Format

/-! Functions of the language that are given values only. -/

namespace KDispatch.Shell.Sigil.Work

/-- The value with a number among arguments. -/
def argument (values : List Value) (number : Nat) : Value := values.getD number .missing

def capitalized (change : Char → Char) : Text → Text
  | c :: rest => change c :: rest
  | [] => []

/-- A text in which every character that is no letter, digit or underscore has a backslash. -/
def quoteMeta (text : Text) : Text :=
  text.flatMap fun c => if Scan.CharKind.isWordChar c then [c] else ['\\', c]

/-- The number that digits with a mark for their base stand for. -/
def octalOf (text : Text) : Int :=
  let text := (text.dropWhile Number.isSpace).filter (· ≠ '_')
  match text.map Char.toLower with
  | '0' :: 'x' :: digits => Scan.Reader.numberOf 16 (digits.takeWhile Scan.Reader.isHexDigit)
  | '0' :: 'b' :: digits => Scan.Reader.numberOf 2 (digits.takeWhile fun c => c = '0' || c = '1')
  | '0' :: 'o' :: digits => Scan.Reader.numberOf 8 (digits.takeWhile fun c => '0' ≤ c && c ≤ '7')
  | digits => Scan.Reader.numberOf 8 (digits.takeWhile fun c => '0' ≤ c && c ≤ '7')

def hexOf (text : Text) : Int :=
  let digits := match text.map Char.toLower with
    | '0' :: 'x' :: digits => digits
    | digits => digits
  Scan.Reader.numberOf 16 (digits.takeWhile Scan.Reader.isHexDigit)

/-- Where a text stands in another one, from a place on. -/
def indexFrom (part : Text) : (fuel place : Nat) → Text → Option Nat
  | 0, _, _ => none
  | fuel + 1, place, text =>
    if part.isPrefixOf text then some place
    else
      match text with
      | [] => none
      | _ :: rest => indexFrom part fuel (place + 1) rest

/-- The last place up to a limit where a text stands in another one. -/
def lastIndexUpTo (text part : Text) (limit : Nat) : Option Nat :=
  ((List.range (min limit text.length + 1)).filter fun place => part.isPrefixOf (text.drop place)).getLast?

/-- The first place and the length of a part of a text, which may be told from its end. -/
def partOf? (size : Nat) (start : Int) (length : Option Int) : Option (Nat × Nat) :=
  let first := if start < 0 then start + size else start
  let last : Int := match length with
    | none => size
    | some n => if n < 0 then size + n else first + n
  if (size : Int) < first || (first < 0 && last < 0) then none
  else
    let first := (max first 0).toNat
    let last := min (max last first).toNat size
    some (first, last - first)

/-- A moment as numbers: seconds, minutes, hours, day, month, year, day of the week and of the year. -/
def momentValues (seconds : Int) : List Value :=
  let m := Calendar.Moment.ofSeconds seconds
  let start := Calendar.Day.number ⟨m.day.year, 1, 1⟩
  [.ofNat (m.seconds % 60), .ofNat (m.seconds / 60 % 60), .ofNat (m.seconds / 3600), .ofNat m.day.day,
    .integer ((m.day.month : Int) - 1), .integer (m.day.year - 1900), .ofNat (Calendar.weekday seconds),
    .integer (m.day.number - start), .integer 0]

/-- A moment as a text. -/
def momentText (seconds : Int) : Text :=
  Calendar.formatted seconds 0 "%a %b %e %H:%M:%S %Y".toList

/-- The clock in seconds. -/
def now : Work Int := return (← get).machine.files.clock.fdiv 1000000000

def nextRandom : Work Float := do
  let next := (← get).random * 6364136223846793005 + 1442695040888963407
  modify fun s => { s with random := next }
  return (next >>> 11).toNat.toFloat / 9007199254740992.0

/-- Changes the files of the machine by something that the system may refuse. -/
def changeFiles (change : FileSystem → Except SystemError FileSystem) : Work Bool := do
  match change (← get).machine.files with
  | .ok files =>
    task (modify fun m => { m with files })
    return true
  | .error e =>
    putSystemError e
    return false

def makeDirectory (path : Text) (mode : Nat) : Work Bool := do
  if ← changeFiles fun files => files.makeDirectory (Task.path path) then
    let mask := (← get).machine.mask
    task (Utility.setDirectoryMode path (Utility.withoutBits mode mask))
    return true
  else return false

def removeFile (path : Text) : Work Bool := do
  match ← task (Task.entry path) with
  | .error e => succeeded (.error e)
  | .ok (_, .directory) => succeeded (.error .isADirectory)
  | .ok (location, _) =>
    task (Task.removeAt location)
    return true

def rename (source target : Text) : Work Bool := do
  match ← task (Task.entry source), (← get).machine.files.locateEntry (Task.path target) with
  | .error e, _ | _, .error e => succeeded (.error e)
  | .ok (from_, node), .ok to_ =>
    match (← get).machine.files.node? to_, node with
    | some .directory, .directory =>
      if ((← get).machine.files.entries to_).isEmpty then
        task (Task.moveTo from_ to_)
        return true
      else succeeded (.error .directoryNotEmpty)
    | some .directory, _ => succeeded (.error .isADirectory)
    | some _, .directory => succeeded (.error .notADirectory)
    | _, _ =>
      task (Task.moveTo from_ to_)
      return true

def changeMode (mode : Nat) (path : Text) : Work Bool := do
  match ← task (Task.node path) with
  | .error e => succeeded (.error e)
  | .ok (location, _) =>
    task (modify fun m => { m with files := m.files.setMode location mode })
    return true

def changeDirectory (path : Text) : Work Bool := do
  match ← task (Task.node path) with
  | .error e => succeeded (.error e)
  | .ok (location, .directory) =>
    task (modify fun m => { m with files := { m.files with workingDirectory := location } })
    return true
  | .ok _ => succeeded (.error .notADirectory)

/-- How many of some files something succeeds with. -/
def countSucceeded (files : List Value) (work : Text → Work Bool) : Work Value := do
  let mut count := 0
  for file in files do
    if ← work (← textOf file) then count := count + 1
  return .ofNat count

/-- Sends a signal to the program itself or to another process. -/
def signal (name : Value) (process : Int) : Work Bool := do
  let text ← textOf name
  let text := if "SIG".toList.isPrefixOf text then text.drop 3 else text
  let number := match name with
    | .integer n => some n.toNat
    | _ => SignalName.number? text
  match number with
  | none => fail ("Unrecognized signal name \"".toList ++ text ++ ['"'])
  | some number =>
    let m := (← get).machine
    if process = (m.process : Int) then
      if number = 0 || SignalName.isHarmless number || m.ignored.contains number then return true
      else throw (.halt (.killed number))
    else
      task (modify fun m => { m with pending := m.pending ++ [(process.toNat, number)] })
      return m.parents.any fun p => (p : Int) = process

/-- The paths that a pattern with words matches. -/
def pathsOf (pattern : Text) : Work (List Value) := do
  let files := (← get).machine.files
  let words := (pattern.splitBy fun a b => Scan.CharKind.isSpaceChar a == Scan.CharKind.isSpaceChar b).filter
    fun word => !word.all Scan.CharKind.isSpaceChar
  let found := words.flatMap fun word =>
    let isPattern := word.any fun c => c = '*' || c = '?' || c = '['
    let paths := Glyph.paths files (Glyph.ofText false word)
    -- A pattern that matches nothing is left out.
    if isPattern && paths = [word] && !Paths.isThere files word then [] else paths
  return found.map .text

/-- What a test tells about a file. -/
def testFile (letter : Char) (path : Text) : Work Value := do
  let m := (← get).machine
  match ← task (if letter = 'l' then Task.entry path else Task.node path) with
  | .error e =>
    putSystemError e
    return .missing
  | .ok (location, node) =>
    let mode := m.files.modeOf location
    let kind := Utility.Find.kindOf node
    let age := (m.files.clock - m.files.timeOf location).toNat.toFloat / 86400000000000.0
    return match letter with
      | 'e' => .ofBool true
      | 'f' => .ofBool (kind = 'f')
      | 'd' => .ofBool (kind = 'd')
      | 'l' => .ofBool (kind = 'l')
      | 'p' => .ofBool (kind = 'p')
      | 'c' => .ofBool (kind = 'c')
      | 'x' | 'X' => .ofBool (node = .directory || mode &&& 0o111 ≠ 0)
      | 'r' | 'w' | 'R' | 'W' | 'o' | 'O' => .ofBool true
      | 's' =>
        let size := Utility.Listing.size (some node)
        if size = 0 then Value.empty else .ofNat size
      | 'z' => .ofBool (Utility.Listing.size (some node) = 0)
      | 'M' | 'A' | 'C' => .number age
      | _ => Value.empty

/-- What the system tells about a file. -/
def fileStatus (follows : Bool) (path : Text) : Work (List Value) := do
  let files := (← get).machine.files
  match ← task (Task.nodeWith follows path) with
  | .error e =>
    putSystemError e
    return []
  | .ok (location, node) =>
    let kind := match Utility.Find.kindOf node with
      | 'd' => 0o40000
      | 'l' => 0o120000
      | 'p' => 0o10000
      | 'c' => 0o20000
      | _ => 0o100000
    let time : Value := .integer ((files.timeOf location).fdiv 1000000000)
    let size := Utility.Listing.size (some node)
    return [.ofNat 1, .ofNat (Utility.Listing.index files location), .ofNat (kind + files.modeOf location),
      .ofNat (Utility.Listing.links files location), .ofNat 0, .ofNat 0, .ofNat 0, .ofNat size, time, time,
      time, .ofNat 4096, .ofNat ((size + 511) / 512)]

/-- The sum, or another combination, of numbers. -/
def combined (values : List Value) (combine : Quantity → Quantity → Quantity) : Value :=
  match values with
  | [] => .missing
  | first :: rest => (rest.foldl (fun q v => combine q v.toQuantity) first.toQuantity).toValue

/-- The first of some values by an order. -/
def chosen (values : List Value) (isBetter : Value → Value → Bool) : Value :=
  match values with
  | [] => .missing
  | first :: rest => rest.foldl (fun best v => if isBetter v best then v else best) first

def isLess (a b : Value) : Bool := a.toQuantity.compare? b.toQuantity = some .lt

/-- The values without repetitions of a text. -/
def withoutRepeats : (seen : List Text) → List Value → Work (List Value)
  | _, [] => return []
  | seen, value :: rest => do
    let text ← textOf value
    if seen.contains text then withoutRepeats seen rest
    else return value :: (← withoutRepeats (text :: seen) rest)

/-- The parts of a path: its directory with the slash, and its name. -/
def pathParts (path : Text) : Text × Text :=
  let name := (path.reverse.takeWhile (· ≠ '/')).reverse
  (path.take (path.length - name.length), name)

/-- The name at the end of a path, which may end in slashes. -/
def baseOf (path : Text) : Text :=
  let trimmed := (path.reverse.dropWhile (· = '/')).reverse
  if trimmed.isEmpty && !path.isEmpty then ['/'] else (pathParts trimmed).2

/-- The directory of a path. -/
def directoryOf (path : Text) : Text :=
  let trimmed := (path.reverse.dropWhile (· = '/')).reverse
  let directory := ((pathParts trimmed).1.reverse.dropWhile (· = '/')).reverse
  if !directory.isEmpty then directory
  else if path.head? = some '/' then ['/']
  else ['.']

/-- How a value is spelled in a listing of data. -/
def spelled (value : Value) : Text :=
  match value with
  | .integer n => Number.decimal n
  | .missing => "undef".toList
  | value =>
    let text := value.plainText
    let isNumber := (text.length ≤ 10 && text = Number.decimal (quantityOf text).toInt)
    if isNumber then '\'' :: text ++ ['\'']
    else
      '\'' :: text.flatMap (fun c => if c = '\'' || c = '\\' then ['\\', c] else [c]) ++ ['\'']

/-- A listing of data behind a margin. -/
def dumped (sorts : Bool) : (fuel margin : Nat) → Value → Work Text
  | 0, _, _ => return "'...'".toList
  | fuel + 1, margin, value => do
    match value with
    | .reference address =>
      let className ← classAt address
      let margin := if className.isSome then margin + 7 else margin
      let blanks (n : Nat) : Text := List.replicate n ' '
      let lines (opening closing : Text) (items : List Text) : Text :=
        if items.isEmpty then opening ++ closing
        else
          opening ++ '\n' :: [',', '\n'].intercalate (items.map (blanks (margin + 2) ++ ·)) ++
            '\n' :: blanks margin ++ closing
      let shown ← match ← cellAt address with
        | .list items => do
          let texts ← items.toList.mapM fun item => do dumped sorts fuel (margin + 2) (← valueAt item)
          pure (lines ['['] [']'] texts)
        | .table entries _ => do
          let entries := entries.toList
          let entries := if sorts then
              entries.mergeSort fun a b => !Ordered.precedes b.1 a.1
            else entries
          let texts ← entries.mapM fun (key, place) => do
            let start := spelled (.text key) ++ " => ".toList
            return start ++ (← dumped sorts fuel (margin + 2 + start.length) (← valueAt place))
          pure (lines ['\x7b'] ['\x7d'] texts)
        | .scalar inner _ => do
          pure ('\\' :: (← dumped sorts fuel (margin + 2) inner))
        | .code _ => pure "sub \x7b \"DUMMY\" \x7d".toList
        | .handle _ => pure "\\*\x7b'::$fh'\x7d".toList
      match className with
      | some name => return "bless( ".toList ++ shown ++ ", '".toList ++ name.toList ++ "' )".toList
      | none => return shown
    | .pattern text => return "qr/".toList ++ text ++ ['/']
    | value => return spelled value

/-- Functions that come with the language but belong to packages of their own. -/
def libraryFunction? (name : String) (values : List Value) : Work (Option (List Value)) := do
  let one (value : Value) : Work (Option (List Value)) := return some [value]
  let first := argument values 0
  match name with
  | "sum" => one (combined values Quantity.add)
  | "sum0" => one (if values.isEmpty then .integer 0 else combined values Quantity.add)
  | "product" => one (if values.isEmpty then .integer 1 else combined values Quantity.multiply)
  | "max" => one (chosen values fun a b => isLess b a)
  | "min" => one (chosen values isLess)
  | "maxstr" | "minstr" =>
    let texts ← values.mapM textOf
    let better (a b : Value) : Bool :=
      if name = "minstr" then Ordered.precedes a.plainText b.plainText
      else Ordered.precedes b.plainText a.plainText
    one (chosen (texts.map .text) better)
  | "uniq" | "uniqnum" | "uniqstr" => return some (← withoutRepeats [] values)
  | "shuffle" => return some values
  | "pairs" =>
    let rec pairsOf : List Value → Work (List Value)
      | a :: b :: rest => do
        let pair ← newList [a, b]
        return .reference pair :: (← pairsOf rest)
      | [a] => do
        let pair ← newList [a, .missing]
        return [.reference pair]
      | [] => return []
    return some (← pairsOf values)
  | "floor" => one (Quantity.ofFloat first.toFloat.floor).toValue
  | "ceil" => one (Quantity.ofFloat first.toFloat.ceil).toValue
  | "round" => one (Quantity.ofFloat first.toFloat.round).toValue
  | "fmod" =>
    let (x, y) := (first.toFloat, (argument values 1).toFloat)
    let quotient := x / y
    let whole := if quotient < 0 then quotient.ceil else quotient.floor
    one (Quantity.ofFloat (x - whole * y)).toValue
  | "pow" => one (.number (Float.pow first.toFloat (argument values 1).toFloat))
  | "isatty" => one Value.empty
  | "strftime" =>
    let format ← textOf first
    let field (n : Nat) : Int := (argument values n).toInt
    let day := Calendar.Day.number ⟨field 6 + 1900, (field 5 + 1).toNat, (field 4).toNat⟩
    let seconds := day * 86400 + field 3 * 3600 + field 2 * 60 + field 1
    one (.text (Calendar.formatted seconds 0 format))
  | "basename" =>
    let name := baseOf (← textOf first)
    let endings ← (values.drop 1).mapM textOf
    let ending := endings.find? fun e => e.isSuffixOf name && e.length < name.length
    one (.text (name.take (name.length - (ending.getD []).length)))
  | "dirname" => one (.text (directoryOf (← textOf first)))
  | "fileparse" =>
    let (directory, name) := pathParts (← textOf first)
    return some [.text name, .text (if directory.isEmpty then "./".toList else directory), Value.empty]
  | "cwd" | "getcwd" => one (.text (Task.ofLocation (← get).machine.files.workingDirectory))
  | "blessed" =>
    match first with
    | .reference address => one (((← classAt address).map fun c => Value.text c.toList).getD .missing)
    | .pattern _ => one (.text "Regexp".toList)
    | _ => one .missing
  | "reftype" =>
    match first with
    | .reference address => one (.text (← kindAt address).toList)
    | _ => one .missing
  | "refaddr" =>
    match first with
    | .reference address => one (.integer (Value.addressNumber address))
    | _ => one .missing
  | "looks_like_number" =>
    one (.ofBool (match first with
      | .integer _ | .number _ | .dual _ _ => true
      | .text t => isNumeric t
      | _ => false))
  | "Dumper" =>
    let sorts := (← globalValue "Data::Dumper::Sortkeys").isTrue
    let texts ← ((List.range values.length).zip values).mapM fun (n, value) => do
      let start := "$VAR".toList ++ Number.decimal (n + 1) ++ " = ".toList
      return start ++ (← dumped sorts 1000 start.length value) ++ ";\n".toList
    one (.text texts.flatten)
  | _ => return none

/-- The value of a function of one number. -/
def numberFunction? (name : String) (x : Float) : Option Float :=
  match name with
  | "sqrt" => some x.sqrt
  | "sin" => some x.sin
  | "cos" => some x.cos
  | "exp" => some x.exp
  | "log" => some x.log
  | _ => none

/-- A function of the language that is given values only; `none` if there is none of that name. -/
def plainFunction? (execute : Utility.Execute) (name : String) (wanted : Context) (values : List Value) :
    Work (Option (List Value)) := do
  let one (value : Value) : Work (Option (List Value)) := return some [value]
  let truth (b : Bool) : Work (Option (List Value)) := return some [.ofBool b]
  let first := argument values 0
  match name with
  | "lc" | "fc" => one (.text ((← textOf first).map Char.toLower))
  | "uc" => one (.text ((← textOf first).map Char.toUpper))
  | "lcfirst" => one (.text (capitalized Char.toLower (← textOf first)))
  | "ucfirst" => one (.text (capitalized Char.toUpper (← textOf first)))
  | "length" =>
    let text ← textOf first
    one (if first.isMissing then .missing else .ofNat text.length)
  | "quotemeta" => one (.text (quoteMeta (← textOf first)))
  | "chr" => one (.text (Format.characterText first.toInt))
  | "ord" => one (.ofNat (((← textOf first).head?.map Char.toNat).getD 0))
  | "int" =>
    one (match first.toQuantity with
      | .whole n => .integer n
      | .real x =>
        if x.isNaN || x.isInf then .number x
        else (Quantity.ofFloat (if x < 0 then x.ceil else x.floor)).toValue)
  | "abs" =>
    one (match first.toQuantity with
      | .whole n => .integer n.natAbs
      | .real x => .number x.abs)
  | "sqrt" | "sin" | "cos" | "exp" | "log" =>
    let x := first.toFloat
    if name = "log" && x ≤ 0 then fail ("Can't take log of ".toList ++ first.toQuantity.toText)
    else if name = "sqrt" && x < 0 then fail ("Can't take sqrt of ".toList ++ first.toQuantity.toText)
    else one (Quantity.ofFloat ((numberFunction? name x).getD x)).toValue
  | "atan2" => one (.number (Float.atan2 first.toFloat (argument values 1).toFloat))
  | "hex" => one (.integer (hexOf (← textOf first)))
  | "oct" => one (.integer (octalOf (← textOf first)))
  | "rand" =>
    let limit := first.toFloat
    one (.number ((← nextRandom) * (if limit == 0 then 1 else limit)))
  | "srand" => one (.integer first.toInt)
  | "join" =>
    let texts ← values.mapM textOf
    one (.text ((texts.headD []).intercalate (texts.drop 1)))
  | "reverse" =>
    if wanted = .many then return some values.reverse
    else one (.text ((← values.mapM textOf).flatten).reverse)
  | "sprintf" => one (.text (← Format.ofValues values))
  | "index" =>
    let (text, part) := (← textOf first, ← textOf (argument values 1))
    let start := min (argument values 2).toInt.toNat text.length
    one (match indexFrom part (text.length + 2) start (text.drop start) with
      | some n => .ofNat n
      | none => .integer (-1))
  | "rindex" =>
    let (text, part) := (← textOf first, ← textOf (argument values 1))
    let limit : Int := if values.length < 3 then text.length else (argument values 2).toInt
    one (match if limit < 0 then none else lastIndexUpTo text part limit.toNat with
      | some n => .ofNat n
      | none => .integer (-1))
  | "ref" =>
    match first with
    | .reference address =>
      match ← classAt address with
      | some name => one (.text name.toList)
      | none => one (.text (← kindAt address).toList)
    | .pattern _ => one (.text "Regexp".toList)
    | _ => one Value.empty
  | "bless" =>
    match first with
    | .reference address =>
      let given ← textOf (argument values 1)
      let package := (← get).package
      let name := if values.length < 2 then package else String.ofList given
      modify fun s =>
        { s with heap := s.heap.modify address fun place => { place with className := some name } }
      one first
    | _ => fail "Can't bless non-reference value".toList
  | "time" => one (.integer (← now))
  | "times" => return some [.number 0.01, .number 0, .number 0, .number 0]
  | "localtime" | "gmtime" =>
    let current ← now
    let seconds := if values.isEmpty then current else first.toInt
    if wanted = .many then return some (momentValues seconds) else one (.text (momentText seconds))
  | "sleep" =>
    task (Task.moveClock (first.toInt.toNat * 1000000000))
    task Task.passTime
    one (.integer first.toInt)
  | "unlink" => one (← countSucceeded values removeFile)
  | "mkdir" =>
    let mode := if values.length < 2 then 0o777 else (argument values 1).toInt.toNat
    truth (← makeDirectory (← textOf first) mode)
  | "rmdir" => truth (← succeeded (← task (Utility.removeDirectory (← textOf first))))
  | "rename" => truth (← rename (← textOf first) (← textOf (argument values 1)))
  | "chmod" => one (← countSucceeded (values.drop 1) (changeMode first.toInt.toNat))
  | "chown" | "utime" => one (.ofNat (values.length - 2))
  | "chdir" => truth (← changeDirectory (← textOf first))
  | "umask" =>
    let old := (← get).machine.mask
    if !values.isEmpty then task (modify fun m => { m with mask := first.toInt.toNat })
    one (.ofNat old)
  | "readlink" =>
    match ← task (Task.entry (← textOf first)) with
    | .ok (_, .link target) => one (.text (Task.ofPath target))
    | .ok _ => do
      putSystemError .invalidArgument
      one .missing
    | .error e => do
      putSystemError e
      one .missing
  | "symlink" =>
    let (target, path) := (← textOf first, ← textOf (argument values 1))
    truth (← changeFiles fun files =>
      match files.locateEntry (Task.path path) with
      | .error e => .error e
      | .ok location =>
        if (files.node? location).isSome then .error .alreadyExists
        else .ok (files.put location (.link (Task.path target))))
  | "stat" | "lstat" =>
    let status ← fileStatus (name = "stat") (← textOf first)
    if wanted = .many then return some status else truth !status.isEmpty
  | "kill" =>
    let mut count := 0
    for process in values.drop 1 do
      if ← signal first process.toInt then count := count + 1
    one (.ofNat count)
  | "getppid" => one (.ofNat ((← get).machine.parents.headD 1))
  | "wait" | "waitpid" => one (.integer (-1))
  | "fork" =>
    putSystemError (.other "Resource temporarily unavailable")
    one .missing
  | "system" =>
    let result ← runProgram execute (← values.mapM textOf) (pure ())
    one (.integer (← putHalt result))
  | "exec" =>
    flushAll
    exportEnvironment
    match ← task (runWords execute (commandWords (← values.mapM textOf))) with
    | .ok status => throw (.halt (.exit status))
    | .error e =>
      putSystemError e
      one Value.empty
  | "exit" => throw (.exit (first.toInt.fmod 256).toNat)
  | "require" | "lock" | "alarm" | "flock" => one (.integer 1)
  | "glob" => return some (← pathsOf (← textOf first))
  | _ => return none

end KDispatch.Shell.Sigil.Work
