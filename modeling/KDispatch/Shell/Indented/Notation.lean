import KDispatch.Shell.Indented.Containers

/-!
Values as texts in a notation for data, with braces around entries and brackets around items.
-/

namespace KDispatch.Shell.Indented

namespace Data

/-- How values are laid out. -/
structure Layout where
  /-- What a further level is indented by; nothing puts all in one line. -/
  margin : Option Text
  itemMark : Text
  entryMark : Text
  sorts : Bool
  onlyAscii : Bool
  /-- What makes other values of those that have no notation. -/
  convert : Value

def escapedUnit (n : Nat) : Text := '\\' :: 'u' :: Spelling.hexadecimal 4 n

def escaped (onlyAscii : Bool) (c : Char) : Text :=
  match c with
  | '"' => ['\\', '"']
  | '\\' => ['\\', '\\']
  | '\n' => ['\\', 'n']
  | '\r' => ['\\', 'r']
  | '\t' => ['\\', 't']
  | c =>
    let n := c.toNat
    if n = 8 then ['\\', 'b']
    else if n = 12 then ['\\', 'f']
    else if n < 32 then escapedUnit n
    else if 126 < n && onlyAscii then
      if n = 127 then [c]
      else if n < 65536 then escapedUnit n
      else escapedUnit (0xd800 + (n - 65536) / 1024) ++ escapedUnit (0xdc00 + (n - 65536) % 1024)
    else [c]

def quoted (onlyAscii : Bool) (t : Text) : Text := '"' :: t.flatMap (escaped onlyAscii) ++ ['"']

def real (x : Float) : Text :=
  if x.isNaN then "NaN".toList
  else if x.isInf then (if x < 0 then "-Infinity" else "Infinity").toList
  else Spelling.real x

/-- What opens a value, its parts with the marks between them, and what closes it. -/
def enclosed (layout : Layout) (depth : Nat) (opening closing : Char) (parts : List Text) : Text :=
  match layout.margin with
  | none => opening :: layout.itemMark.intercalate parts ++ [closing]
  | some margin =>
    if parts.isEmpty then [opening, closing]
    else
      let line (n : Nat) : Text := '\n' :: (List.replicate n margin).flatten
      opening :: line (depth + 1) ++ (layout.itemMark ++ line (depth + 1)).intercalate parts ++ line depth ++
        [closing]

open Work Core in
/-- The notation of a value. -/
def ofValue (core : Core) (layout : Layout) : (fuel depth : Nat) → Value → Work Text
  | 0, _, _ => fail "ValueError" "Circular reference detected".toList
  | fuel + 1, depth, value => do
    let other : Work Text := do
      match layout.convert with
      | .nothing =>
        refuse ("Object of type " ++ (← kindNameOf value) ++ " is not JSON serializable")
      | convert => do ofValue core layout fuel depth (← core.call convert [value] [])
    match value with
    | .nothing => return "null".toList
    | .boolean b => return (if b then "true" else "false").toList
    | .integer n => return (toString n).toList
    | .real x => return real x
    | .text t => return quoted layout.onlyAscii t
    | .tuple items => do
      let parts ← items.mapM fun item => ofValue core layout fuel (depth + 1) item
      return enclosed layout depth '[' ']' parts
    | .object address =>
      match ← objectAt address with
      | .list _ items => do
        let parts ← items.toList.mapM fun item => ofValue core layout fuel (depth + 1) item
        return enclosed layout depth '[' ']' parts
      | .table _ _ entries => do
        let entries ← if layout.sorts then
            core.sorted (entries.size + 1) entries.toList
          else pure entries.toList
        let parts ← entries.mapM fun (k, v) => do
          let key ← match k with
            | .text t => pure t
            | .integer n => pure (toString n).toList
            | .boolean b => pure (if b then "true" else "false").toList
            | .nothing => pure "null".toList
            | .real x => pure (real x)
            | k => refuse ("keys must be str, int, float, bool or None, not " ++ (← kindNameOf k))
          return quoted layout.onlyAscii key ++ layout.entryMark ++
            (← ofValue core layout fuel (depth + 1) v)
        return enclosed layout depth '\x7b' '\x7d' parts
      | _ => other
    | _ => other

/-- What reading has come to. -/
structure Reading where
  rest : Text
  place : Nat

/-- What is wrong with a text, and where. -/
structure Fault where
  message : String
  place : Nat

abbrev Reader := ReaderT Core (StateT Reading (ExceptT Fault Work))

namespace Reader

def peek : Reader (Option Char) := return (← get).rest.head?

def skip (n : Nat) : Reader Unit := modify fun s => ⟨s.rest.drop n, s.place + n⟩

def refuse {α : Type} (message : String) : Reader α := do
  let s ← get
  throw ⟨message, s.place⟩

def isBlank (c : Char) : Bool := c = ' ' || c = '\n' || c = '\t' || c = '\r'

def skipBlanks : Reader Unit := do
  let s ← get
  skip (s.rest.takeWhile isBlank).length

def hexUnit : Reader Nat := do
  let s ← get
  let digits := s.rest.take 4
  if digits.length = 4 && digits.all Scan.Reader.isHexDigit then
    skip 4
    return Scan.Reader.numberOf 16 digits
  else
    set { s with place := s.place - 1 }
    refuse "Invalid \\uXXXX escape"

/-- Reads a text up to its closing quote; `start` is where it has been opened. -/
def textRest (start : Nat) : (fuel : Nat) → Text → Reader Text
  | 0, found => return found.reverse
  | fuel + 1, found => do
    match (← get).rest with
    | [] => throw ⟨"Unterminated string starting at", start⟩
    | '"' :: _ =>
      skip 1
      return found.reverse
    | '\\' :: letter :: _ =>
      skip 2
      match letter with
      | 'u' =>
        let n ← hexUnit
        let s ← get
        match s.rest with
        | '\\' :: 'u' :: _ =>
          if 0xd800 ≤ n && n < 0xdc00 then
            skip 2
            let low ← hexUnit
            textRest start fuel (Char.ofNat (65536 + (n - 0xd800) * 1024 + (low - 0xdc00)) :: found)
          else textRest start fuel (Char.ofNat n :: found)
        | _ => textRest start fuel (Char.ofNat n :: found)
      | letter =>
        let c? : Option Char := match letter with
          | 'n' => some '\n'
          | 't' => some '\t'
          | 'r' => some '\r'
          | 'b' => some (Char.ofNat 8)
          | 'f' => some (Char.ofNat 12)
          | '"' | '\\' | '/' => some letter
          | _ => none
        match c? with
        | some c => textRest start fuel (c :: found)
        | none => do
          let s ← get
          throw ⟨"Invalid \\escape", s.place - 2⟩
    | c :: _ =>
      if c.toNat < 32 then refuse "Invalid control character at"
      else
        skip 1
        textRest start fuel (c :: found)

def text : Reader Text := do
  let s ← get
  skip 1
  textRest s.place (s.rest.length + 1) []

/-- Reads a number. -/
def number : Reader Value := do
  let s ← get
  let sign := s.rest.takeWhile (· = '-')
  let after := s.rest.drop sign.length
  let whole := if after.head? = some '0' then ['0'] else after.takeWhile Char.isDigit
  let after := after.drop whole.length
  let fraction : Text := match after with
    | '.' :: more =>
      let digits := more.takeWhile Char.isDigit
      if digits.isEmpty then [] else '.' :: digits
    | _ => []
  let after := after.drop fraction.length
  let power : Text := match after with
    | e :: more =>
      if e = 'e' || e = 'E' then
        let sign := (more.take 1).takeWhile fun c => c = '+' || c = '-'
        let digits := (more.drop sign.length).takeWhile Char.isDigit
        if digits.isEmpty then [] else e :: sign ++ digits
      else []
    | [] => []
  if whole.isEmpty || 1 < sign.length then refuse "Expecting value"
  else
    skip (sign.length + whole.length + fraction.length + power.length)
    let all := sign ++ whole ++ fraction ++ power
    if fraction.isEmpty && power.isEmpty then return .integer ((Numeric.whole? 10 all).getD 0)
    else return .real ((Numeric.real? all).getD 0)

/-- Does work of the program. -/
def work {α : Type} (w : Work α) : Reader α := fun _ s => ExceptT.lift (do return (← w, s))

mutual

/-- Reads a value. -/
def value : (fuel : Nat) → Reader Value
  | 0 => refuse "Expecting value"
  | fuel + 1 => do
    let s ← get
    let startsWith (word : String) : Bool := word.toList.isPrefixOf s.rest
    match s.rest with
    | '"' :: _ => return .text (← text)
    | '[' :: _ =>
      skip 1
      skipBlanks
      if (← peek) = some ']' then
        skip 1
        work (Work.newList [])
      else
        let items ← items fuel
        work (Work.newList items)
    | c :: _ =>
      if c = '\x7b' then
        skip 1
        skipBlanks
        if (← peek) = some '\x7d' then
          skip 1
          work (Work.newTable [])
        else
          let found ← entries fuel #[]
          work (Work.newTable found.toList)
      else if startsWith "true" then
        skip 4
        return .boolean true
      else if startsWith "false" then
        skip 5
        return .boolean false
      else if startsWith "null" then
        skip 4
        return .nothing
      else if startsWith "NaN" then
        skip 3
        return .real (0.0 / 0.0)
      else if startsWith "Infinity" then
        skip 8
        return .real (1.0 / 0.0)
      else number
    | [] => refuse "Expecting value"

/-- Reads items up to the bracket that closes them. -/
def items : (fuel : Nat) → Reader (List Value)
  | 0 => refuse "Expecting value"
  | fuel + 1 => do
    skipBlanks
    let first ← value fuel
    skipBlanks
    match ← peek with
    | some ',' =>
      skip 1
      skipBlanks
      return first :: (← items fuel)
    | some ']' =>
      skip 1
      return [first]
    | _ => refuse "Expecting ',' delimiter"

/-- Reads entries up to the brace that closes them. -/
def entries : (fuel : Nat) → Array (Value × Value) → Reader (Array (Value × Value))
  | 0, _ => refuse "Expecting value"
  | fuel + 1, found => do
    skipBlanks
    if (← peek) = some '"' then
      let key ← text
      skipBlanks
      if (← peek) = some ':' then
        skip 1
        skipBlanks
        let v ← value fuel
        let core ← read
        let found ← work (core.withEntry (.text key) v found)
        skipBlanks
        match ← peek with
        | some ',' =>
          skip 1
          entries fuel found
        | some '\x7d' =>
          skip 1
          return found
        | _ => refuse "Expecting ',' delimiter"
      else refuse "Expecting ':' delimiter"
    else refuse "Expecting property name enclosed in double quotes"

end

/-- Reads a text that holds one value. -/
def whole (fuel : Nat) : Reader Value := do
  skipBlanks
  let v ← value fuel
  skipBlanks
  if (← get).rest.isEmpty then return v else refuse "Extra data"

end Reader

open Work in
/-- The value that a text notes. -/
def toValue (core : Core) (t : Text) : Work Value := do
  match ← ((Reader.whole (2 * t.length + 2)).run core).run ⟨t, 0⟩ |>.run with
  | .ok (v, _) => return v
  | .error fault =>
    let before := t.take fault.place
    let line := (before.filter (· = '\n')).length + 1
    let column := (before.reverse.takeWhile (· ≠ '\n')).length + 1
    fail "JSONDecodeError" (fault.message ++ ": line " ++ toString line ++ " column " ++ toString column ++
      " (char " ++ toString fault.place ++ ")").toList

end Data

namespace Core

open Work

/-- What a function of the notation's module gives. -/
def notationFunction (core : Core) (name : String) (arguments : Arguments) : Work Value := do
  let layout : Work Data.Layout := do
    let margin ← match arguments.named.lookup "indent" with
      | some (.integer n) => pure (some (List.replicate n.toNat ' '))
      | some (.text t) => pure (some t)
      | _ => pure none
    let (itemMark, entryMark) ← match arguments.named.lookup "separators" with
      | some marks =>
        match ← core.items marks with
        | [.text a, .text b] => pure (a, b)
        | _ => fail "ValueError" "not enough values to unpack".toList
      | none => pure ((if margin.isSome then [','] else [',', ' ']), [':', ' '])
    let sorts ← core.truth ((arguments.named.lookup "sort_keys").getD .nothing)
    let onlyAscii ← core.truth ((arguments.named.lookup "ensure_ascii").getD (.boolean true))
    return ⟨margin, itemMark, entryMark, sorts, onlyAscii, (arguments.named.lookup "default").getD .nothing⟩
  match name with
  | "dumps" => return .text (← Data.ofValue core (← layout) 200 0 arguments.first)
  | "dump" => do
    let t ← Data.ofValue core (← layout) 200 0 arguments.first
    match arguments.second with
    | .object address => do
      let f ← fileAt address
      writeBytes address (if f.keeps then t else encoded t)
      return .nothing
    | _ => return .nothing
  | "loads" =>
    match arguments.first with
    | .text t => Data.toValue core t
    | .bytes t => Data.toValue core (decoded t)
    | v =>
      refuse ("the JSON object must be str, bytes or bytearray, not " ++ (← kindNameOf v))
  | _ =>
    match arguments.first with
    | .object address =>
      match ← readAll address none with
      | .text t => Data.toValue core t
      | .bytes t => Data.toValue core (decoded t)
      | _ => return .nothing
    | v => refuseMember v "read"

end Core

end KDispatch.Shell.Indented
