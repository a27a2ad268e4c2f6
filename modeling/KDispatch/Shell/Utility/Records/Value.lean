import KDispatch.Ordered
import KDispatch.Shell.Printf

/-!
Values: numbers, texts, and texts from the input, which count as numbers where they look like ones; and texts
made from formats, each of whose directives takes a value.
-/

namespace KDispatch.Shell.Records

inductive Value where
  | missing
  | number (value : Float)
  | text (content : Text)
  /-- A text that comes from the input. -/
  | given (content : Text)
  deriving Inhabited

/-- The double that a number of a double's format is. -/
def ofReal : Real → Float
  | .finite negative num den =>
    let magnitude := ((Double.ofRatio? num den).getD Double.zero).bits
    Float.ofBits (if negative then magnitude ||| 0x8000000000000000 else magnitude)
  | .infinite negative => if negative then -1.0 / 0.0 else 1.0 / 0.0
  | .nan negative =>
    Float.ofBits (if negative then 0xFFF8000000000000 else 0x7FF8000000000000)

/-- What a double stands for; what is no number comes out of arithmetic with a minus sign. -/
def toReal (x : Float) : Real :=
  let double : Double := ⟨x.toBits⟩
  if x.isNaN then .nan true
  else if x.isInf then .infinite double.isNegative
  else .finite double.isNegative double.ratio.1 double.ratio.2

/-- The number at the start of a text, and the text after it. -/
def numberIn (text : Text) : Float × Text :=
  match Real.read? text with
  | some (value, rest) => (ofReal (value.rounded .double).1, rest)
  | none => (0, text)

def numberAt (text : Text) : Float := (numberIn text).1

/-- Whether a text from the input counts as a number. -/
def looksNumeric (text : Text) : Bool :=
  let trimmed := text.dropWhile Number.isSpace
  match trimmed.head? with
  | some c =>
    if c.isDigit || "+-.".toList.contains c then
      let isHexadecimal := trimmed.any fun c => c = 'x' || c = 'X'
      match Real.read? trimmed with
      | some (value, rest) =>
        !isHexadecimal && rest.all Number.isSpace && (value.rounded .double).2
      | none => false
    else false
  | none => false

/-- The integer that a number is when its fraction is dropped. -/
def truncated (x : Float) : Int :=
  match toReal x with
  | .finite negative num den => if negative then -((num / den : Nat) : Int) else (num / den : Nat)
  | .infinite negative => if negative then -Number.maximum else 2 * Number.maximum + 1
  | .nan _ => -Number.maximum - 1

/-- Whether a number has no fraction. -/
def isWhole (x : Float) : Bool :=
  match toReal x with
  | .finite _ num den => num % den = 0
  | _ => false

/-- The largest number that is written with all its digits. -/
def largestWhole : Int := 18446744073709551615

/-- The digits of a number without a fraction that is not too large. -/
def wholeText? (x : Float) : Option Text :=
  let n := truncated x
  if isWhole x && Number.minimum ≤ n && n ≤ largestWhole + 1 then
    some (Number.decimal (min n largestWhole))
  else none

/-- The text that a format with one directive makes of a number. -/
def numberText (format : Text) (x : Float) : Text :=
  match wholeText? x with
  | some text => text
  | none =>
    let before := format.takeWhile (· ≠ '%')
    let directive := format.drop (before.length + 1)
    let (layout, rest) := Printf.flags directive ⟨false, false, false, false, false, 0, none⟩
    let (width, _, rest) := Number.digits 10 rest 0 0
    let layout := { layout with width }
    let (layout, rest) : Layout × Text :=
      match rest with
      | '.' :: rest =>
        let (precision, _, rest) := Number.digits 10 rest 0 0
        ({ layout with precision := some precision }, rest)
      | _ => (layout, rest)
    match rest with
    | [] => format
    | letter :: after =>
      let shown :=
        match letter with
        | 'd' | 'i' => layout.signed (truncated x)
        | letter => layout.real letter .double (toReal x)
      before ++ shown ++ after

namespace Value

def empty : Value := .text []

def ofNat (n : Nat) : Value := .number n.toFloat

def ofBool (b : Bool) : Value := .number (if b then 1 else 0)

/-- The number that a value is. -/
def toNumber : Value → Float
  | .missing => 0
  | .number x => x
  | .text content | .given content => numberAt content

/-- The text that a value is, with a format for numbers that have fractions. -/
def toText (format : Text) : Value → Text
  | .missing => []
  | .number x => numberText format x
  | .text content | .given content => content

/-- Whether a value counts as a number. -/
def isNumeric : Value → Bool
  | .missing | .number _ => true
  | .text _ => false
  | .given content => looksNumeric content

/-- Whether a value counts as true. -/
def isTrue : Value → Bool
  | .missing => false
  | .number x => !(x == 0)
  | .text content => !content.isEmpty
  | .given content =>
    if looksNumeric content then !(numberAt content == 0) else !content.isEmpty

/-- Which of two values comes first: numbers are compared as numbers, and all else as texts. -/
def compare (format : Text) (a b : Value) : Ordering :=
  if a.isNumeric && b.isNumeric then
    let (x, y) := (a.toNumber, b.toNumber)
    if x < y then .lt else if y < x then .gt else .eq
  else
    let (s, t) := (a.toText format, b.toText format)
    if Ordered.precedes s t then .lt else if Ordered.precedes t s then .gt else .eq

end Value

end KDispatch.Shell.Records

/-! Texts made from formats: each directive takes a value. -/

namespace KDispatch.Shell.Records.Format

/-- Why a format cannot be used. -/
inductive Fault where
  | missingValue
  /-- The directive with a number is none. -/
  | malformed (number : Nat)

/-- What is left of the values, and what has been made, in reverse. -/
structure State where
  values : List Value
  output : Text
  directives : Nat

abbrev Work := ExceptT Fault (StateM State)

def emit (text : Text) : Work Unit := modify fun s => { s with output := text.reverse ++ s.output }

def nextValue : Work Value := do
  match (← get).values with
  | [] => throw .missingValue
  | value :: values =>
    modify fun s => { s with values }
    return value

/-- A width or precision that is spelled out or taken from the values. -/
def size (rest : Text) : Work (Int × Text) := do
  match rest with
  | '*' :: rest => return (truncated (← nextValue).toNumber, rest)
  | rest =>
    let (n, _, rest) := Number.digits 10 rest 0 0
    return ((n : Int), rest)

/-- A number as 64 bits. -/
def bitsOf (x : Float) : Nat := Number.bits (truncated x)

/-- The integer that is shown for a number. -/
def integerOf (x : Float) : Int :=
  let n := truncated x
  if n < Number.minimum then -Number.maximum else min n largestWhole

/-- The character that is shown for a value. -/
def characterOf : Value → Char
  | .missing => '\x00'
  | .number x => Char.ofNat (bitsOf x % 256)
  | .text content => content.headD '\x00'
  | .given content =>
    if looksNumeric content then Char.ofNat (bitsOf (numberAt content) % 256)
    else content.headD '\x00'

/-- Makes the text of a directive behind its percent sign; gives what is behind the directive. -/
def directive (numbers rest : Text) : Work Text := do
  modify fun s => { s with directives := s.directives + 1 }
  let (layout, rest) := Printf.flags rest ⟨false, false, false, false, false, 0, none⟩
  let (width, rest) ← size rest
  let layout := { layout with width := width.natAbs, left := layout.left || width < 0 }
  let (layout, rest) ←
    match rest with
    | '.' :: rest => do
      let (precision, rest) ← size rest
      let layout : Layout :=
        { layout with precision := if precision < 0 then none else some precision.toNat }
      pure (layout, rest)
    | rest => pure (layout, rest)
  let rest := rest.dropWhile fun c => c = 'h' || c = 'l'
  let number := (← get).directives
  match rest with
  | [] => throw .missingValue
  | letter :: rest =>
    if !("diouxXcseEfFgGaA".toList.contains letter) then
      let _ ← nextValue
      throw (.malformed number)
    let value ← nextValue
    match letter with
    | 's' => emit (layout.string (value.toText numbers))
    | 'c' => emit (layout.pad [characterOf value])
    | 'd' | 'i' => emit (layout.signed (integerOf value.toNumber))
    | 'o' => emit (layout.unsigned 8 false (bitsOf value.toNumber))
    | 'u' => emit (layout.unsigned 10 false (bitsOf value.toNumber))
    | 'x' | 'X' => emit (layout.unsigned 16 letter.isUpper (bitsOf value.toNumber))
    | _ => emit (layout.real letter .double (toReal value.toNumber))
    return rest

def texts (numbers : Text) : (fuel : Nat) → Text → Work Unit
  | 0, _ => return
  | _ + 1, [] => return
  | fuel + 1, '%' :: '%' :: rest => do
    emit ['%']
    texts numbers fuel rest
  | fuel + 1, '%' :: rest => do texts numbers fuel (← directive numbers rest)
  | fuel + 1, c :: rest => do
    emit [c]
    texts numbers fuel rest

/-- The text that a format makes of values, up to what is wrong; numbers in texts are written with another
format. -/
def print (numbers format : Text) (values : List Value) : Text × Option Fault :=
  let (result, state) := (texts numbers (format.length + 1) format).run.run ⟨values, [], 0⟩
  (state.output.reverse,
    match result with
    | .ok () => none
    | .error fault => some fault)

/-- What is said about a fault in the use of a format by a command or function. -/
def Fault.message (user : String) (format : Text) : Fault → Text
  | .missingValue =>
    ("not enough arguments passed to " ++ user ++ "(\"").toList ++ format ++ "\")".toList
  | .malformed number =>
    ("improper conversion(number " ++ toString number ++ ") in " ++ user ++ "(\"").toList ++ format ++
      "\")".toList

end KDispatch.Shell.Records.Format
