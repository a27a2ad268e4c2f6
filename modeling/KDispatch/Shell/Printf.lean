import KDispatch.Shell.Number

/-!
Texts made from formats: escapes, and directives that take the arguments one after the other. A format
is used again as long as it takes arguments and some are left.
-/

namespace KDispatch.Shell

namespace Escape

/-- The character that an escape with one letter stands for. -/
def ofLetter? : Char → Option Char
  | '\\' => some '\\'
  | 'a' => some (Char.ofNat 7)
  | 'b' => some (Char.ofNat 8)
  | 'e' => some (Char.ofNat 27)
  | 'f' => some (Char.ofNat 12)
  | 'n' => some '\n'
  | 'r' => some '\r'
  | 't' => some '\t'
  | 'v' => some (Char.ofNat 11)
  | _ => none

/-- The byte of up to `limit` octal digits, and the text after them. -/
def octal (limit : Nat) (text : Text) : Char × Text :=
  let digits := (text.take limit).takeWhile fun c => '0' ≤ c && c ≤ '7'
  (Char.ofNat ((Number.digits 8 digits 0 0).1 % 256), text.drop digits.length)

/-- The character for an escape after its backslash. One that is not known stands for its backslash. -/
def decode (text : Text) : Char × Text :=
  match text with
  | [] => ('\\', [])
  | c :: rest =>
    match ofLetter? c with
    | some d => (d, rest)
    | none => if '0' ≤ c ∧ c ≤ '7' then octal 3 text else ('\\', text)

/-- A text with its escapes replaced; `true` tells that an escape has put an end to all output. -/
def expand : (fuel : Nat) → Text → Text × Bool
  | 0, text => (text, false)
  | _ + 1, [] => ([], false)
  | _ + 1, '\\' :: 'c' :: _ => ([], true)
  | fuel + 1, '\\' :: rest =>
    let (c, rest) :=
      match rest with
      | '0' :: digits => octal 3 digits
      | _ => decode rest
    let (more, stopped) := expand fuel rest
    (c :: more, stopped)
  | fuel + 1, c :: rest =>
    let (more, stopped) := expand fuel rest
    (c :: more, stopped)

end Escape

/-- How a value is laid out. -/
structure Layout where
  left : Bool
  plus : Bool
  space : Bool
  alternative : Bool
  zero : Bool
  width : Nat
  precision : Option Nat

namespace Layout

def spaces (n : Nat) : Text := List.replicate n ' '

/-- Fills a text up to the width. -/
def pad (layout : Layout) (text : Text) : Text :=
  let fill := spaces (layout.width - text.length)
  if layout.left then text ++ fill else fill ++ text

/-- A number with its sign or mark, filled up with zeros between the two or with blanks. -/
def padNumber (layout : Layout) (zeros : Bool) (mark digits : Text) : Text :=
  if zeros && layout.zero && !layout.left then
    mark ++ List.replicate (layout.width - mark.length - digits.length) '0' ++ digits
  else layout.pad (mark ++ digits)

def sign (layout : Layout) (negative : Bool) : Text :=
  if negative then ['-'] else if layout.plus then ['+'] else if layout.space then [' '] else []

def string (layout : Layout) (text : Text) : Text :=
  layout.pad (match layout.precision with
    | some n => text.take n
    | none => text)

/-- At least as many digits as the precision asks for; zero has none if it asks for none. -/
def withDigits (layout : Layout) (n : Nat) (digits : Text) : Text :=
  match layout.precision with
  | none => digits
  | some p => if n = 0 ∧ p = 0 then [] else List.replicate (p - digits.length) '0' ++ digits

def signed (layout : Layout) (n : Int) : Text :=
  layout.padNumber layout.precision.isNone (layout.sign (n < 0))
    (layout.withDigits n.natAbs (toString n.natAbs).toList)

/-- A number without a sign in a base. -/
def unsigned (layout : Layout) (base : Nat) (capital : Bool) (n : Nat) : Text :=
  let digits := layout.withDigits n (Nat.toDigits base n)
  let digits :=
    if base = 8 ∧ layout.alternative ∧ digits.head? ≠ some '0' then '0' :: digits else digits
  let mark := if base = 16 ∧ layout.alternative ∧ n ≠ 0 then ['0', 'x'] else []
  let text := layout.padNumber layout.precision.isNone mark digits
  if capital then text.map Char.toUpper else text

/-- The digits of `num / den` before the point and as many as asked for after it. -/
def fixedDigits (num den places : Nat) (point : Bool) : Text :=
  let n := Double.roundDiv (num * tenTo places) den
  let digits := (toString n).toList
  let digits := List.replicate (places + 1 - digits.length) '0' ++ digits
  let whole := digits.take (digits.length - places)
  let fraction := digits.drop (digits.length - places)
  if places = 0 ∧ !point then whole else whole ++ '.' :: fraction

/-- The exponent of the first digit of `num / den` after it has been rounded to `places` digits
behind the first one, and the digits. -/
def roundedDigits (num den places : Nat) : Int × Nat :=
  if num = 0 then (0, 0)
  else
    let guess : Int := (toString (num / den)).length - 1
    let low : Int := guess - (if num < den then ((toString (den / num)).length : Int) + 1 else 0)
    let scaled (e : Int) : Nat :=
      let shift : Int := places - e
      Double.roundDiv (num * tenTo shift.toNat) (den * tenTo (-shift).toNat)
    let exact (e : Int) : Bool :=
      num * tenTo (-e - 1).toNat < den * tenTo (e + 1).toNat
    let e := ((List.range 4).map fun n : Nat => low + (n : Int)).find? exact |>.getD guess
    let digits := scaled e
    if tenTo (places + 1) ≤ digits then (e + 1, scaled (e + 1)) else (e, digits)

/-- An exponent with its sign and at least two digits. -/
def exponentText (e : Int) : Text :=
  let digits := (toString e.natAbs).toList
  'e' :: (if e < 0 then '-' else '+') :: List.replicate (2 - digits.length) '0' ++ digits

/-- Digits with a point after the first one. -/
def pointed (digits : Text) (point : Bool) : Text :=
  match digits with
  | [] => []
  | [d] => if point then [d, '.'] else [d]
  | d :: rest => d :: '.' :: rest

def exponential (num den places : Nat) (point : Bool) : Text :=
  let (e, digits) := roundedDigits num den places
  let text := (toString digits).toList
  pointed (List.replicate (places + 1 - text.length) '0' ++ text) point ++ exponentText e

/-- A text with a point without the zeros at its end. -/
def dropZeros (text : Text) : Text :=
  if text.contains '.' then
    let kept := text.reverse.dropWhile (· = '0')
    (if kept.head? = some '.' then kept.drop 1 else kept).reverse
  else text

def general (num den precision : Nat) (keepZeros : Bool) : Text :=
  let places := max precision 1 - 1
  let (e, _) := roundedDigits num den places
  if e < -4 ∨ (places : Int) < e then
    let text := exponential num den places keepZeros
    if keepZeros then text
    else dropZeros (text.takeWhile (· ≠ 'e')) ++ text.dropWhile (· ≠ 'e')
  else
    let text := fixedDigits num den ((places : Int) - e).toNat keepZeros
    if keepZeros then text else dropZeros text

/-- The digits of `num / den` in base sixteen with the exponent of two behind them. -/
def hexadecimal (format : BinaryFormat) (num den : Nat) (precision : Option Nat) (point : Bool) :
    Text :=
  let below := format.precision - format.leading
  let places := below / 4
  let e := if num = 0 then -(below : Int) else format.unitExponent num den
  let n := Double.scaledRoundDiv num den e
  let shown := precision.getD places
  let n := Double.roundDiv (n * Nat.pow 16 (shown - places)) (Nat.pow 16 (places - shown))
  let unit := Nat.pow 16 shown
  let (n, e) := if 16 * unit ≤ n then (n / 16, e + 4) else (n, e)
  let digits := Nat.toDigits 16 (n % unit)
  let fraction := if shown = 0 then [] else List.replicate (shown - digits.length) '0' ++ digits
  let fraction :=
    if precision.isNone then (fraction.reverse.dropWhile (· = '0')).reverse else fraction
  let e := e + below
  Nat.toDigits 16 (n / unit) ++ (if fraction.isEmpty && !point then [] else '.' :: fraction) ++
    'p' :: (if e < 0 then '-' else '+') :: (toString e.natAbs).toList

/-- A number with a fraction. -/
def real (layout : Layout) (letter : Char) (format : BinaryFormat) (value : Real) : Text :=
  let text :=
    match value with
    | .infinite negative => layout.pad (layout.sign negative ++ "inf".toList)
    | .nan negative => layout.pad (layout.sign negative ++ "nan".toList)
    | .finite negative num den =>
      let precision := layout.precision.getD 6
      let sign := layout.sign negative
      match letter.toLower with
      | 'a' =>
        layout.padNumber true (sign ++ ['0', 'x'])
          (hexadecimal format num den layout.precision layout.alternative)
      | 'f' => layout.padNumber true sign (fixedDigits num den precision layout.alternative)
      | 'e' => layout.padNumber true sign (exponential num den precision layout.alternative)
      | _ => layout.padNumber true sign (general num den precision layout.alternative)
  if letter.isUpper then text.map Char.toUpper else text

end Layout

/-- A text made from a format. -/
structure Printed where
  output : Text
  /-- What is said about arguments that are no numbers. -/
  complaints : List Text
  /-- What is wrong with the format, if it is. -/
  failure : Option Text
  deriving Inhabited

namespace Printf

/-- What remains to be used, and what has been made so far, in reverse. -/
structure State where
  arguments : List Text
  output : Text
  complaints : List Text

/-- How arguments that are no numbers are spoken of. -/
structure Wording where
  notNumber : Text → Text
  notWhole : Text → Text
  outOfRange : Text → Text
  /-- The format in which numbers with fractions are held. -/
  format : BinaryFormat

abbrev Work := StateM State

def nextArgument? : Work (Option Text) :=
  modifyGet fun s => (s.arguments.head?, { s with arguments := s.arguments.drop 1 })

def emit (text : Text) : Work Unit := modify fun s => { s with output := text.reverse ++ s.output }

def complain (text : Text) : Work Unit :=
  modify fun s => { s with complaints := text :: s.complaints }

/-- Complains if a number does not end where its text does. -/
def checkRest (wording : Wording) (text : Text) (found : Bool) (rest : Text) : Work Bool := do
  if !rest.isEmpty then
    complain (if found then wording.notWhole text else wording.notNumber text)
    return false
  else return true

/-- The number that the next argument is. -/
def nextInteger (wording : Wording) (allowed : Int → Bool) (clamp : Int → Int) : Work Int := do
  match ← nextArgument? with
  | none => return 0
  | some text =>
    match text with
    | '\'' :: c :: _ | '"' :: c :: _ => return c.toNat
    | ['\''] | ['"'] => return 0
    | _ =>
      let (n, found, rest) :=
        match Number.signed? none text with
        | some (n, rest) => (n, true, rest)
        | none => (0, false, text)
      let whole ← checkRest wording text found rest
      if whole ∧ !allowed n then complain (wording.outOfRange text)
      return clamp n

def nextSigned (wording : Wording) : Work Int := nextInteger wording Number.fits Number.clamp

/-- The bits of the next argument. -/
def nextUnsigned (wording : Wording) : Work Nat := do
  let limit : Int := 18446744073709551615
  let n ← nextInteger wording (fun n => n.natAbs ≤ limit)
    (fun n => if limit < n.natAbs then limit else n)
  return Number.bits n

/-- The number with a fraction that the next argument is. -/
def nextReal (wording : Wording) : Work Real := do
  match ← nextArgument? with
  | none => return .finite false 0 1
  | some text =>
    match text with
    | '\'' :: c :: _ | '"' :: c :: _ => return .finite false c.toNat 1
    | _ =>
      let (value, found, rest) :=
        match Real.read? text with
        | some (value, rest) => (value, true, rest)
        | none => (.finite false 0 1, false, text)
      let whole ← checkRest wording text found rest
      let (value, fits) := value.rounded wording.format
      if whole && !fits then complain (wording.outOfRange text)
      return value

/-- The flags before a width. -/
def flags : Text → Layout → Layout × Text
  | '-' :: rest, layout => flags rest { layout with left := true }
  | '+' :: rest, layout => flags rest { layout with plus := true }
  | ' ' :: rest, layout => flags rest { layout with space := true }
  | '#' :: rest, layout => flags rest { layout with alternative := true }
  | '0' :: rest, layout => flags rest { layout with zero := true }
  | rest, layout => (layout, rest)

/-- A directive: its layout, its letter and the text after it. -/
def layoutOf (wording : Wording) (text : Text) : Work (Layout × Text) := do
  let (layout, text) := flags text ⟨false, false, false, false, false, 0, none⟩
  let (layout, text) ←
    match text with
    | '*' :: rest => do
      let n ← nextSigned wording
      pure ({ layout with width := n.natAbs, left := layout.left || n < 0 }, rest)
    | _ =>
      let (n, _, rest) := Number.digits 10 text 0 0
      pure ({ layout with width := n }, rest)
  match text with
  | '.' :: '*' :: rest =>
    let n ← nextSigned wording
    return ({ layout with precision := if n < 0 then none else some n.toNat }, rest)
  | '.' :: rest =>
    let (n, _, rest) := Number.digits 10 rest 0 0
    return ({ layout with precision := some n }, rest)
  | _ => return (layout, text)

/-- What becomes of one use of a format. -/
inductive Outcome where
  | done
  /-- An escape has put an end to all output. -/
  | stopped
  | failed (reason : Text)

/-- Makes the text of one directive; `start` is the format from it on. -/
def directive (wording : Wording) (start : Text) (layout : Layout) (letter : Char) :
    Work Outcome := do
  match letter with
  | 's' =>
    emit (layout.string ((← nextArgument?).getD []))
    return .done
  | 'b' =>
    let text := (← nextArgument?).getD []
    let (expanded, stopped) := Escape.expand (text.length + 1) text
    emit (layout.string expanded)
    return if stopped then .stopped else .done
  | 'c' =>
    let c := ((← nextArgument?).bind List.head?).getD '\x00'
    emit (layout.pad [c])
    return .done
  | 'd' | 'i' =>
    emit (layout.signed (← nextSigned wording))
    return .done
  | 'u' =>
    emit (layout.unsigned 10 false (← nextUnsigned wording))
    return .done
  | 'o' =>
    emit (layout.unsigned 8 false (← nextUnsigned wording))
    return .done
  | 'x' | 'X' =>
    emit (layout.unsigned 16 letter.isUpper (← nextUnsigned wording))
    return .done
  | 'a' | 'A' | 'e' | 'E' | 'f' | 'F' | 'g' | 'G' =>
    emit (layout.real letter wording.format (← nextReal wording))
    return .done
  | _ => return .failed (start ++ ": invalid directive".toList)

/-- Uses a format once. -/
def pass (wording : Wording) : (fuel : Nat) → Text → Work Outcome
  | 0, _ => return .done
  | _ + 1, [] => return .done
  | fuel + 1, '\\' :: rest => do
    let (c, rest) := Escape.decode rest
    emit [c]
    pass wording fuel rest
  | fuel + 1, '%' :: '%' :: rest => do
    emit ['%']
    pass wording fuel rest
  | fuel + 1, '%' :: rest => do
    let (layout, after) ← layoutOf wording rest
    match after with
    | [] => return .failed "missing format character".toList
    | letter :: after =>
      let start := '%' :: rest.take (rest.length - after.length)
      match ← directive wording start layout letter with
      | .done => pass wording fuel after
      | outcome => return outcome
  | fuel + 1, c :: rest => do
    emit [c]
    pass wording fuel rest

/-- Uses a format as long as it takes arguments and some are left. -/
def passes (wording : Wording) (format : Text) : (fuel : Nat) → Work (Option Text)
  | 0 => return none
  | fuel + 1 => do
    let before := (← get).arguments.length
    match ← pass wording (format.length + 1) format with
    | .stopped => return none
    | .failed reason => return some reason
    | .done =>
      let after := (← get).arguments.length
      if after = before ∨ after = 0 then return none else passes wording format fuel

/-- The text that a format makes of arguments. -/
def print (wording : Wording) (format : Text) (arguments : List Text) : Printed :=
  let (failure, state) := (passes wording format (arguments.length + 1)).run ⟨arguments, [], []⟩
  ⟨state.output.reverse, state.complaints.reverse, failure⟩

end Printf

end KDispatch.Shell
