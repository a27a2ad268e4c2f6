import KDispatch.Shell.Indented.Operation
import KDispatch.Shell.Scan.Reader

/-!
Texts made from formats: templates whose directives take values in turn or by names, and the specifications of
how one value is laid out.
-/

namespace KDispatch.Shell.Indented

/-- How a value is laid out. -/
structure Specification where
  fill : Char
  align : Option Char
  sign : Option Char
  alternative : Bool
  zero : Bool
  width : Nat
  grouping : Option Char
  precision : Option Nat
  letter : Option Char

namespace Specification

def isAlign (c : Char) : Bool := "<>=^".toList.contains c

/-- Reads a specification; there is none if something is left of the text. -/
def ofText? (t : Text) : Option Specification :=
  let (fill, align, t) : Char × Option Char × Text :=
    match t with
    | c :: a :: rest =>
      if isAlign a then (c, some a, rest) else if isAlign c then (' ', some c, a :: rest) else (' ', none, t)
    | [c] => if isAlign c then (' ', some c, []) else (' ', none, t)
    | [] => (' ', none, [])
  let (sign, t) : Option Char × Text := match t with
    | c :: rest => if "+- ".toList.contains c then (some c, rest) else (none, t)
    | [] => (none, [])
  let t := if t.head? = some 'z' then t.drop 1 else t
  let (alternative, t) : Bool × Text := match t with
    | '#' :: rest => (true, rest)
    | t => (false, t)
  let (zero, t) : Bool × Text := match t with
    | '0' :: rest => (true, rest)
    | t => (false, t)
  let digits := t.takeWhile Char.isDigit
  let width := Scan.Reader.numberOf 10 digits
  let t := t.drop digits.length
  let (grouping, t) : Option Char × Text := match t with
    | ',' :: rest => (some ',', rest)
    | '_' :: rest => (some '_', rest)
    | t => (none, t)
  let (precision, t) : Option Nat × Text := match t with
    | '.' :: rest =>
      let digits := rest.takeWhile Char.isDigit
      (some (Scan.Reader.numberOf 10 digits), rest.drop digits.length)
    | t => (none, t)
  match t with
  | [] => some ⟨fill, align, sign, alternative, zero, width, grouping, precision, none⟩
  | [c] => some ⟨fill, align, sign, alternative, zero, width, grouping, precision, some c⟩
  | _ => none

/-- Fills a text up to the width. -/
def pad (s : Specification) (usual : Char) (t : Text) : Text :=
  let missing := s.width - t.length
  let fill (n : Nat) : Text := List.replicate n s.fill
  match s.align.getD usual with
  | '<' => t ++ fill missing
  | '^' => fill (missing / 2) ++ t ++ fill (missing - missing / 2)
  | _ => fill missing ++ t

/-- Digits with marks between groups of them. -/
def grouped (size : Nat) (mark : Char) (digits : Text) : Text :=
  let rec go : (count : Nat) → Text → Text
    | _, [] => []
    | count, c :: rest => if count = size then mark :: c :: go 1 rest else c :: go (count + 1) rest
  (go 0 digits.reverse).reverse

/-- A number with its sign and mark, of whose digits those before the point are grouped. -/
def number (s : Specification) (isNegative : Bool) (mark digits rest : Text) : Text :=
  let sign : Text :=
    if isNegative then ['-']
    else match s.sign with
      | some '+' => ['+']
      | some ' ' => [' ']
      | _ => []
  let size := if s.letter.any fun c => "bBoOxX".toList.contains c then 4 else 3
  let group (digits : Text) : Text := match s.grouping with
    | some c => grouped size c digits
    | none => digits
  let s := if s.zero && s.align.isNone then { s with fill := '0', align := some '=' } else s
  match s.align with
  | some '=' =>
    let wanted := s.width - sign.length - mark.length - rest.length
    let plain := group digits
    let filled :=
      if s.fill = '0' && s.grouping.isSome then
        let candidates := (List.range (wanted + 1)).map fun n =>
          group (List.replicate (n - digits.length) '0' ++ digits)
        (candidates.find? fun t => wanted ≤ t.length).getD plain
      else List.replicate (wanted - plain.length) s.fill ++ plain
    sign ++ mark ++ filled ++ rest
  | _ => s.pad '>' (sign ++ mark ++ group digits ++ rest)

/-- A whole number. -/
def whole (s : Specification) (n : Int) : Option Text :=
  let based (base : Nat) (mark : String) : Text :=
    s.number (n < 0) (if s.alternative then mark.toList else []) (Nat.toDigits base n.natAbs) []
  match s.letter with
  | none | some 'd' | some 'n' => some (s.number (n < 0) [] (toString n.natAbs).toList [])
  | some 'b' => some (based 2 "0b")
  | some 'o' => some (based 8 "0o")
  | some 'x' => some (based 16 "0x")
  | some 'X' =>
    some (s.number (n < 0) (if s.alternative then ['0', 'X'] else [])
      ((Nat.toDigits 16 n.natAbs).map Char.toUpper) [])
  | some 'c' => some (s.pad '<' [Char.ofNat n.toNat])
  | _ => none

/-- A number with a fraction. -/
def real (s : Specification) (x : Float) : Option Text :=
  let d : Double := ⟨x.toBits⟩
  let letter := s.letter.getD 'r'
  let shaped (t : Text) : Text :=
    let t := if letter.isUpper then t.map Char.toUpper else t
    let digits := t.takeWhile Char.isDigit
    s.number (d.isNegative && !x.isNaN) [] digits (t.drop digits.length)
  if !"eEfFgGnr%".toList.contains letter then none
  else
    match Records.toReal x with
    | .finite _ num den =>
      let places := s.precision.getD 6
      some (shaped (match letter.toLower with
        | 'f' => Layout.fixedDigits num den places s.alternative
        | '%' => Layout.fixedDigits (100 * num) den places s.alternative ++ ['%']
        | 'e' => Layout.exponential num den places s.alternative
        | 'r' =>
          match s.precision with
          | none => (Spelling.real x).dropWhile (· = '-')
          | some places =>
            let t := Layout.general num den places s.alternative
            -- A number that fills its digits before the point is shown with an exponent.
            let t := if t.all Char.isDigit && places ≤ t.length then
                Layout.dropZeros ((Layout.exponential num den (places - 1) false).takeWhile (· ≠ 'e')) ++
                  (Layout.exponential num den (places - 1) false).dropWhile (· ≠ 'e')
              else t
            if t.all Char.isDigit then t ++ ".0".toList else t
        | _ => Layout.general num den places s.alternative))
    | _ =>
      let t := (if x.isNaN then "nan" else "inf").toList
      let t := if letter.isUpper then t.map Char.toUpper else t
      let t := if letter = '%' then t ++ ['%'] else t
      some ({ s with zero := false }.number (x < 0) [] [] t)

end Specification

namespace Core

open Work

/-- A letter that does not fit a value. -/
def refuseLetter {α : Type} (letter : Char) (value : Value) : Work α := do
  fail "ValueError" ("Unknown format code '".toList ++ letter :: "' for object of type '".toList ++
    (← kindNameOf value).toList ++ ['\''])

/-- A value laid out as a specification tells. -/
def formatted (core : Core) (value : Value) (specification : Text) : Work Text := do
  match ← core.special? value "__format__" [.text specification] with
  | some (.text t) => return t
  | _ =>
    if specification.isEmpty then core.text value
    else
      match Specification.ofText? specification with
      | none =>
        fail "ValueError" ("Invalid format specifier '".toList ++ specification ++ "' for object of type '".toList ++
          (← kindNameOf value).toList ++ ['\''])
      | some s =>
        match value with
        | .text t =>
          match s.letter with
          | none | some 's' =>
            if s.align = some '=' then
              fail "ValueError" "'=' alignment not allowed in string format specifier".toList
            else
              let shown := match s.precision with
                | some n => t.take n
                | none => t
              let s := if s.zero && s.align.isNone then { s with fill := '0' } else s
              return s.pad '<' shown
          | some letter => refuseLetter letter value
        | value =>
          match number? value with
          | some (.whole n) =>
            match value, s.letter with
            | .boolean _, none => return s.pad '>' (← core.text value)
            | _, _ =>
              match s.whole n with
              | some t =>
                if s.precision.isSome then
                  fail "ValueError" "Precision not allowed in integer format specifier".toList
                else return t
              | none =>
                match s.real (Float.ofInt n) with
                | some t => return t
                | none => refuseLetter (s.letter.getD ' ') value
          | some (.real x) =>
            match s.real x with
            | some t => return t
            | none => refuseLetter (s.letter.getD ' ') value
          | none =>
            refuse ("unsupported format string passed to " ++ (← kindNameOf value) ++ ".__format__")

/-- The text of a value as the letter behind an exclamation mark wants it. -/
def converted (core : Core) (conversion : Option Char) (value : Value) : Work Value := do
  match conversion with
  | some 's' => return .text (← core.text value)
  | some _ => return .text (← core.spell value)
  | none => return value

namespace Template

/-- A directive behind a percent sign. -/
structure Directive where
  key : Option Text
  layout : Layout
  letter : Char

/-- What is known while a template is filled in. -/
structure Filling where
  values : List Value
  /-- The table that names in directives belong to. -/
  table : Option Value
  used : Bool

abbrev Filler := StateT Filling Work

def next : Filler Value := do
  let s ← get
  match s.values with
  | v :: rest =>
    set { s with values := rest }
    return v
  | [] => refuse "not enough arguments for format string"

/-- A size that is spelled out or taken from the values. -/
def size (t : Text) : Filler (Option Int × Text) := do
  match t with
  | '*' :: rest =>
    match whole? (← next) with
    | some n => return (some n, rest)
    | none => refuse "* wants int"
  | t =>
    let digits := t.takeWhile Char.isDigit
    return (if digits.isEmpty then none else some (Scan.Reader.numberOf 10 digits : Int), t.drop digits.length)

/-- The text that a directive makes of a value. -/
def shown (core : Core) (layout : Layout) (letter : Char) (value : Value) : Work Text := do
  let lower := letter.toLower
  match letter with
  | 's' => return layout.string (← core.text value)
  | 'r' | 'a' => return layout.string (← core.spell value)
  | 'c' =>
    match value with
    | .text [c] => return layout.pad [c]
    | value =>
      match whole? value with
      | some n => return layout.pad [Char.ofNat n.toNat]
      | none => refuse "%c requires int or char"
  | _ =>
    if "diu".toList.contains letter then
      match number? value with
      | some (.whole n) => return layout.signed n
      | some (.real x) => return layout.signed ((Numeric.truncated? x).getD 0)
      | none =>
        refuse ("%" ++ String.singleton letter ++ " format: a real number is required, not " ++ (← kindNameOf value))
    else if lower = 'x' || lower = 'o' then
      match whole? value with
      | some n =>
        let base := if lower = 'x' then 16 else 8
        let digits := layout.withDigits n.natAbs (Nat.toDigits base n.natAbs)
        let mark : Text := layout.sign (n < 0) ++ if layout.alternative then ['0', lower] else []
        let t := layout.padNumber layout.precision.isNone mark digits
        return if letter = 'X' then t.map Char.toUpper else t
      | none =>
        refuse ("%" ++ String.singleton letter ++ " format: an integer is required, not " ++ (← kindNameOf value))
    else
      match number? value with
      | some n =>
        let real := Records.toReal n.toFloat
        let real := match real with
          | .nan _ => Real.nan false
          | real => real
        return layout.real letter .double real
      | none => refuse ("must be real number, not " ++ (← kindNameOf value))

/-- Fills in a template. -/
def fill (core : Core) : (fuel place : Nat) → Text → Filler Text
  | 0, _, _ => return []
  | _ + 1, _, [] => return []
  | fuel + 1, place, '%' :: '%' :: rest => do return '%' :: (← fill core fuel (place + 2) rest)
  | fuel + 1, place, '%' :: rest => do
    let (key, t) : Option Text × Text :=
      match rest with
      | '(' :: more =>
        let name := more.takeWhile (· ≠ ')')
        (some name, more.drop (name.length + 1))
      | rest => (none, rest)
    let (layout, t) := Printf.flags t ⟨false, false, false, false, false, 0, none⟩
    let (width, t) ← size t
    let layout := { layout with
      width := (width.getD 0).natAbs, left := layout.left || (width.getD 0) < 0 }
    let (layout, t) ←
      match t with
      | '.' :: more => do
        let (precision, t) ← size more
        pure ({ layout with precision := some ((precision.getD 0).toNat) }, t)
      | t => pure (layout, t)
    match t.dropWhile fun c => "hlL".toList.contains c with
    | [] => fail "ValueError" "incomplete format".toList
    | letter :: t =>
      if !"sracdiuxXoeEfFgG".toList.contains letter then
        fail "ValueError" ("unsupported format character '".toList ++ letter :: "' (0x".toList ++
          Nat.toDigits 16 letter.toNat ++ ") at index ".toList ++
          (toString (place + rest.length - t.length)).toList)
      else
        let value ←
          match key with
          | some name => do
            let s ← get
            match s.table with
            | some table =>
              set { s with used := true }
              core.subscript table (.text name)
            | none => refuse "format requires a mapping"
          | none => next
        let shown ← shown core layout letter value
        return shown ++ (← fill core fuel (place + 1 + rest.length - t.length) t)
  | fuel + 1, place, c :: rest => do return c :: (← fill core fuel (place + 1) rest)

end Template

/-- The text that a template makes of a value, or of several. -/
def filledIn (core : Core) (template : Text) (value : Value) : Work Text := do
  let isTable ← match value with
    | .object address =>
      match ← objectAt address with
      | .table _ _ _ => pure true
      | _ => pure false
    | _ => pure false
  let values := match value with
    | .tuple items => items
    | value => [value]
  let start : Template.Filling := ⟨values, if isTable then some value else none, false⟩
  let (t, s) ← (Template.fill core (template.length + 1) 0 template).run start
  if !s.values.isEmpty && !isTable then refuse "not all arguments converted during string formatting"
  else return t

/-- The parts of a name in a field: the name itself, and the members and indexes behind it. -/
def fieldValue (core : Core) (member : Value → String → Work Value) : (fuel : Nat) → Value → Text → Work Value
  | 0, value, _ => return value
  | fuel + 1, value, t => do
    match t with
    | '.' :: rest =>
      let name := rest.takeWhile fun c => c ≠ '.' && c ≠ '['
      fieldValue core member fuel (← member value (String.ofList name)) (rest.drop name.length)
    | '[' :: rest =>
      let name := rest.takeWhile (· ≠ ']')
      let index : Value := match Numeric.whole? 10 name with
        | some n => .integer n
        | none => .text name
      fieldValue core member fuel (← core.subscript value index) (rest.drop (name.length + 1))
    | _ => return value

/-- Fills in the fields of a text between braces. -/
def withFields (core : Core) (member : Value → String → Work Value) (values : List Value)
    (named : List (String × Value)) : (fuel count : Nat) → Text → Work Text
  | 0, _, _ => return []
  | _ + 1, _, [] => return []
  | fuel + 1, count, c :: rest => do
    let doubled := rest.head? = some c
    if (c = '\x7b' || c = '\x7d') && doubled then
      return c :: (← withFields core member values named fuel count (rest.drop 1))
    else if c = '\x7d' then fail "ValueError" "Single '\x7d' encountered in format string".toList
    else if c = '\x7b' then
      let rec upTo : (depth : Nat) → Text → Text
        | _, [] => []
        | depth, d :: more =>
          if d = '\x7b' then d :: upTo (depth + 1) more
          else if d = '\x7d' then (if depth = 0 then [] else d :: upTo (depth - 1) more)
          else d :: upTo depth more
      let field := upTo 0 rest
      if rest.length ≤ field.length then
        fail "ValueError"
          (if field.isEmpty then "Single '\x7b' encountered in format string"
            else "expected '\x7d' before end of string").toList
      else
        let name := field.takeWhile fun c => c ≠ '!' && c ≠ ':'
        let after := field.drop name.length
        let (conversion, after) : Option Char × Text := match after with
          | '!' :: letter :: more => (some letter, more)
          | after => (none, after)
        let specification := after.drop 1
        let base := name.takeWhile fun c => c ≠ '.' && c ≠ '['
        let (value, count) ←
          if base.isEmpty then do
            match values[count]? with
            | some v => pure (v, count + 1)
            | none =>
              fail "IndexError" ("Replacement index ".toList ++ (toString count).toList ++
                " out of range for positional args tuple".toList)
          else
            match Numeric.whole? 10 base with
            | some n =>
              match values[n.toNat]? with
              | some v => pure (v, count)
              | none =>
                fail "IndexError" ("Replacement index ".toList ++ base ++
                  " out of range for positional args tuple".toList)
            | none =>
              match named.lookup (String.ofList base) with
              | some v => pure (v, count)
              | none => raise (← newFailure "KeyError" [.text base])
        let value ← fieldValue core member (name.length + 1) value (name.drop base.length)
        let value ← core.converted conversion value
        let specification ← withFields core member values named fuel count specification
        let shown ← core.formatted value specification
        return shown ++ (← withFields core member values named fuel count (rest.drop (field.length + 1)))
    else return c :: (← withFields core member values named fuel count rest)

end Core

end KDispatch.Shell.Indented
