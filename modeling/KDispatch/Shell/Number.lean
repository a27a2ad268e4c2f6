import KDispatch.Decimal
import KDispatch.Text.Utf8

/-!
Numbers in texts: the longest number at the start of a text, arithmetic on 64 bits, and numbers with fractions,
whose exact values are rounded to binary formats.
-/

namespace KDispatch.Shell.Number

def isSpace (c : Char) : Bool := c = ' ' || (9 ≤ c.toNat && c.toNat ≤ 13)

/-- The value of a digit, in bases up to 36. -/
def digitValue? (base : Nat) (c : Char) : Option Nat :=
  let value :=
    if c.isDigit then c.toNat - '0'.toNat
    else if c.isLower then c.toNat - 'a'.toNat + 10
    else if c.isUpper then c.toNat - 'A'.toNat + 10
    else base
  if value < base then some value else none

/-- The number that the digits at the start of a text make, how many there are, and the text after
them. -/
def digits (base : Nat) : Text → (value count : Nat) → Nat × Nat × Text
  | [], value, count => (value, count, [])
  | c :: rest, value, count =>
    match digitValue? base c with
    | some d => digits base rest (value * base + d) (count + 1)
    | none => (value, count, c :: rest)

/-- A number and the text after it; without `base` the digits tell the base themselves. -/
def unsigned? (base : Option Nat) (text : Text) : Option (Nat × Text) :=
  let found (base : Nat) (text : Text) : Option (Nat × Text) :=
    match digits base text 0 0 with
    | (_, 0, _) => none
    | (value, _, rest) => some (value, rest)
  match base, text with
  | some base, text => found base text
  | none, '0' :: x :: rest =>
    if x = 'x' ∨ x = 'X' then
      match found 16 rest with
      | some result => some result
      | none => some (0, x :: rest)
    else found 8 ('0' :: x :: rest)
  | none, text => found 10 text

/-- A number that may have blanks and a sign before it, and the text after it. -/
def signed? (base : Option Nat) (text : Text) : Option (Int × Text) :=
  match text.dropWhile isSpace with
  | '-' :: rest => (unsigned? base rest).map fun (n, rest) => (-(n : Int), rest)
  | '+' :: rest => (unsigned? base rest).map fun (n, rest) => ((n : Int), rest)
  | rest => (unsigned? base rest).map fun (n, rest) => ((n : Int), rest)

def maximum : Int := 9223372036854775807

def minimum : Int := -9223372036854775808

/-- Whether a number has a place in 64 bits. -/
def fits (n : Int) : Bool := minimum ≤ n && n ≤ maximum

/-- The nearest number that has a place in 64 bits. -/
def clamp (n : Int) : Int := max minimum (min n maximum)

/-- The number that is left when all but the last 64 bits are dropped. -/
def wrap (n : Int) : Int := n.bmod (twoTo 64)

/-- The bits of a number as a natural number. -/
def bits (n : Int) : Nat := (n.emod (twoTo 64)).toNat

/-- The integer that a text spells and nothing else, blanks around it apart. -/
def integer? (base : Option Nat) (text : Text) : Option Int :=
  match signed? base text with
  | some (n, rest) => if rest.all isSpace ∧ fits n then some n else none
  | none => none

/-- The decimal digits of a number. -/
def decimal (n : Int) : Text := (toString n).toList

end KDispatch.Shell.Number

/-!
Numbers with fractions: exact values as texts spell them, and their rounding to binary formats, of two
equally near numbers to the one with the even last bit.
-/

namespace KDispatch.Shell

/-- A number that may have a fraction, infinity, or something that is no number. -/
inductive Real where
  | finite (negative : Bool) (num den : Nat)
  | infinite (negative : Bool)
  | nan (negative : Bool)

/-- A binary format for numbers. -/
structure BinaryFormat where
  /-- How many bits a number has. -/
  precision : Nat
  /-- The exponent of the last bit of the smallest numbers. -/
  least : Int
  /-- All numbers are below this power of two. -/
  limit : Nat
  /-- How many bits stand before the point when a number is written in base sixteen. -/
  leading : Nat

namespace BinaryFormat

def double : BinaryFormat := ⟨53, -1074, 1024, 1⟩

/-- The format with sixty-four bits. -/
def extended : BinaryFormat := ⟨64, -16445, 16384, 4⟩

/-- The exponent of the last bit of a number near `num / den`. -/
def unitExponent (format : BinaryFormat) (num den : Nat) : Int :=
  let e : Int := (num.log2 : Int) - den.log2 - format.precision
  let fits := num * twoTo (-e).toNat < twoTo format.precision * (den * twoTo e.toNat)
  max (if fits then e else e + 1) format.least

/-- The number nearest to a fraction, and whether the format has one that is near enough. -/
def round (format : BinaryFormat) (negative : Bool) (num den : Nat) : Real × Bool :=
  if num = 0 then (.finite negative 0 1, true)
  else
    let e := format.unitExponent num den
    let n := Double.scaledRoundDiv num den e
    let (a, b) := (n * twoTo e.toNat, twoTo (-e).toNat)
    let smallest := -(format.least + format.precision - 1)
    let isTiny := num * twoTo smallest.toNat < den
    if twoTo format.limit * b ≤ a then (.infinite negative, false)
    else (.finite negative a b, !isTiny || a * den = num * b)

end BinaryFormat

namespace Real

/-- A power of ten that is beyond all formats. -/
def farExponent : Int := 5200

/-- The fraction `value * base ^ shift`, where what is beyond all formats stays so. -/
def scaled (base value : Nat) (shift : Int) : Nat × Nat :=
  let bound : Int := if base = 2 then 4 * farExponent else farExponent
  let size : Int := if base = 2 then value.log2 else (value.log2 : Int) / 4
  if value = 0 then (0, 1)
  else if bound < shift + size then (Nat.pow base bound.toNat, 1)
  else if shift + 2 * size < -bound - size then (1, Nat.pow base bound.toNat)
  else (value * Nat.pow base shift.toNat, Nat.pow base (-shift).toNat)

/-- The exponent after a letter, and the text after it; without digits there is none. -/
def exponent (letter : Char) (text : Text) : Int × Text :=
  match text with
  | e :: after =>
    if e.toLower = letter && !after.head?.any Number.isSpace then
      match Number.signed? (some 10) after with
      | some (n, last) => (n, last)
      | none => (0, text)
    else (0, text)
  | [] => (0, text)

/-- The value of digits with a point among them: how many there are in all, how many are behind the
point, and the text after them. -/
def pointedDigits (base : Nat) (text : Text) : Nat × Nat × Nat × Text :=
  let (whole, count, rest) := Number.digits base text 0 0
  match rest with
  | '.' :: after =>
    let (value, places, after) := Number.digits base after whole 0
    if count + places = 0 then (0, 0, 0, text) else (value, count + places, places, after)
  | _ => (whole, count, 0, rest)

/-- The fraction that digits at the start of a text spell, and the text after it. -/
def fraction? (text : Text) : Option ((Nat × Nat) × Text) :=
  let decimal : Option ((Nat × Nat) × Text) :=
    let (value, count, places, rest) := pointedDigits 10 text
    let (e, rest) := exponent 'e' rest
    if count = 0 then none else some (scaled 10 value (e - places), rest)
  match text with
  | '0' :: x :: digits =>
    if x.toLower = 'x' then
      let (value, count, places, rest) := pointedDigits 16 digits
      let (e, rest) := exponent 'p' rest
      if count = 0 then some ((0, 1), x :: digits) else some (scaled 2 value (e - 4 * places), rest)
    else decimal
  | _ => decimal

/-- The text behind a word at its start, in letters of any kind. -/
def afterWord? (word : String) (text : Text) : Option Text :=
  if (text.take word.length).map Char.toLower = word.toList then some (text.drop word.length)
  else none

/-- The text behind the brackets that may follow a word for what is no number. -/
def afterTag (text : Text) : Text :=
  match text with
  | '(' :: inner =>
    match inner.dropWhile fun c => c.isAlphanum || c = '_' with
    | ')' :: rest => rest
    | _ => text
  | _ => text

/-- The number at the start of a text, and the text after it. -/
def read? (text : Text) : Option (Real × Text) :=
  let text := text.dropWhile Number.isSpace
  let (negative, text) :=
    match text with
    | '-' :: rest => (true, rest)
    | '+' :: rest => (false, rest)
    | _ => (false, text)
  match afterWord? "infinity" text, afterWord? "inf" text, afterWord? "nan" text with
  | some rest, _, _ | none, some rest, _ => some (.infinite negative, rest)
  | none, none, some rest => some (.nan negative, afterTag rest)
  | none, none, none =>
    (fraction? text).map fun ((num, den), rest) => (.finite negative num den, rest)

/-- The number of a format that is nearest, and whether the format has one that is near enough. -/
def rounded (format : BinaryFormat) : Real → Real × Bool
  | .finite negative num den => format.round negative num den
  | value => (value, true)

end Real

end KDispatch.Shell
