import KDispatch.Json.Value
import KDispatch.Decimal
import KDispatch.Text.Utf8

/-!
Number literals. `Numeral.read` takes the longest literal at the start of a text, and
`Numeral.number?` is the number it stands for.

The digits of a literal are collected as long as they make a number below 2^64. Further digits of
the integer part only raise the exponent, further digits of the fraction do not count, and the
result is scaled by a power of ten in double precision.
-/

namespace KDispatch

namespace Json

/-- Why a text is refused: it ends too early, it breaks the grammar, or it is well formed and does
not hold what is asked for. -/
inductive ReadError where
  | ended
  | malformed
  | mismatch
  deriving DecidableEq

end Json

open Json (ReadError)

structure Numeral where
  negative : Bool
  whole : List Nat
  /-- The digits after the point; no digits if there is no point. -/
  fraction : List Nat
  exponent : Option Int
  deriving DecidableEq

namespace Numeral

def digitValue (c : Char) : Nat := c.toNat - '0'.toNat

/-- The digits at the start of a text, at least one. -/
def readDigits : Text → Except ReadError (List Nat × Text)
  | [] => .error .ended
  | c :: rest =>
    if c.isDigit then
      .ok (((c :: rest).takeWhile Char.isDigit).map digitValue, (c :: rest).dropWhile Char.isDigit)
    else .error .malformed

/-- The integer part: a zero is not followed by another digit. -/
def readWhole (text : Text) : Except ReadError (List Nat × Text) :=
  match readDigits text with
  | .ok (0 :: _ :: _, _) => .error .malformed
  | result => result

def readFraction : Text → Except ReadError (List Nat × Text)
  | '.' :: rest => readDigits rest
  | text => .ok ([], text)

/-- The number that decimal digits denote. -/
def ofDigits (digits : List Nat) : Nat := digits.foldl (fun n d => n * 10 + d) 0

def readExponentDigits (negative : Bool) (text : Text) : Except ReadError (Option Int × Text) :=
  (readDigits text).map fun (digits, rest) =>
    (some (if negative then -(ofDigits digits : Int) else ofDigits digits), rest)

def readSignedExponent : Text → Except ReadError (Option Int × Text)
  | '+' :: rest => readExponentDigits false rest
  | '-' :: rest => readExponentDigits true rest
  | text => readExponentDigits false text

def readExponent : Text → Except ReadError (Option Int × Text)
  | 'e' :: rest => readSignedExponent rest
  | 'E' :: rest => readSignedExponent rest
  | text => .ok (none, text)

def readUnsigned (negative : Bool) (text : Text) : Except ReadError (Numeral × Text) := do
  let (whole, rest) ← readWhole text
  let (fraction, rest) ← readFraction rest
  let (exponent, rest) ← readExponent rest
  return (⟨negative, whole, fraction, exponent⟩, rest)

/-- The literal at the start of a text. -/
def read : Text → Except ReadError (Numeral × Text)
  | '-' :: rest => readUnsigned true rest
  | text => readUnsigned false text

/-- Appends digits to `n` as long as the number stays below 2^64; the second part is the rest of the
digits. -/
def collect (n : Nat) : List Nat → Nat × List Nat
  | [] => (n, [])
  | d :: ds => if n * 10 + d < twoTo 64 then collect (n * 10 + d) ds else (n, d :: ds)

/-- Divides by `10 ^ 308` as often as given, or until nothing is left. -/
def divideRepeatedly (x : Double) : Nat → Option Double
  | 0 => some x
  | times + 1 =>
    if x.isZero then some x
    else (Double.powerOfTen? 308).bind fun p => (x.div? p).bind (divideRepeatedly · times)

/-- The magnitude `x / 10 ^ k`, divided in steps by powers of at most `10 ^ 308`. -/
def scaleDown (x : Double) (k : Nat) : Option Double :=
  let times := (k - 1) / 308
  (divideRepeatedly x times).bind fun y => (Double.powerOfTen? (k - 308 * times)).bind y.div?

/-- The magnitude `x * 10 ^ e`, or `none` if it is too large for a double. -/
def scale (x : Double) : Int → Option Double
  | .ofNat k =>
    if k ≤ 308 then (Double.powerOfTen? k).bind x.mul?
    else if x.isZero then some x
    else none
  | .negSucc k => scaleDown x (k + 1)

def signed (negative : Bool) (x : Double) : Number :=
  .double (if negative then x.neg else x)

/-- The number of a literal without point and exponent, whose digits make `n`. -/
def integer? (negative : Bool) (n : Nat) : Option Number :=
  if !negative then some (.integer n)
  else if n = 0 ∨ twoTo 63 < n then (Double.ofRatio? n 1).map (signed true)
  else some (.integer (-n))

/-- The number that the literal stands for, or `none` if it is too large for a double. -/
def number? (n : Numeral) : Option Number :=
  let (significand, dropped) := collect 0 n.whole
  if dropped.isEmpty && n.fraction.isEmpty && n.exponent.isNone then integer? n.negative significand
  else
    let (significand, ignored) := collect significand n.fraction
    let exponent : Int :=
      dropped.length - (n.fraction.length - ignored.length : Nat) + n.exponent.getD 0
    ((Double.ofRatio? significand 1).bind (scale · exponent)).map (signed n.negative)

end Numeral

end KDispatch
