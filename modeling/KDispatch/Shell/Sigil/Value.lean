import KDispatch.Shell.Utility.Records.Value

/-!
Values: nothing, whole numbers and others, texts, and references to places. Numbers and texts stand in for
each other: a text counts as the number that it begins with.
-/

namespace KDispatch.Shell.Sigil

/-- A number: whole as long as it fits into a word, and a double otherwise. -/
inductive Quantity where
  | whole (n : Int)
  | real (x : Float)

inductive Value where
  | missing
  | integer (n : Int)
  | number (x : Float)
  | text (content : Text)
  /-- A text that counts as a number of its own. -/
  | dual (n : Int) (content : Text)
  /-- Leads to the place with a number. -/
  | reference (address : Nat)
  /-- A pattern to look for, with the flags that it is read by. -/
  | pattern (content : Text)
  deriving Inhabited

namespace Quantity

/-- The numbers that a word can stand for, with or without a sign. -/
def fits (n : Int) : Bool := Number.minimum ≤ n && n ≤ Records.largestWhole

def ofInt (n : Int) : Quantity := if fits n then whole n else real (Float.ofInt n)

def toFloat : Quantity → Float
  | whole n => Float.ofInt n
  | real x => x

/-- The integer that a number is without its fraction. -/
def toInt : Quantity → Int
  | whole n => n
  | real x => Records.truncated x

def toValue : Quantity → Value
  | whole n => .integer n
  | real x => .number x

def isZero : Quantity → Bool
  | whole n => n = 0
  | real x => x == 0

/-- The text of a number. -/
def toText : Quantity → Text
  | whole n => Number.decimal n
  | real x =>
    if x.isNaN then "NaN".toList
    else if x.isInf then (if x < 0 then "-Inf" else "Inf").toList
    else
      let layout : Layout := ⟨false, false, false, false, false, 0, some 15⟩
      layout.real 'g' .double (Records.toReal x)

def add : Quantity → Quantity → Quantity
  | whole m, whole n => ofInt (m + n)
  | a, b => real (a.toFloat + b.toFloat)

def subtract : Quantity → Quantity → Quantity
  | whole m, whole n => ofInt (m - n)
  | a, b => real (a.toFloat - b.toFloat)

def multiply : Quantity → Quantity → Quantity
  | whole m, whole n => ofInt (m * n)
  | a, b => real (a.toFloat * b.toFloat)

/-- The quotient of two numbers, of which the second is not zero; it is whole if nothing is left. -/
def divide : Quantity → Quantity → Quantity
  | whole m, whole n => if Int.tmod m n = 0 then ofInt (Int.tdiv m n) else real (Float.ofInt m / Float.ofInt n)
  | a, b => real (a.toFloat / b.toFloat)

/-- The number of bits of a number. -/
def bitCount (n : Nat) : Nat := if n = 0 then 0 else Nat.log2 n + 1

/-- A power; it is whole if both numbers are and if the result has few bits. -/
def power : Quantity → Quantity → Quantity
  | whole m, whole n =>
    if 0 ≤ n && bitCount m.natAbs * n.toNat ≤ 64 then ofInt (Int.pow m n.toNat)
    else real (Float.pow (Float.ofInt m) (Float.ofInt n))
  | a, b => real (Float.pow a.toFloat b.toFloat)

def negate : Quantity → Quantity
  | whole n => ofInt (-n)
  | real x => real (-x)

/-- Which of two numbers comes first; there is no answer for what is no number. -/
def compare? : Quantity → Quantity → Option Ordering
  | whole m, whole n => some (Ord.compare m n)
  | a, b =>
    let (x, y) := (a.toFloat, b.toFloat)
    if x < y then some .lt else if y < x then some .gt else if x == y then some .eq else none

/-- A double as a number, which is whole if it has no fraction and fits. -/
def ofFloat (x : Float) : Quantity :=
  if Records.isWhole x && fits (Records.truncated x) then whole (Records.truncated x) else real x

end Quantity

/-- The number at the start of a text, and what comes after it; `none` if there is none. -/
def quantityIn? (text : Text) : Option (Quantity × Text) :=
  let text := text.dropWhile Number.isSpace
  let sign := (text.take 1).filter fun c => c = '-' || c = '+'
  let unsigned := text.drop sign.length
  let digits := unsigned.takeWhile Char.isDigit
  let behind := unsigned.drop digits.length
  let places := match behind with
    | '.' :: rest => '.' :: rest.takeWhile Char.isDigit
    | _ => []
  let behind := behind.drop places.length
  let exponent := match behind with
    | e :: rest =>
      let mark := (rest.take 1).filter fun c => c = '-' || c = '+'
      let power := (rest.drop mark.length).takeWhile Char.isDigit
      if (e = 'e' || e = 'E') && !power.isEmpty then e :: mark ++ power else []
    | [] => []
  let behind := behind.drop exponent.length
  let isNegative := sign = ['-']
  let lower := unsigned.map Char.toLower
  if "inf".toList.isPrefixOf lower then
    let length := if "infinity".toList.isPrefixOf lower then 8 else 3
    some (.real (if isNegative then -1.0 / 0.0 else 1.0 / 0.0), unsigned.drop length)
  else if "nan".toList.isPrefixOf lower then some (.real (0.0 / 0.0), unsigned.drop 3)
  else if digits.isEmpty && places.length ≤ 1 then none
  else
    let n : Int := (Number.digits 10 digits 0 0).1
    let n := if isNegative then -n else n
    if places.isEmpty && exponent.isEmpty && Quantity.fits n then some (.whole n, behind)
    else
      let x := Records.numberAt (digits ++ places ++ exponent)
      some (.real (if isNegative then -x else x), behind)

/-- The number that a text counts as. -/
def quantityOf (text : Text) : Quantity := ((quantityIn? text).map (·.1)).getD (.whole 0)

/-- Whether a text is a number and nothing else. -/
def isNumeric (text : Text) : Bool :=
  match quantityIn? text with
  | some (_, rest) => rest.all Number.isSpace
  | none => false

namespace Value

def empty : Value := .text []

def ofBool (b : Bool) : Value := if b then .integer 1 else .text []

def ofNat (n : Nat) : Value := .integer n

def isMissing : Value → Bool
  | .missing => true
  | _ => false

/-- The number that is given for the place with a number. -/
def addressNumber (address : Nat) : Int := 93824992231424 + 24 * (address : Int)

def toQuantity : Value → Quantity
  | .missing => .whole 0
  | .integer n | .dual n _ => .whole n
  | .number x => .real x
  | .text content => quantityOf content
  | .reference address => .whole (addressNumber address)
  | .pattern _ => .whole 0

def toInt (v : Value) : Int := v.toQuantity.toInt

def toFloat (v : Value) : Float := v.toQuantity.toFloat

/-- The text of a value that is no reference. -/
def plainText : Value → Text
  | .missing | .reference _ => []
  | .integer n => Number.decimal n
  | .number x => (Quantity.real x).toText
  | .text content | .dual _ content | .pattern content => content

/-- Whether a value counts as true. -/
def isTrue : Value → Bool
  | .missing => false
  | .integer n => n ≠ 0
  | .number x => !(x == 0)
  | .text content | .dual _ content => !(content.isEmpty || content = ['0'])
  | .reference _ | .pattern _ => true

end Value

/-- The text after a text, which is given from its end on, in the order of letters and digits; a carry goes
from place to place, and past the first place it adds one. -/
def nextReversed : Text → Text
  | [] => []
  | ['z'] => ['a', 'a']
  | ['Z'] => ['A', 'A']
  | ['9'] => ['0', '1']
  | 'z' :: rest => 'a' :: nextReversed rest
  | 'Z' :: rest => 'A' :: nextReversed rest
  | '9' :: rest => '0' :: nextReversed rest
  | c :: rest => Char.ofNat (c.toNat + 1) :: rest

def nextText (text : Text) : Text := (nextReversed text.reverse).reverse

/-- Whether a text is stepped as a text: letters, then digits. -/
def isSteppable (text : Text) : Bool :=
  !text.isEmpty && (text.dropWhile Char.isAlpha).all Char.isDigit && text.head?.any Char.isAlpha

end KDispatch.Shell.Sigil
