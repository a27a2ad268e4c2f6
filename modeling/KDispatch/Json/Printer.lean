import KDispatch.Decimal
import KDispatch.Json.Value
import KDispatch.Text.Lines

/-!
The compact text of a JSON value: no blanks, members in the order in which they are held. In strings
only the quotation mark, the backslash and the characters below U+0020 are escaped.
-/

namespace KDispatch

namespace Decimal

/-- A decimal whose leading digit stands at 10^-5 to 10^15 is written with a point, with `.0` if it
is an integer; any other one is written with an exponent and its sign. -/
def isPositional (leading : Int) : Bool := -5 ≤ leading && leading ≤ 15

/-- The digits without trailing zeros, at least one. -/
def significantDigits (x : Decimal) : Text :=
  let digits := (Nat.toDigits 10 x.digits).reverse.dropWhile (· == '0')
  if digits.isEmpty then ['0'] else digits.reverse

/-- Digits with the point after the digit of exponent zero; `leading` is that of the first digit. -/
def positional (digits : Text) (leading : Int) : Text :=
  if leading < 0 then
    '0' :: '.' :: (List.replicate (-leading - 1).toNat '0' ++ digits)
  else
    let whole := leading.toNat + 1
    let fraction := digits.drop whole
    digits.take whole ++ List.replicate (whole - digits.length) '0' ++
      '.' :: (if fraction.isEmpty then ['0'] else fraction)

/-- One digit, the point and the other digits if there are any, and the exponent. -/
def scientific (digits : Text) (leading : Int) : Text :=
  let fraction := digits.drop 1
  digits.take 1 ++ (if fraction.isEmpty then [] else '.' :: fraction) ++
    'e' :: (if leading < 0 then '-' else '+') :: Nat.toDigits 10 leading.natAbs

def text (x : Decimal) : Text :=
  let leading : Int := ((Nat.toDigits 10 x.digits).length : Int) - 1 + x.exponent
  let digits := x.significantDigits
  if isPositional leading then positional digits leading else scientific digits leading

end Decimal

namespace Number

def integerText (n : Int) : Text :=
  if n < 0 then '-' :: Nat.toDigits 10 n.natAbs else Nat.toDigits 10 n.natAbs

def text : Number → Text
  | .integer n => integerText n
  | .double d => (if d.isNegative then ['-'] else []) ++ (Decimal.shortest d).text

end Number

namespace Json

def hexDigit (n : Nat) : Char := (Nat.digitChar n)

/-- A character inside a string literal. -/
def escapeChar (c : Char) : Text :=
  if c = '"' then ['\\', '"']
  else if c = '\\' then ['\\', '\\']
  else if c = '\x08' then ['\\', 'b']
  else if c = '\t' then ['\\', 't']
  else if c = '\n' then ['\\', 'n']
  else if c = '\x0c' then ['\\', 'f']
  else if c = '\r' then ['\\', 'r']
  else if c.toNat < 0x20 then ['\\', 'u', '0', '0', hexDigit (c.toNat / 16), hexDigit (c.toNat % 16)]
  else [c]

def quote (s : String) : Text := '"' :: (s.toList.flatMap escapeChar ++ ['"'])

mutual

def text : Json → Text
  | .null => "null".toList
  | .bool true => "true".toList
  | .bool false => "false".toList
  | .number n => n.text
  | .string s => quote s
  | .array items => '[' :: (Text.join [','] (itemTexts items) ++ [']'])
  | .object members => '{' :: (Text.join [','] (memberTexts members) ++ ['}'])

def itemTexts : List Json → List Text
  | [] => []
  | item :: items => text item :: itemTexts items

def memberTexts : List (String × Json) → List Text
  | [] => []
  | (key, value) :: members => (quote key ++ ':' :: text value) :: memberTexts members

end

@[simp] theorem text_number (n : Number) : (number n).text = n.text := rfl

@[simp] theorem text_string (s : String) : (string s).text = quote s := rfl

@[simp] theorem text_array (items : List Json) :
    (array items).text = '[' :: (Text.join [','] (itemTexts items) ++ [']']) := rfl

@[simp] theorem text_object (members : List (String × Json)) :
    (object members).text = '{' :: (Text.join [','] (memberTexts members) ++ ['}']) := rfl

/-- The compact text of a value as a string. -/
def compact (value : Json) : String := String.ofList value.text

end Json

end KDispatch
