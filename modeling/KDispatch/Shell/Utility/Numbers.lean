import KDispatch.Shell.Regex
import KDispatch.Shell.Utility.Basic
import KDispatch.Shell.Utility.System

/-!
Utilities that work on numbers: expressions in words, with texts, comparisons and regular expressions, and
sequences of numbers.
-/

namespace KDispatch.Shell.Utility

namespace Expr

inductive Failure where
  | syntaxError (message : Text)
  | notNumber
  | divisionByZero
  | regex (message : String)

abbrev Parse := List Text → Except Failure (Text × List Text)

def number (text : Text) : Except Failure Int :=
  let digits := match text with
    | '-' :: rest => rest
    | rest => rest
  if digits.isEmpty || !digits.all Char.isDigit then .error .notNumber
  else
    match Number.signed? (some 10) text with
    | some (n, _) => .ok n
    | none => .error .notNumber

def isNumber (text : Text) : Bool := (number text).isOk

/-- Whether a value counts as false. -/
def isNull (text : Text) : Bool :=
  text.isEmpty || (isNumber text && (text.filter (· ≠ '-')).all (· = '0'))

def truth (b : Bool) : Text := if b then ['1'] else ['0']

def compareValues (operator : String) (a b : Text) : Bool :=
  let order : Ordering :=
    match number a, number b with
    | .ok m, .ok n => compare m n
    | _, _ => if Ordered.precedes a b then .lt else if Ordered.precedes b a then .gt else .eq
  match operator with
  | "<" => order = .lt
  | "<=" => order ≠ .gt
  | "=" | "==" => order = .eq
  | "!=" => order ≠ .eq
  | ">=" => order ≠ .lt
  | _ => order = .gt

/-- What a text matches of a pattern: its first group, or the length. -/
def matchText (text pattern : Text) : Except Failure Text :=
  match Regex.parse ⟨false, false⟩ pattern with
  | .error message => .error (.regex message)
  | .ok ⟨r, groups, _⟩ =>
    match r.matchStart text with
    | some m =>
      if groups = 0 then .ok (decimal m.text.length) else .ok ((m.groups.lookup 1).getD [])
    | none => .ok (if groups = 0 then ['0'] else [])

/-- The place of the first of some characters in a text. -/
def indexOf (text set : Text) : Text :=
  match text.findIdx? (set.contains ·) with
  | some n => decimal (n + 1)
  | none => ['0']

def missing (after : Option Text) : Failure :=
  .syntaxError (match after with
    | some word => "missing argument after ".toList ++ cited word
    | none => [])

mutual

/-- A value, or something in brackets or behind a word with a meaning. -/
def primary : (fuel : Nat) → (before : Option Text) → Parse
  | 0, _, _ => .error (.syntaxError [])
  | _ + 1, before, [] => .error (missing before)
  | fuel + 1, _, ['('] :: rest => do
    let (value, rest) ← level fuel 0 (some ['(']) rest
    match rest with
    | [')'] :: rest => return (value, rest)
    | [] => .error (.syntaxError ("expecting ')' after ".toList ++ cited value))
    | word :: _ => .error (.syntaxError ("expecting ')' instead of ".toList ++ cited word))
  | _ + 1, _, [')'] :: _ => .error (.syntaxError "unexpected ')'".toList)
  | fuel + 1, _, word :: rest =>
    match String.ofList word, rest with
    | "+", next :: rest => .ok (next, rest)
    | "length", _ :: _ => do
      let (value, rest) ← primary fuel (some word) rest
      return (decimal value.length, rest)
    | "match", _ :: _ => do
      let (text, rest) ← primary fuel (some word) rest
      let (pattern, rest) ← primary fuel (some text) rest
      return (← matchText text pattern, rest)
    | "index", _ :: _ => do
      let (text, rest) ← primary fuel (some word) rest
      let (set, rest) ← primary fuel (some text) rest
      return (indexOf text set, rest)
    | "substr", _ :: _ => do
      let (text, rest) ← primary fuel (some word) rest
      let (start, rest) ← primary fuel (some text) rest
      let (length, rest) ← primary fuel (some start) rest
      match number start, number length with
      | .ok s, .ok n =>
        return (if s ≤ 0 || n ≤ 0 then [] else (text.drop (s.toNat - 1)).take n.toNat, rest)
      | _, _ => return ([], rest)
    | _, _ => .ok (word, rest)

/-- Operators of a level and of those that bind more tightly: alternatives, conjunctions, comparisons,
sums, products and matches. -/
def level : (fuel : Nat) → (n : Nat) → (before : Option Text) → Parse
  | 0, _, _, _ => .error (.syntaxError [])
  | fuel + 1, n, before, words => do
    let (value, rest) ← if n = 6 then primary fuel before words else level fuel (n + 1) before words
    if n = 6 then return (value, rest) else more fuel n value rest

/-- Goes on with operators of a level. -/
def more : (fuel : Nat) → (n : Nat) → Text → Parse
  | 0, _, _, _ => .error (.syntaxError [])
  | fuel + 1, n, a, words =>
    match words with
    | [] => .ok (a, [])
    | operator :: rest =>
      if (operators n).contains (String.ofList operator) then do
        let (b, rest) ← level fuel (n + 1) (some operator) rest
        let value ← apply (String.ofList operator) a b
        more fuel n value rest
      else .ok (a, words)

/-- The operators of a level. -/
def operators : Nat → List String
  | 0 => ["|"]
  | 1 => ["&"]
  | 2 => ["<", "<=", "=", "==", "!=", ">=", ">"]
  | 3 => ["+", "-"]
  | 4 => ["*", "/", "%"]
  | 5 => [":"]
  | _ => []

def apply (operator : String) (a b : Text) : Except Failure Text := do
  let arithmetic (f : Int → Int → Int) : Except Failure Text := do
    return Number.decimal (f (← number a) (← number b))
  match operator with
  | "|" => return if isNull a then (if isNull b then ['0'] else b) else a
  | "&" => return if isNull a || isNull b then ['0'] else a
  | "+" => arithmetic (· + ·)
  | "-" => arithmetic (· - ·)
  | "*" => arithmetic (· * ·)
  | "/" => if (← number b) = 0 then .error .divisionByZero else arithmetic Int.tdiv
  | "%" => if (← number b) = 0 then .error .divisionByZero else arithmetic Int.tmod
  | ":" => matchText a b
  | _ => return truth (compareValues operator a b)

end

end Expr

def expr : Utility := fun name words => do
  let words := if words.head? = some ['-', '-'] then words.drop 1 else words
  if words.isEmpty then usage name "missing operand".toList 2
  let result : Except Expr.Failure Text := do
    let (value, rest) ← Expr.level (20 * words.length + 20) 0 none words
    match rest with
    | [] => return value
    | word :: _ => .error (.syntaxError ("unexpected argument ".toList ++ cited word))
  match result with
  | .ok value =>
    emit name (value ++ ['\n'])
    return if Expr.isNull value then 1 else 0
  | .error failure =>
    complain name (match failure with
      | .syntaxError [] => "syntax error".toList
      | .syntaxError message => "syntax error: ".toList ++ message
      | .notNumber => "non-integer argument".toList
      | .divisionByZero => "division by zero".toList
      | .regex message => message.toList)
    return 2

/-! Sequences of numbers. -/

/-- A decimal number: its digits as an integer, and how many of them are behind the point. -/
def decimal? (text : Text) : Option (Int × Nat) :=
  let mantissa := text.takeWhile fun c => c ≠ 'e' && c ≠ 'E'
  let exponent : Option Int := match text.drop mantissa.length with
    | [] => some 0
    | _ :: rest => Number.integer? (some 10) rest
  let (negative, rest) := match mantissa with
    | '-' :: rest => (true, rest)
    | '+' :: rest => (false, rest)
    | rest => (false, rest)
  let (whole, count, rest) := Number.digits 10 rest 0 0
  let (value, places, count, rest) := match rest with
    | '.' :: rest =>
      let (value, places, rest) := Number.digits 10 rest whole 0
      (value, places, count + places, rest)
    | rest => (whole, 0, count, rest)
  match exponent, rest with
  | some e, [] =>
    if count = 0 || 400 < e.natAbs then none
    else
      let value : Int := if negative then -(value : Int) else value
      let shift := e - (places : Int)
      some (value * tenTo shift.toNat, (-shift).toNat)
  | _, _ => none

/-- A number with so many digits behind its point. -/
def fixedPoint (n : Int) (places : Nat) : Text :=
  let digits := decimal n.natAbs
  let digits := List.replicate (places + 1 - digits.length) '0' ++ digits
  let whole := digits.take (digits.length - places)
  (if n < 0 then ['-'] else []) ++ whole ++
    (if places = 0 then [] else '.' :: digits.drop (digits.length - places))

/-- What is wrong with a format for numbers, if anything is. -/
def formatFault? (format : Text) : Option Text :=
  let fault (rest : String) : Option Text := some ("format ".toList ++ cited format ++ rest.toList)
  let rec directives : (fuel : Nat) → Text → List Text
    | 0, _ => []
    | _ + 1, [] => []
    | fuel + 1, '%' :: '%' :: rest => directives fuel rest
    | fuel + 1, '%' :: rest => rest :: directives fuel rest
    | fuel + 1, _ :: rest => directives fuel rest
  match directives (format.length + 1) format with
  | [] => fault " has no % directive"
  | first :: more =>
    let letters := first.dropWhile fun c => c.isDigit || "-+#0 '.".toList.contains c
    match letters with
    | [] => fault " ends in %"
    | c :: _ =>
      if !"aefgAEFG".toList.contains c then
        fault (" has unknown %" ++ String.ofList [c] ++ " directive")
      else if !more.isEmpty then fault " has too many % directives"
      else none

def seq : Utility := fun name words => do
  let known : List Flag :=
    [⟨'s', "separator", true⟩, ⟨'w', "equal-width", false⟩, ⟨'f', "format", true⟩]
  let isNumber (word : Text) : Bool := (decimal? word).isSome
  let options := words.takeWhile (!isNumber ·)
  let found ← parse name known 1 options
  let operands := found.operands ++ words.drop options.length
  let value (text : Text) : Task (Int × Nat) := do
    match decimal? text with
    | some n => return n
    | none => usage name ("invalid floating point argument: ".toList ++ cited text) 1
  let (first, step, last) ← match operands with
    | [last] => do pure ((1, 0), (1, 0), ← value last)
    | [first, last] => do pure (← value first, (1, 0), ← value last)
    | [first, step, last] => do pure (← value first, ← value step, ← value last)
    | [] => usage name "missing operand".toList 1
    | _ :: _ :: _ :: extra :: _ => usage name ("extra operand ".toList ++ cited extra) 1
  if step.1 = 0 then
    usage name ("invalid Zero increment value: ".toList ++ cited (operands.getD 1 [])) 1
  let places := max first.2 step.2
  let scale := max places last.2
  let at_ (n : Int × Nat) : Int := n.1 * tenTo (scale - n.2)
  let count : Nat :=
    let distance := if step.1 < 0 then at_ first - at_ last else at_ last - at_ first
    if distance < 0 then 0 else (distance / (at_ step).natAbs).toNat + 1
  let texts := (List.range count).map fun k : Nat =>
    let n := at_ first + at_ step * (k : Int)
    fixedPoint (n / tenTo (scale - places)) places
  let width := (texts.map List.length).foldl max 0
  match (found.last? 'f').bind formatFault? with
  | some fault =>
    complain name fault
    Task.exit 1
  | none => pure ()
  let shown :=
    match found.last? 'f' with
    | some format => texts.map fun t => (Printf.print printfWording format [t]).output
    | none =>
      if found.has 'w' then texts.map fun t =>
        match t with
        | '-' :: digits => '-' :: List.replicate (width - t.length) '0' ++ digits
        | digits => List.replicate (width - t.length) '0' ++ digits
      else texts
  let separator := (found.last? 's').getD ['\n']
  if !shown.isEmpty then emit name (separator.intercalate shown ++ ['\n'])
  return 0

end KDispatch.Shell.Utility
