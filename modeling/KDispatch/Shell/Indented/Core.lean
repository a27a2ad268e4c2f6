import KDispatch.Decimal
import KDispatch.Shell.Indented.State
import KDispatch.Shell.Utility.System

/-!
What the evaluation of a part of a program asks of the evaluation of its own parts; which values count as true
and as the same, how they are ordered, and how they are spelled.
-/

namespace KDispatch.Shell.Indented

structure Core where
  execute : Utility.Execute
  /-- The value of an expression. -/
  eval : Expr → Work Value
  /-- Assigns a value to an expression. -/
  assign : Expr → Value → Work Unit
  /-- Does statements one after the other. -/
  run : List Statement → Work Unit
  /-- Calls a value with arguments in order and with names. -/
  call : Value → List Value → List (String × Value) → Work Value
  /-- How a value is spelled. -/
  spell : Value → Work Text
  /-- Whether two values count as the same. -/
  equal : Value → Value → Work Bool
  /-- Whether a value comes before another one. -/
  precedes : Value → Value → Work Bool
  /-- The values that are walked over. -/
  items : Value → Work (List Value)

namespace Core

open Work

/-- Calls a function of an object's kind, if it has one of that name. -/
def special? (core : Core) (value : Value) (name : String) (arguments : List Value) : Work (Option Value) := do
  match ← Work.special? value name with
  | some function => return some (← core.call function arguments [])
  | none => return none

/-- Fails because of an operand of a wrong kind. -/
def refuse {α : Type} (message : String) : Work α := fail "TypeError" message.toList

/-- Whether a value counts as true. -/
def truth (core : Core) (value : Value) : Work Bool := do
  match value with
  | .nothing => return false
  | .boolean b => return b
  | .integer n => return n ≠ 0
  | .real x => return !(x == 0)
  | .text t | .bytes t => return !t.isEmpty
  | .tuple items => return !items.isEmpty
  | .range first last step => return if 0 < step then first < last else last < first
  | .object address =>
    match ← objectAt address with
    | .list _ items | .set _ items => return !items.isEmpty
    | .table _ _ entries => return !entries.isEmpty
    | .record _ _ =>
      match ← core.special? value "__bool__" [] with
      | some (.boolean b) => return b
      | _ =>
        match ← core.special? value "__len__" [] with
        | some (.integer n) => return n ≠ 0
        | _ => return true
    | _ => return true
  | _ => return true

/-- Values that count as numbers. -/
inductive Number where
  | whole (n : Int)
  | real (x : Float)

def number? : Value → Option Number
  | .boolean b => some (.whole (if b then 1 else 0))
  | .integer n => some (.whole n)
  | .real x => some (.real x)
  | _ => none

def Number.toFloat : Number → Float
  | .whole n => Float.ofInt n
  | .real x => x

/-- Which of two numbers comes first; there is no answer for what is no number. -/
def Number.compare? : Number → Number → Option Ordering
  | .whole m, .whole n => some (Ord.compare m n)
  | a, b =>
    let (x, y) := (a.toFloat, b.toFloat)
    if x < y then some .lt else if y < x then some .gt else if x == y then some .eq else none

/-- Whether all values of two lists count as the same. -/
def allEqual (core : Core) : List Value → List Value → Work Bool
  | [], [] => return true
  | a :: as, b :: bs => do
    if ← core.equal a b then allEqual core as bs else return false
  | _, _ => return false

/-- The value of an entry of a table. -/
def valueUnder (core : Core) (key : Value) : List (Value × Value) → Work (Option Value)
  | [] => return none
  | (k, v) :: rest => do
    if ← core.equal k key then return some v else core.valueUnder key rest

/-- Whether a value is among others. -/
def isAmong (core : Core) (value : Value) : List Value → Work Bool
  | [] => return false
  | v :: rest => do
    if ← core.equal v value then return true else core.isAmong value rest

/-- The values of the fields of an object, if it is known which ones they are. -/
def fieldValues? (members : List (String × Value)) : Option (List Value) :=
  match members.lookup "__fields__", members.lookup "__path__" with
  | _, some path => some [path]
  | some (.tuple fields), _ =>
    some (fields.map fun f =>
      match f with
      | .text t => (members.lookup (String.ofList t)).getD .nothing
      | _ => .nothing)
  | _, _ => none

def equalStep (core : Core) (a b : Value) : Work Bool := do
  match a, b with
  | .nothing, .nothing | .ellipsis, .ellipsis => return true
  | .text s, .text t => return s = t
  | .bytes s, .bytes t => return s = t
  | .tuple as, .tuple bs => core.allEqual as bs
  | .kind a, .kind b | .builtin a, .builtin b | .module a, .module b => return a = b
  | .method v a, .method w b => if a = b then core.equal v w else return false
  | .bound v m, .bound w n => if m = n then core.equal v w else return false
  | .range _ _ _, .range _ _ _ => core.allEqual (← core.items a) (← core.items b)
  | .object m, .object n =>
    if m = n then return true
    else
      match ← objectAt m, ← objectAt n with
      | .list _ as, .list _ bs => core.allEqual as.toList bs.toList
      | .set _ as, .set _ bs =>
        if as.size ≠ bs.size then return false else as.toList.allM fun v => core.isAmong v bs.toList
      | .table _ _ as, .table _ _ bs =>
        if as.size ≠ bs.size then return false
        else
          as.toList.allM fun (key, value) => do
            match ← core.valueUnder key bs.toList with
            | some other => core.equal value other
            | none => return false
      | .record kind members, other =>
        match ← core.special? a "__eq__" [b] with
        | some (.boolean b) => return b
        | _ =>
          match fieldValues? members, other with
          | some as, .record otherKind others =>
            match fieldValues? others with
            | some bs => if isSameKind kind otherKind then core.allEqual as bs else return false
            | none => return false
          | _, _ => return false
      | _, _ => return false
  | a, b =>
    match number? a, number? b with
    | some x, some y => return x.compare? y = some .eq
    | _, _ =>
      match ← core.special? a "__eq__" [b] with
      | some (.boolean b) => return b
      | _ =>
        match ← core.special? b "__eq__" [a] with
        | some (.boolean b) => return b
        | _ => return false

/-- Whether a list of values comes before another one. -/
def listPrecedes (core : Core) : List Value → List Value → Work Bool
  | [], [] => return false
  | [], _ :: _ => return true
  | _ :: _, [] => return false
  | a :: as, b :: bs => do
    if ← core.equal a b then listPrecedes core as bs else core.precedes a b

/-- Whether a text comes before another one. -/
def textPrecedes : Text → Text → Bool
  | [], [] => false
  | [], _ :: _ => true
  | _ :: _, [] => false
  | c :: s, d :: t => if c = d then textPrecedes s t else c.toNat < d.toNat

/-- The operands of an operator cannot be ordered. -/
def refuseOrder {α : Type} (operator : String) (a b : Value) : Work α := do
  refuse ("'" ++ operator ++ "' not supported between instances of '" ++ (← kindNameOf a) ++ "' and '" ++
    (← kindNameOf b) ++ "'")

def precedesStep (core : Core) (a b : Value) : Work Bool := do
  match a, b with
  | .text s, .text t | .bytes s, .bytes t => return textPrecedes s t
  | .tuple as, .tuple bs => core.listPrecedes as bs
  | a, b =>
    match number? a, number? b with
    | some x, some y => return x.compare? y = some .lt
    | _, _ =>
      let viaMethods : Work Bool := do
        match ← core.special? a "__lt__" [b] with
        | some v => core.truth v
        | none =>
          match ← core.special? b "__gt__" [a] with
          | some v => core.truth v
          | none => refuseOrder "<" a b
      match a, b with
      | .object m, .object n =>
        match ← objectAt m, ← objectAt n with
        | .list _ as, .list _ bs => core.listPrecedes as.toList bs.toList
        | .record _ ms, .record _ ns =>
          match ← Work.special? a "__lt__", fieldValues? ms, fieldValues? ns with
          | none, some as, some bs => core.listPrecedes as bs
          | _, _, _ => viaMethods
        | .set _ as, .set _ bs =>
          return as.size < bs.size && (← as.toList.allM fun v => core.isAmong v bs.toList)
        | _, _ => viaMethods
      | _, _ => viaMethods

/-- The result of an operator that compares. -/
def compared (core : Core) (operator : String) (a b : Value) : Work Value := do
  let orderedBy (method opposite : String) (plain : Work Bool) : Work Value := do
    match ← core.special? a method [b] with
    | some v => return v
    | none =>
      match ← core.special? b opposite [a] with
      | some v => return v
      | none =>
        match number? a, number? b with
        | some _, some _ => return .boolean (← plain)
        | _, _ =>
          let comparable : Bool ←
            match a, b with
            | .text _, .text _ | .bytes _, .bytes _ | .tuple _, .tuple _ => pure true
            | .object _, .object _ => do
              let (kind, other) := (← kindNameOf a, ← kindNameOf b)
              pure (kind = other || (kind.endsWith "set" && other.endsWith "set"))
            | _, _ => pure false
          if comparable then return .boolean (← plain) else refuseOrder operator a b
  let notBefore (a b : Value) : Work Bool := do
    match number? a, number? b with
    | some x, some y => return x.compare? y = some .lt || x.compare? y = some .eq
    | _, _ => return (← core.precedes a b) || (← core.equal a b)
  match operator with
  | "==" =>
    match ← core.special? a "__eq__" [b] with
    | some v => return v
    | none => return .boolean (← core.equal a b)
  | "!=" =>
    match ← core.special? a "__ne__" [b] with
    | some v => return v
    | none => return .boolean (!(← core.equal a b))
  | "<" => orderedBy "__lt__" "__gt__" (core.precedes a b)
  | ">" => orderedBy "__gt__" "__lt__" (core.precedes b a)
  | "<=" => orderedBy "__le__" "__ge__" (notBefore a b)
  | _ => orderedBy "__ge__" "__le__" (notBefore b a)

/-- Whether two values are one and the same. -/
def isSame : Value → Value → Bool
  | .nothing, .nothing | .ellipsis, .ellipsis | .refused, .refused => true
  | .boolean a, .boolean b => a = b
  | .integer m, .integer n => m = n
  | .text s, .text t => s = t
  | .kind a, .kind b | .builtin a, .builtin b | .module a, .module b => a = b
  | .object m, .object n => m = n
  | _, _ => false

/-- Merges two lists by their keys. -/
def merged (core : Core) : (fuel : Nat) → List (Value × Value) → List (Value × Value) →
    Work (List (Value × Value))
  | 0, a, b => return a ++ b
  | _ + 1, [], b => return b
  | _ + 1, a, [] => return a
  | fuel + 1, x :: xs, y :: ys => do
    if ← core.precedes y.1 x.1 then return y :: (← merged core fuel (x :: xs) ys)
    else return x :: (← merged core fuel xs (y :: ys))

/-- Sorts values by their keys; equal ones keep their order. -/
def sorted (core : Core) : (fuel : Nat) → List (Value × Value) → Work (List (Value × Value))
  | 0, values => return values
  | fuel + 1, values => do
    if values.length ≤ 1 then return values
    else
      let half := values.length / 2
      let a ← sorted core fuel (values.take half)
      let b ← sorted core fuel (values.drop half)
      core.merged (values.length + 1) a b

/-- Sorts values by what a function makes of them. -/
def sortedBy (core : Core) (key : Value) (reversed : Bool) (values : List Value) : Work (List Value) := do
  let keyed ← values.mapM fun value => do
    match key with
    | .nothing => return (value, value)
    | key => return (← core.call key [value] [], value)
  let keyed := if reversed then keyed.reverse else keyed
  let found ← core.sorted (values.length + 1) keyed
  let found := if reversed then found.reverse else found
  return found.map (·.2)

end Core

/-! How values are spelled, and what texts stand for them where they are printed. -/

namespace Spelling

/-- The digits of a number with the point behind some of them. -/
def placed (digits : Text) (point : Int) : Text :=
  if point ≤ 0 then '0' :: '.' :: List.replicate (-point).toNat '0' ++ digits
  else
    let n := point.toNat
    if digits.length ≤ n then digits ++ List.replicate (n - digits.length) '0' ++ ['.', '0']
    else digits.take n ++ '.' :: digits.drop n

/-- A number with the fewest digits that read back as it; very large and very small ones have an exponent. -/
def real (x : Float) : Text :=
  if x.isNaN then "nan".toList
  else if x.isInf then (if x < 0 then "-inf" else "inf").toList
  else
    let d : Double := ⟨x.toBits⟩
    let sign : Text := if d.isNegative then ['-'] else []
    let decimal := Decimal.shortest d
    let digits := (toString decimal.digits).toList
    let kept := (digits.reverse.dropWhile (· = '0')).reverse
    let kept := if kept.isEmpty then ['0'] else kept
    -- The place of the point behind the first digit.
    let point : Int := digits.length + decimal.exponent
    if decimal.digits = 0 then sign ++ "0.0".toList
    else if -4 < point && point ≤ 16 then sign ++ placed kept point
    else
      let e := point - 1
      let mantissa := kept.take 1 ++ (if kept.length = 1 then [] else '.' :: kept.drop 1)
      let shown := (toString e.natAbs).toList
      sign ++ mantissa ++ 'e' :: (if e < 0 then '-' else '+') ::
        (List.replicate (2 - shown.length) '0' ++ shown)

/-- Whether a character is shown as it is. -/
def isShown (c : Char) : Bool :=
  (32 ≤ c.toNat && c.toNat < 127) || (160 < c.toNat && c.toNat ≠ 173 && !(0x200b ≤ c.toNat && c.toNat ≤ 0x200f) &&
    !(0x2028 ≤ c.toNat && c.toNat ≤ 0x202e) && c.toNat ≠ 0xfeff && !(0xe000 ≤ c.toNat && c.toNat ≤ 0xf8ff))

/-- A number in base sixteen with a width. -/
def hexadecimal (width n : Nat) : Text :=
  let digits := Nat.toDigits 16 n
  List.replicate (width - digits.length) '0' ++ digits

def escaped (isBytes : Bool) (quote c : Char) : Text :=
  if c = quote || c = '\\' then ['\\', c]
  else if c = '\n' then ['\\', 'n']
  else if c = '\r' then ['\\', 'r']
  else if c = '\t' then ['\\', 't']
  else if isBytes then
    if 32 ≤ c.toNat && c.toNat < 127 then [c] else '\\' :: 'x' :: hexadecimal 2 c.toNat
  else if isShown c then [c]
  else if c.toNat < 256 then '\\' :: 'x' :: hexadecimal 2 c.toNat
  else if c.toNat < 65536 then '\\' :: 'u' :: hexadecimal 4 c.toNat
  else '\\' :: 'U' :: hexadecimal 8 c.toNat

/-- A text between quotes. -/
def quoted (isBytes : Bool) (t : Text) : Text :=
  let quote := if t.contains '\'' && !t.contains '"' then '"' else '\''
  quote :: t.flatMap (escaped isBytes quote) ++ [quote]

/-- The number that is shown for the place of an object. -/
def address (n : Nat) : Text := "0x".toList ++ Nat.toDigits 16 (140187732541440 + 48 * n)

end Spelling

namespace Core

open Work

/-- Values with commas between them. -/
def spellAll (core : Core) (values : List Value) : Work Text := do
  let texts ← values.mapM core.spell
  return ", ".toList.intercalate texts

def spellEntries (core : Core) (entries : List (Value × Value)) : Work Text := do
  let texts ← entries.mapM fun (key, value) => do
    return (← core.spell key) ++ ": ".toList ++ (← core.spell value)
  return '\x7b' :: ", ".toList.intercalate texts ++ ['\x7d']

/-- The arguments that a failure has been made with. -/
def failureArguments (members : List (String × Value)) : List Value :=
  match members.lookup "args" with
  | some (.tuple items) => items
  | _ => []

/-- A kind as it is shown. -/
def spellKind (kind : Value) : Work Text := do
  match kind with
  | .kind name => return "<class '".toList ++ name.toList ++ "'>".toList
  | kind => return "<class '__main__.".toList ++ (← kindName kind).toList ++ "'>".toList

def spellStep (core : Core) (value : Value) : Work Text := do
  match value with
  | .nothing => return "None".toList
  | .ellipsis => return "Ellipsis".toList
  | .refused => return "NotImplemented".toList
  | .boolean b => return (if b then "True" else "False").toList
  | .integer n => return (toString n).toList
  | .real x => return Spelling.real x
  | .text t => return Spelling.quoted false t
  | .bytes t => return 'b' :: Spelling.quoted true t
  | .tuple [item] => return '(' :: (← core.spell item) ++ ",)".toList
  | .tuple items => return '(' :: (← core.spellAll items) ++ [')']
  | .range first last step =>
    let numbers := [Value.integer first, .integer last] ++ if step = 1 then [] else [.integer step]
    return "range(".toList ++ (← core.spellAll numbers) ++ [')']
  | .slice a b c => return "slice(".toList ++ (← core.spellAll [a, b, c]) ++ [')']
  | .kind _ => spellKind value
  | .builtin name => return "<built-in function ".toList ++ name.toList ++ ['>']
  | .method receiver name =>
    return "<built-in method ".toList ++ name.toList ++ " of ".toList ++ (← kindNameOf receiver).toList ++
      " object at 0x7f0000000000>".toList
  | .bound receiver function =>
    match ← objectAt function with
    | .function r =>
      return "<bound method ".toList ++ r.fullName.toList ++ " of ".toList ++ (← core.spell receiver) ++ ['>']
    | _ => return []
  | .module name => return "<module '".toList ++ name.toList ++ "' (built-in)>".toList
  | .object address =>
    match ← objectAt address with
    | .list kind items =>
      let inner := '[' :: (← core.spellAll items.toList) ++ [']']
      match kind with
      | "list" => return inner
      | "dict_keys" | "dict_values" | "dict_items" | "deque" => return kind.toList ++ '(' :: inner ++ [')']
      | _ => return inner
    | .set kind items =>
      if items.isEmpty then return kind.toList ++ "()".toList
      else
        let inner := '\x7b' :: (← core.spellAll items.toList) ++ ['\x7d']
        return if kind = "set" then inner else kind.toList ++ '(' :: inner ++ [')']
    | .table kind usual entries =>
      match kind with
      | "defaultdict" =>
        return "defaultdict(".toList ++ (← core.spell usual) ++ ", ".toList ++
          (← core.spellEntries entries.toList) ++ [')']
      | "Counter" =>
        if entries.isEmpty then return "Counter()".toList
        else
          let keyed := entries.toList.map fun (key, value) => (value, Value.tuple [key, value])
          let found ← core.sorted (entries.size + 1) keyed.reverse
          let pairs := found.reverse.filterMap fun (_, v) =>
            match v with
            | .tuple [key, value] => some (key, value)
            | _ => none
          return "Counter(".toList ++ (← core.spellEntries pairs) ++ [')']
      | "OrderedDict" =>
        if entries.isEmpty then return "OrderedDict()".toList
        else
          let pairs := entries.toList.map fun (key, value) => Value.tuple [key, value]
          return "OrderedDict([".toList ++ (← core.spellAll pairs) ++ "])".toList
      | _ => core.spellEntries entries.toList
    | .record kind members =>
      match ← core.special? value "__repr__" [] with
      | some (.text t) => return t
      | _ =>
        let name ← kindName kind
        if ← isSubkind kind (.kind "BaseException") then
          return name.toList ++ '(' :: (← core.spellAll (failureArguments members)) ++ [')']
        else
          match members.lookup "__fields__", members.lookup "__path__", kind with
          | _, some path, _ => return name.toList ++ '(' :: (← core.spell path) ++ [')']
          | some (.tuple fields), _, _ =>
            let texts ← fields.mapM fun field => do
              match field with
              | .text f =>
                return f ++ '=' :: (← core.spell ((members.lookup (String.ofList f)).getD .nothing))
              | _ => return []
            return name.toList ++ '(' :: ", ".toList.intercalate texts ++ [')']
          | _, _, .object _ =>
            return "<__main__.".toList ++ name.toList ++ " object at ".toList ++ Spelling.address address ++ ['>']
          | _, _, _ =>
            return '<' :: name.toList ++ " object at ".toList ++ Spelling.address address ++ ['>']
    | .classes _ _ _ => spellKind value
    | .function r =>
      return "<function ".toList ++ r.fullName.toList ++ " at ".toList ++ Spelling.address address ++ ['>']
    | .scope _ => return "<module>".toList
    | .file f =>
      return "<_io.TextIOWrapper name='".toList ++ f.name ++ "' mode='".toList ++ f.mode ++
        "' encoding='UTF-8'>".toList
    | .steps kind _ => return '<' :: kind.toList ++ " object at ".toList ++ Spelling.address address ++ ['>']

/-- The text that a failure tells. -/
def failureText (core : Core) (kind : Value) (members : List (String × Value)) : Work Text := do
  match members.lookup "__text__", members.lookup "errno", members.lookup "strerror" with
  | some (.text t), _, _ => return t
  | _, some number, some (.text reason) =>
    let start := "[Errno ".toList ++ (← core.spell number) ++ "] ".toList ++ reason
    match members.lookup "filename", members.lookup "filename2" with
    | some name, some other =>
      return start ++ ": ".toList ++ (← core.spell name) ++ " -> ".toList ++ (← core.spell other)
    | some name, none => return start ++ ": ".toList ++ (← core.spell name)
    | none, _ => return start
  | _, _, _ =>
    match failureArguments members with
    | [] => return []
    | [.text t] => if ← isSubkind kind (.kind "KeyError") then core.spell (.text t) else return t
    | [v] => core.spell v
    | items => core.spell (.tuple items)

/-- The text that stands for a value where it is printed. -/
def text (core : Core) (value : Value) : Work Text := do
  match value with
  | .text t => return t
  | .object address =>
    match ← objectAt address with
    | .record kind members =>
      match ← core.special? value "__str__" [], members.lookup "__path__" with
      | some (.text t), _ => return t
      | _, some (.text t) => return t
      | _, _ =>
        if ← isSubkind kind (.kind "BaseException") then
          match ← core.special? value "__repr__" [] with
          | some (.text t) => if members.isEmpty then return t else core.failureText kind members
          | _ => core.failureText kind members
        else core.spell value
    | _ => core.spell value
  | value => core.spell value

end Core

end KDispatch.Shell.Indented
