import KDispatch.Shell.Indented.Core

/-!
Operators. Quotients of numbers go down to the next whole number, and remainders have the sign of the divisor.
Of texts, lists and tables parts can be found, replaced and removed, and whole ones can be put together.
-/

namespace KDispatch.Shell.Indented

namespace Numeric

/-- A double that is a quotient of two whole numbers. -/
def ratio (num : Int) (den : Nat) : Float := Records.ofReal (.finite (num < 0) num.natAbs den)

/-- The fraction that a double is, if it is one. -/
def fraction? (x : Float) : Option (Int × Nat) :=
  match Records.toReal x with
  | .finite negative num den => some (if negative then -(num : Int) else num, den)
  | _ => none

/-- The quotient of two doubles that goes down to the next whole number, and the remainder. -/
def divide (x y : Float) : Float × Float :=
  match fraction? x, fraction? y with
  | some (a, b), some (c, d) =>
    let (num, den) := (a * d, c * b)
    let rest := ratio (Int.fmod num den) (b * d)
    (Float.ofInt (Int.fdiv num den), if rest == 0 then (if y < 0 then -0.0 else 0.0) else rest)
  | some _, none =>
    if y.isNaN then (y, y)
    else if x == 0 || ((x < 0) == (y < 0)) then (0.0, x)
    else (-1.0, y)
  | _, _ => (0.0 / 0.0, 0.0 / 0.0)

/-- The whole number next to a double, of two of them the even one. -/
def rounded (x : Float) : Int :=
  match fraction? x with
  | some (num, den) =>
    let n : Int := Double.roundDiv num.natAbs den
    if num < 0 then -n else n
  | none => 0

/-- A double rounded to some decimal places. -/
def roundedTo (places : Int) (x : Float) : Float :=
  match fraction? x with
  | some (num, den) =>
    let n := Double.roundDiv (num.natAbs * tenTo places.toNat) (den * tenTo (-places).toNat)
    Records.ofReal (.finite (num < 0 || (n = 0 && x.toBits ≥ 0x8000000000000000)) (n * tenTo (-places).toNat)
      (tenTo places.toNat))
  | none => x

/-- The whole part of a double. -/
def truncated? (x : Float) : Option Int :=
  match fraction? x with
  | some (num, den) => some (Int.tdiv num den)
  | none => none

def isSpace (c : Char) : Bool := c = ' ' || (9 ≤ c.toNat && c.toNat ≤ 13) || (28 ≤ c.toNat && c.toNat ≤ 31) ||
  c.toNat = 0x85 || c.toNat = 0xa0

def stripped (t : Text) : Text := ((t.dropWhile isSpace).reverse.dropWhile isSpace).reverse

/-- The value of a digit in bases up to thirty-six. -/
def digit? (c : Char) : Option Nat :=
  if c.isDigit then some (c.toNat - '0'.toNat)
  else if c.isAlpha && c.toNat < 128 then some (c.toLower.toNat - 'a'.toNat + 10)
  else none

/-- The number that digits are; single low lines may stand between them. -/
def digits? (base : Nat) : (value : Nat) → (some : Bool) → Text → Option Nat
  | value, true, [] => .some value
  | _, false, [] => .none
  | value, true, '_' :: rest => digits? base value false rest
  | _, false, '_' :: _ => .none
  | value, _, c :: rest =>
    match digit? c with
    | .some d => if d < base then digits? base (value * base + d) true rest else .none
    | .none => .none

/-- The whole number that a text spells in a base; base zero means that the text tells its base. -/
def whole? (base : Nat) (t : Text) : Option Int :=
  let t := stripped t
  let (isNegative, t) : Bool × Text := match t with
    | '-' :: rest => (true, rest)
    | '+' :: rest => (false, rest)
    | t => (false, t)
  let (base, t) : Nat × Text := match t with
    | '0' :: mark :: rest =>
      let own := match mark.toLower with
        | 'x' => 16
        | 'o' => 8
        | 'b' => 2
        | _ => 0
      if own ≠ 0 && (base = 0 || base = own) then (own, if rest.head? = some '_' then rest.drop 1 else rest)
      else (if base = 0 then 10 else base, t)
    | t => (if base = 0 then 10 else base, t)
  (digits? base 0 false t).map fun n => if isNegative then -(n : Int) else n

/-- The double that a text spells. -/
def real? (t : Text) : Option Float :=
  let t := stripped t
  let (isNegative, bare) : Bool × Text := match t with
    | '-' :: rest => (true, rest)
    | '+' :: rest => (false, rest)
    | t => (false, t)
  let signed (x : Float) : Float := if isNegative then -x else x
  match String.ofList (bare.map Char.toLower) with
  | "inf" | "infinity" => some (signed (1.0 / 0.0))
  | "nan" => some (0.0 / 0.0)
  | _ =>
    if bare.all (fun c => c.isDigit || "+-.eE_".toList.contains c) && bare.any Char.isDigit then
      match Real.read? (bare.filter (· ≠ '_')) with
      | some (value, []) =>
        if (bare.head?.map fun c => c.isDigit || c = '.').getD false then
          some (signed (Records.ofReal (value.rounded .double).1))
        else none
      | _ => none
    else none

end Numeric

namespace Core

open Work

/-- The whole number that a value is, if it counts as one. -/
def whole? : Value → Option Int
  | .integer n => some n
  | .boolean b => some (if b then 1 else 0)
  | _ => none

/-- A word for an operator as it is spelled in messages. -/
def spelledOperator (operator : String) : String :=
  match operator with
  | "**" => "** or pow()"
  | "**=" => "** or pow()"
  | operator => operator

/-- Fails because an operator does not know its operands. -/
def refuseOperands {α : Type} (operator : String) (a b : Value) : Work α := do
  refuse ("unsupported operand type(s) for " ++ spelledOperator operator ++ ": '" ++ (← kindNameOf a) ++
    "' and '" ++ (← kindNameOf b) ++ "'")

def failDivision {α : Type} (message : String) : Work α := fail "ZeroDivisionError" message.toList

/-- What an operator makes of two whole numbers. -/
def operateWhole? (operator : String) (m n : Int) : Option (Work Value) :=
  match operator with
  | "+" => some (return .integer (m + n))
  | "-" => some (return .integer (m - n))
  | "*" => some (return .integer (m * n))
  | "/" =>
    some (if n = 0 then failDivision "division by zero"
      else return .real (Numeric.ratio (if n < 0 then -m else m) n.natAbs))
  | "//" =>
    some (if n = 0 then failDivision "integer division or modulo by zero" else return .integer (Int.fdiv m n))
  | "%" => some (if n = 0 then failDivision "integer modulo by zero" else return .integer (Int.fmod m n))
  | "**" =>
    some (if 0 ≤ n then return .integer (Int.pow m n.toNat)
      else if m = 0 then failDivision "0.0 cannot be raised to a negative power"
      else return .real (Float.pow (Float.ofInt m) (Float.ofInt n)))
  | "<<" =>
    some (if n < 0 then fail "ValueError" "negative shift count".toList
      else return .integer (m * (twoTo n.toNat : Int)))
  | ">>" =>
    some (if n < 0 then fail "ValueError" "negative shift count".toList
      else return .integer (Int.fdiv m (twoTo n.toNat : Int)))
  | _ => none

/-- A whole number with the bits that an operator takes from those of two others. -/
def combineBits (combine : Nat → Nat → Nat) (negative : Bool → Bool → Bool) (m n : Int) : Int :=
  let width := max (Nat.log2 m.natAbs) (Nat.log2 n.natAbs) + 2
  let unit := twoTo width
  let bits (k : Int) : Nat := (k.emod unit).toNat
  let result := combine (bits m) (bits n) % unit
  if negative (m < 0) (n < 0) then (result : Int) - unit else result

def operateBits? (operator : String) (m n : Int) : Option Int :=
  match operator with
  | "&" => some (combineBits Nat.land (· && ·) m n)
  | "|" => some (combineBits Nat.lor (· || ·) m n)
  | "^" => some (combineBits Nat.xor (· != ·) m n)
  | _ => none

/-- What an operator makes of two doubles. -/
def operateReal? (operator : String) (x y : Float) : Option (Work Value) :=
  match operator with
  | "+" => some (return .real (x + y))
  | "-" => some (return .real (x - y))
  | "*" => some (return .real (x * y))
  | "/" => some (if y == 0 then failDivision "float division by zero" else return .real (x / y))
  | "//" =>
    some (if y == 0 then failDivision "float floor division by zero" else return .real (Numeric.divide x y).1)
  | "%" => some (if y == 0 then failDivision "float modulo" else return .real (Numeric.divide x y).2)
  | "**" =>
    some (if x == 0 && y < 0 then failDivision "0.0 cannot be raised to a negative power"
      else return .real (Float.pow x y))
  | _ => none

/-- What an operator makes of two numbers. -/
def operateNumbers? (operator : String) (a b : Value) : Option (Work Value) :=
  match number? a, number? b with
  | some (.whole m), some (.whole n) =>
    match operateBits? operator m n with
    | some k =>
      some (match a, b with
        | .boolean _, .boolean _ => return .boolean (k ≠ 0)
        | _, _ => return .integer k)
    | none => operateWhole? operator m n
  | some x, some y => operateReal? operator x.toFloat y.toFloat
  | _, _ => none

/-- What an operator before a value gives. -/
def operateOn (core : Core) (operator : String) (a : Value) : Work Value := do
  match operator, number? a with
  | "-", some (.whole n) => return .integer (-n)
  | "-", some (.real x) => return .real (-x)
  | "+", some (.whole n) => return .integer n
  | "+", some (.real x) => return .real x
  | "~", some (.whole n) => return .integer (-n - 1)
  | _, _ =>
    let method := match operator with
      | "-" => "__neg__"
      | "+" => "__pos__"
      | _ => "__invert__"
    match ← core.special? a method [] with
    | some v => return v
    | none => refuse ("bad operand type for unary " ++ operator ++ ": '" ++ (← kindNameOf a) ++ "'")

end Core

/-! Parts of texts, lists and tables: finding, replacing and removing them, and what operators make of whole ones. -/

/-- Places in a sequence, counted from its end if they are negative. -/
def placeIn? (size : Nat) (index : Int) : Option Nat :=
  let index := if index < 0 then index + size else index
  if 0 ≤ index && index < size then some index.toNat else none

/-- The places that a slice takes. -/
def slicePlaces (size : Nat) (first last : Option Int) (step : Int) : List Nat :=
  let n : Int := size
  let fromEnd (k : Int) : Int := if k < 0 then k + n else k
  if 0 < step then
    let low := max 0 (min n ((first.map fromEnd).getD 0))
    let high := max 0 (min n ((last.map fromEnd).getD n))
    let count := if low < high then (high - low + step - 1).fdiv step else 0
    (List.range count.toNat).map fun (k : Nat) => (low + step * (k : Int)).toNat
  else
    let low := max (-1) (min (n - 1) ((first.map fromEnd).getD (n - 1)))
    let high := max (-1) (min (n - 1) ((last.map fromEnd).getD (-1)))
    let count := if high < low then (low - high - step - 1).fdiv (-step) else 0
    (List.range count.toNat).map fun (k : Nat) => (low + step * (k : Int)).toNat

/-- The numbers of a range. -/
def rangeNumbers (first last step : Int) : List Int :=
  let count :=
    if 0 < step then (if first < last then (last - first + step - 1).fdiv step else 0)
    else if step < 0 then (if last < first then (first - last - step - 1).fdiv (-step) else 0)
    else 0
  (List.range count.toNat).map fun (k : Nat) => first + step * (k : Int)

/-- The items of a set in the order in which they are walked over: whole numbers by what remains of them when
they are spread over a table. -/
def setOrder (items : Array Value) : List Value :=
  let sizeStep (size count : Nat) : Nat := if 3 * (size - 1) ≤ 5 * count then 4 * count else size
  let rec powerAbove (limit : Nat) : (fuel power : Nat) → Nat
    | 0, power => power
    | fuel + 1, power => if power ≤ limit then powerAbove limit fuel (2 * power) else power
  let size := (List.range items.size).foldl (fun size n =>
    let grown := sizeStep size (n + 1)
    if grown = size then size else powerAbove grown 60 8) 8
  let keyed := items.toList.map fun item =>
    match item with
    | .integer n => some ((n.emod size).toNat, item)
    | _ => none
  if keyed.all Option.isSome then
    ((keyed.filterMap id).mergeSort fun a b => a.1 ≤ b.1).map (·.2)
  else items.toList

namespace Core

open Work

/-- The whole number that an index is. -/
def indexOf (what : String) (value : Value) : Work Int := do
  match whole? value with
  | some n => return n
  | none => refuse (what ++ " indices must be integers or slices, not " ++ (← kindNameOf value))

def bound? (value : Value) : Work (Option Int) := do
  match value with
  | .nothing => return none
  | value =>
    match whole? value with
    | some n => return some n
    | none => refuse "slice indices must be integers or None or have an __index__ method"

/-- The places of a sequence of some size that a slice takes. -/
def sliceOf (size : Nat) (first last step : Value) : Work (List Nat) := do
  let step := (← bound? step).getD 1
  if step = 0 then fail "ValueError" "slice step cannot be zero".toList
  else return slicePlaces size (← bound? first) (← bound? last) step

/-- Items of a list at some places. -/
def itemsAt {α : Type} [Inhabited α] (items : Array α) (places : List Nat) : List α :=
  places.map fun n => items.getD n default

/-- The item of a sequence at an index, or the items that a slice takes. -/
def partOf {α : Type} [Inhabited α] (what : String) (items : Array α) (index : Value) :
    Work (α ⊕ List α) := do
  match index with
  | .slice first last step => return .inr (itemsAt items (← sliceOf items.size first last step))
  | index =>
    match placeIn? items.size (← indexOf what index) with
    | some n => return .inl (items.getD n default)
    | none => fail "IndexError" ((if what = "byte" then "index" else what) ++ " index out of range").toList

/-- Whether a value can be found by its content. -/
def checkKey : (fuel : Nat) → Value → Work Unit
  | 0, _ => return
  | fuel + 1, value => do
    match value with
    | .object address =>
      match ← objectAt address with
      | .list _ _ | .table _ _ _ => refuse ("unhashable type: '" ++ (← kindNameOf value) ++ "'")
      | .set "set" _ => refuse "unhashable type: 'set'"
      | _ => return
    | .tuple items => for item in items do checkKey fuel item
    | _ => return

/-- The place of an entry of a table. -/
def entryPlace? (core : Core) (key : Value) (entries : Array (Value × Value)) : Work (Option Nat) := do
  match key with
  | .text t =>
    return entries.findIdx? fun (k, _) =>
      match k with
      | .text s => s = t
      | _ => false
  | key =>
    checkKey 50 key
    let rec go : (fuel place : Nat) → Work (Option Nat)
      | 0, _ => return none
      | fuel + 1, place => do
        if ← core.equal (entries.getD place default).1 key then return some place
        else go fuel (place + 1)
    go entries.size 0

/-- A table with an entry that has been put into it. -/
def withEntry (core : Core) (key value : Value) (entries : Array (Value × Value)) :
    Work (Array (Value × Value)) := do
  match ← core.entryPlace? key entries with
  | some place => return entries.setIfInBounds place ((entries.getD place default).1, value)
  | none => return entries.push (key, value)

/-- Values of which no two are the same, and further ones. -/
def withItems (core : Core) (items : Array Value) : List Value → Work (Array Value)
  | [] => return items
  | value :: rest => do
    checkKey 50 value
    let known ← match value with
      | .text t => pure (items.any fun v =>
          match v with
          | .text s => s = t
          | _ => false)
      | value => core.isAmong value items.toList
    if known then withItems core items rest else withItems core (items.push value) rest

def newSet (core : Core) (kind : String) (items : List Value) : Work Value := do
  new (.set kind (← core.withItems #[] items))

/-- The table at an address, if there is one. -/
def entriesAt (address : Nat) : Work (Array (Value × Value)) := do
  match ← objectAt address with
  | .table _ _ entries => return entries
  | _ => return #[]

/-- Puts an entry into the table at an address. -/
def putEntry (core : Core) (address : Nat) (key value : Value) : Work Unit := do
  let entries ← core.withEntry key value (← entriesAt address)
  match ← objectAt address with
  | .table kind usual _ => putObject address (.table kind usual entries)
  | _ => return

/-- What stands in a value under an index. -/
def subscript (core : Core) (value index : Value) : Work Value := do
  match value with
  | .text t =>
    match ← partOf "string" t.toArray index with
    | .inl c => return .text [c]
    | .inr cs => return .text cs
  | .bytes t =>
    match ← partOf "byte" t.toArray index with
    | .inl c => return .integer c.toNat
    | .inr cs => return .bytes cs
  | .tuple items =>
    match ← partOf "tuple" items.toArray index with
    | .inl v => return v
    | .inr vs => return .tuple vs
  | .range first last step =>
    match ← partOf "range object" ((rangeNumbers first last step).map Value.integer).toArray index with
    | .inl v => return v
    | .inr vs => newList vs
  | .object address =>
    match ← objectAt address with
    | .list _ items =>
      match ← partOf "list" items index with
      | .inl v => return v
      | .inr vs => newList vs
    | .table kind usual entries =>
      match ← core.entryPlace? index entries with
      | some place => return (entries.getD place default).2
      | none =>
        match kind, usual with
        | "Counter", _ => return .integer 0
        | "defaultdict", .nothing => raise (← newFailure "KeyError" [index])
        | "defaultdict", make => do
          let made ← core.call make [] []
          core.putEntry address index made
          return made
        | _, _ => raise (← newFailure "KeyError" [index])
    | .record kind members =>
      match ← core.special? value "__getitem__" [index] with
      | some v => return v
      | none =>
        match kind, members.lookup "__items__" with
        | .kind "re.Match", some (.tuple groups) =>
          match index with
          | .integer n => return groups.getD n.toNat .nothing
          | index =>
            match members.lookup "__names__" with
            | some (.object names) =>
              match ← core.entryPlace? index (← entriesAt names) with
              | some place => return ((← entriesAt names).getD place default).2
              | none => fail "IndexError" "no such group".toList
            | _ => fail "IndexError" "no such group".toList
        | _, some (.tuple items) =>
          match ← partOf "tuple" items.toArray index with
          | .inl v => return v
          | .inr vs => return .tuple vs
        | _, _ => refuse ("'" ++ (← kindNameOf value) ++ "' object is not subscriptable")
    | .classes _ _ _ => return value
    | _ => refuse ("'" ++ (← kindNameOf value) ++ "' object is not subscriptable")
  | .kind _ => return value
  | value => refuse ("'" ++ (← kindNameOf value) ++ "' object is not subscriptable")

/-- Puts a value under an index. -/
def putSubscript (core : Core) (value index new : Value) : Work Unit := do
  match value with
  | .object address =>
    match ← objectAt address with
    | .list kind items =>
      match index with
      | .slice first last step => do
        let given ← core.items new
        let places ← sliceOf items.size first last step
        match step with
        | .nothing | .integer 1 =>
          let start := match ← bound? first with
            | some n => (max 0 (min (items.size : Int) (if n < 0 then n + items.size else n))).toNat
            | none => 0
          let rest := items.toList.drop (start + places.length)
          putObject address (.list kind (items.toList.take start ++ given ++ rest).toArray)
        | _ =>
          if places.length ≠ given.length then
            fail "ValueError" ("attempt to assign sequence of size ".toList ++
              (toString given.length).toList ++ " to extended slice of size ".toList ++
              (toString places.length).toList)
          else
            let changed := (places.zip given).foldl (fun items (n, v) => items.setIfInBounds n v) items
            putObject address (.list kind changed)
      | index =>
        match placeIn? items.size (← indexOf "list" index) with
        | some n => putObject address (.list kind (items.setIfInBounds n new))
        | none => fail "IndexError" "list assignment index out of range".toList
    | .table _ _ _ => do
      core.putEntry address index new
      match ← objectAt address with
      | .table "environ" _ _ =>
        match index, new with
        | .text name, .text content =>
          let name := String.ofList name
          let content := encoded content
          task (modify fun m =>
            { m with environment := m.environment.filter (·.1 ≠ name) ++ [(name, content)] })
        | _, _ => refuse ("str expected, not " ++ (← kindNameOf new))
      | _ => return
    | _ =>
      match ← core.special? value "__setitem__" [index, new] with
      | some _ => return
      | none => refuse ("'" ++ (← kindNameOf value) ++ "' object does not support item assignment")
  | value => refuse ("'" ++ (← kindNameOf value) ++ "' object does not support item assignment")

/-- Removes what stands under an index. -/
def eraseSubscript (core : Core) (value index : Value) : Work Unit := do
  match value with
  | .object address =>
    match ← objectAt address with
    | .list kind items =>
      match index with
      | .slice first last step => do
        let places ← sliceOf items.size first last step
        let kept := (List.range items.size).filter fun n => !places.contains n
        putObject address (.list kind (itemsAt items kept).toArray)
      | index =>
        match placeIn? items.size (← indexOf "list" index) with
        | some n => putObject address (.list kind (items.toList.eraseIdx n).toArray)
        | none => fail "IndexError" "list assignment index out of range".toList
    | .table kind usual entries =>
      match ← core.entryPlace? index entries with
      | some place => do
        putObject address (.table kind usual (entries.toList.eraseIdx place).toArray)
        match kind, index with
        | "environ", .text name =>
          task (modify fun m =>
            { m with environment := m.environment.filter (·.1 ≠ String.ofList name) })
        | _, _ => return
      | none => raise (← newFailure "KeyError" [index])
    | _ =>
      match ← core.special? value "__delitem__" [index] with
      | some _ => return
      | none => refuse ("'" ++ (← kindNameOf value) ++ "' object doesn't support item deletion")
  | value => refuse ("'" ++ (← kindNameOf value) ++ "' object doesn't support item deletion")

/-- Whether a text stands somewhere in another one; the first place where it does from a place on. -/
def placeOf? (part : Text) : (fuel place : Nat) → Text → Option Nat
  | 0, _, _ => none
  | fuel + 1, place, text =>
    if part.isPrefixOf text then some place
    else
      match text with
      | [] => none
      | _ :: rest => placeOf? part fuel (place + 1) rest

def isWithin (part text : Text) : Bool := (placeOf? part (text.length + 1) 0 text).isSome

/-- Whether a value is in another one. -/
def isIn (core : Core) (value whole : Value) : Work Bool := do
  match whole, value with
  | .text t, .text part => return isWithin part t
  | .text _, value =>
    refuse ("'in <string>' requires string as left operand, not " ++ (← kindNameOf value))
  | .bytes t, .bytes part => return isWithin part t
  | .bytes t, .integer n => return t.any fun c => (c.toNat : Int) = n
  | .range first last step, value =>
    match whole? value with
    | some n => return (rangeNumbers first last step).contains n
    | none => return false
  | .object address, value =>
    match ← objectAt address with
    | .table _ _ entries => return (← core.entryPlace? value entries).isSome
    | .record _ _ =>
      match ← core.special? whole "__contains__" [value] with
      | some v => core.truth v
      | none => core.isAmong value (← core.items whole)
    | _ => core.isAmong value (← core.items whole)
  | .tuple items, value => core.isAmong value items
  | whole, _ => refuse ("argument of type '" ++ (← kindNameOf whole) ++ "' is not iterable")

/-- The names of the methods for an operator, for the operand before it and for the one behind it. -/
def methodNames (operator : String) : String × String :=
  let name := match operator with
    | "+" => "add"
    | "-" => "sub"
    | "*" => "mul"
    | "/" => "truediv"
    | "//" => "floordiv"
    | "%" => "mod"
    | "**" => "pow"
    | "<<" => "lshift"
    | ">>" => "rshift"
    | "&" => "and"
    | "|" => "or"
    | "^" => "xor"
    | _ => "matmul"
  ("__" ++ name ++ "__", "__r" ++ name ++ "__")

/-- Items repeated some times. -/
def repeated {α : Type} (count : Int) (items : List α) : List α :=
  (List.replicate count.toNat items).flatten

/-- What an operator makes of two sets. -/
def operateSets? (core : Core) (operator : String) (a b : List Value) : Option (Work (List Value)) :=
  match operator with
  | "|" => some (return (← core.withItems #[] (a ++ b)).toList)
  | "&" => some (a.filterM fun v => core.isAmong v b)
  | "-" => some (a.filterM fun v => return !(← core.isAmong v b))
  | "^" =>
    some (do
      let first ← a.filterM fun v => return !(← core.isAmong v b)
      let second ← b.filterM fun v => return !(← core.isAmong v a)
      return first ++ second)
  | _ => none

/-- What an operator between two values gives; `spelling` is how messages show it. -/
def operate (core : Core) (operator spelling : String) (a b : Value) : Work Value := do
  match operateNumbers? operator a b with
  | some work => work
  | none =>
    let (own, reversed) := methodNames operator
    let viaMethods : Work Value := do
      match ← core.special? a own [b] with
      | some .refused | none =>
        match ← core.special? b reversed [a] with
        | some .refused | none => refuseOperands spelling a b
        | some v => return v
      | some v => return v
    let notWhole (b : Value) : Work Value := do
      match ← Work.special? b reversed with
      | some _ => viaMethods
      | none => refuse ("can't multiply sequence by non-int of type '" ++ (← kindNameOf b) ++ "'")
    let notSame (kind : String) (b : Value) : Work Value := do
      match ← Work.special? b reversed with
      | some _ => viaMethods
      | none =>
        let quote := if kind = "str" || kind = "list" || kind = "tuple" then "\"" else "'"
        refuse ("can only concatenate " ++ kind ++ " (not " ++ quote ++ (← kindNameOf b) ++ quote ++ ") to " ++
          kind)
    match operator, a, b with
    | "+", .text s, .text t => return .text (s ++ t)
    | "+", .bytes s, .bytes t => return .bytes (s ++ t)
    | "+", .tuple s, .tuple t => return .tuple (s ++ t)
    | "+", .text _, b => notSame "str" b
    | "+", .tuple _, b => notSame "tuple" b
    | "+", .bytes _, b => refuse ("can't concat " ++ (← kindNameOf b) ++ " to bytes")
    | "*", .text t, b =>
      match whole? b with
      | some n => return .text (repeated n t)
      | none => notWhole b
    | "*", .bytes t, b =>
      match whole? b with
      | some n => return .bytes (repeated n t)
      | none => notWhole b
    | "*", .tuple items, b =>
      match whole? b with
      | some n => return .tuple (repeated n items)
      | none => notWhole b
    | "*", .integer n, .text t => return .text (repeated n t)
    | "*", .integer n, .bytes t => return .bytes (repeated n t)
    | "*", .integer n, .tuple items => return .tuple (repeated n items)
    | operator, .object m, .object n =>
      match ← objectAt m, ← objectAt n with
      | .list kind s, .list _ t =>
        if operator = "+" then new (.list kind (s ++ t)) else viaMethods
      | .set kind s, .set _ t =>
        match core.operateSets? operator s.toList t.toList with
        | some work => new (.set kind (← work).toArray)
        | none => viaMethods
      | .table kind usual s, .table _ _ t =>
        match operator, kind with
        | "|", _ =>
          let entries ← t.toList.foldlM (fun entries (key, value) => core.withEntry key value entries) s
          new (.table kind usual entries)
        | "+", "Counter" | "-", "Counter" =>
          let entries ← t.toList.foldlM (fun entries (key, value) => do
            let old ← core.valueUnder key entries.toList
            let sum := match old.getD (.integer 0), value, operator with
              | .integer x, .integer y, "+" => x + y
              | .integer x, .integer y, _ => x - y
              | _, _, _ => 0
            core.withEntry key (.integer sum) entries) s
          let kept := entries.toList.filter fun (_, v) =>
            match v with
            | .integer n => 0 < n
            | _ => true
          new (.table kind usual kept.toArray)
        | _, _ => viaMethods
      | .list _ _, _ => if operator = "+" then notSame "list" b else viaMethods
      | _, _ => viaMethods
    | "*", .object m, b =>
      match ← objectAt m with
      | .list kind items =>
        match whole? b with
        | some n => new (.list kind (repeated n items.toList).toArray)
        | none => notWhole b
      | _ => viaMethods
    | "*", .integer n, .object m =>
      match ← objectAt m with
      | .list kind items => new (.list kind (repeated n items.toList).toArray)
      | _ => viaMethods
    | "+", .object m, b =>
      match ← objectAt m with
      | .list _ _ => notSame "list" b
      | _ => viaMethods
    | _, _, _ => viaMethods

end Core

end KDispatch.Shell.Indented
