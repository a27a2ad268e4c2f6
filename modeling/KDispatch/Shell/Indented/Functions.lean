import KDispatch.Shell.Indented.Iteration
import KDispatch.Shell.Indented.Parser
import KDispatch.Shell.Utility.Calendar

/-!
The functions that every program has, and those of small modules: numbers, time, chance, texts.
-/

namespace KDispatch.Shell.Indented.Core

open Work

/-- Fails because a value has no items. -/
def refuseItems {α : Type} (value : Value) : Work α := do
  refuse ("'" ++ (← kindNameOf value) ++ "' object is not iterable")

/-- The items that an object gives until it fails with the sign for its end. -/
def drawn (core : Core) (value : Value) : (fuel : Nat) → Work (List Value)
  | 0 => return []
  | fuel + 1 => do
    match ← attempted (do
      match ← core.special? value "__next__" [] with
      | some v => return v
      | none => refuseItems value) with
    | .ok v => return v :: (← drawn core value fuel)
    | .error failure =>
      if ← isInstance failure 20 (.kind "StopIteration") then return [] else throw (.failure failure)

/-- The items that an object gives by their numbers. -/
def numbered (core : Core) (value : Value) : (fuel place : Nat) → Work (List Value)
  | 0, _ => return []
  | fuel + 1, place => do
    match ← attempted (do
      match ← core.special? value "__getitem__" [ofNat place] with
      | some v => return v
      | none => refuseItems value) with
    | .ok v => return v :: (← numbered core value fuel (place + 1))
    | .error failure =>
      if ← isInstance failure 20 (.kind "IndexError") then return [] else throw (.failure failure)

/-- The values that are walked over. -/
def itemsStep (core : Core) (value : Value) : Work (List Value) := do
  match value with
  | .text t => return t.map fun c => .text [c]
  | .bytes t => return t.map fun c => ofNat c.toNat
  | .tuple items => return items
  | .range first last step => return (rangeNumbers first last step).map .integer
  | .object address =>
    match ← objectAt address with
    | .list _ items => return items.toList
    | .set _ items => return setOrder items
    | .table _ _ entries => return entries.toList.map (·.1)
    | .steps kind items => do
      putObject address (.steps kind [])
      return items
    | .file _ => restLines address
    | .record _ members =>
      match members.lookup "__items__" with
      | some (.tuple items) => return items
      | _ =>
        match ← core.special? value "__iter__" [] with
        | some found => do
          match ← Work.special? found "__next__" with
          | some _ => core.drawn found manyItems
          | none => core.items found
        | none =>
          match ← Work.special? value "__next__", ← Work.special? value "__getitem__" with
          | some _, _ => core.drawn value manyItems
          | none, some _ => core.numbered value manyItems 0
          | none, none => refuseItems value
    | _ => refuseItems value
  | value => refuseItems value

/-- The number of items of a value. -/
def sizeOf (core : Core) (value : Value) : Work Value := do
  let refused : Work Value := do
    refuse ("object of type '" ++ (← kindNameOf value) ++ "' has no len()")
  match value with
  | .text t | .bytes t => return ofNat t.length
  | .tuple items => return ofNat items.length
  | .range first last step => return ofNat (rangeNumbers first last step).length
  | .object address =>
    match ← objectAt address with
    | .list _ items | .set _ items => return ofNat items.size
    | .table _ _ entries => return ofNat entries.size
    | .record _ members =>
      match ← core.special? value "__len__" [] with
      | some v => return v
      | none =>
        match members.lookup "__items__" with
        | some (.tuple items) => return ofNat items.length
        | _ => refused
    | _ => refused
  | _ => refused

/-- The whole number that a value is turned into. -/
def toWhole (core : Core) (arguments : Arguments) : Work Value := do
  match arguments.plain, arguments.named.lookup "base" with
  | [], _ => return .integer 0
  | value :: rest, named =>
    let base := ((rest.head?.or named).bind whole?).getD 10
    match value with
    | .text t | .bytes t =>
      match Numeric.whole? base.toNat t with
      | some n => return .integer n
      | none =>
        fail "ValueError" ("invalid literal for int() with base ".toList ++ (toString base).toList ++ ": ".toList ++
          (← core.spell value))
    | .real x =>
      match Numeric.truncated? x with
      | some n => return .integer n
      | none =>
        if x.isNaN then fail "ValueError" "cannot convert float NaN to integer".toList
        else fail "OverflowError" "cannot convert float infinity to integer".toList
    | value =>
      match whole? value with
      | some n => return .integer n
      | none =>
        match ← core.special? value "__int__" [] with
        | some v => return v
        | none =>
          refuse ("int() argument must be a string, a bytes-like object or a real number, not '" ++
            (← kindNameOf value) ++ "'")

def toReal (core : Core) (value : Value) : Work Value := do
  match value with
  | .text t | .bytes t =>
    match Numeric.real? t with
    | some x => return .real x
    | none =>
      fail "ValueError" ("could not convert string to float: ".toList ++ (← core.spell value))
  | value =>
    match number? value with
    | some n => return .real n.toFloat
    | none =>
      match ← core.special? value "__float__" [] with
      | some v => return v
      | none =>
        refuse ("float() argument must be a string or a real number, not '" ++ (← kindNameOf value) ++ "'")

def toBytes (core : Core) (arguments : Arguments) : Work Value := do
  match arguments.plain with
  | [] => return .bytes []
  | .text t :: rest =>
    match rest.head?.or (arguments.named.lookup "encoding") with
    | some (.text e) => return .bytes (← encodedAs e t)
    | _ => refuse "string argument without an encoding"
  | .integer n :: _ => return .bytes (List.replicate n.toNat '\x00')
  | .bytes t :: _ => return .bytes t
  | v :: _ => do
    let codes ← core.items v
    return .bytes (codes.map fun v => Char.ofNat ((whole? v).getD 0).toNat)

/-- The value that a kind of the language makes of arguments. -/
def made (core : Core) (kind : String) (arguments : Arguments) : Work Value := do
  let plain := arguments.plain
  let items : Work (List Value) := do
    match plain with
    | [] => return []
    | v :: _ => core.items v
  match kind with
  | "int" => core.toWhole arguments
  | "float" =>
    match plain with
    | [] => return .real 0
    | v :: _ => core.toReal v
  | "bool" =>
    match plain with
    | [] => return .boolean false
    | v :: _ => return .boolean (← core.truth v)
  | "str" =>
    match plain with
    | [] => return .text []
    | [v] =>
      match v, arguments.named.lookup "encoding" with
      | .bytes t, some (.text e) => return .text (← decodedFrom e "strict".toList t)
      | v, _ => return .text (← core.text v)
    | .bytes t :: .text e :: _ => return .text (← decodedFrom e "strict".toList t)
    | v :: _ => return .text (← core.text v)
  | "bytes" | "bytearray" => core.toBytes arguments
  | "list" => newList (← items)
  | "deque" => new (.list "deque" (← items).toArray)
  | "Queue" => new (.list "Queue" #[])
  | "tuple" => return .tuple (← items)
  | "set" | "frozenset" => core.newSet kind (← items)
  | "dict" | "OrderedDict" | "defaultdict" | "environ" => do
    let (usual, plain) := if kind = "defaultdict" then (plain.headD .nothing, plain.drop 1) else (.nothing, plain)
    let start ← match plain with
      | [] => pure []
      | v :: _ => core.entriesFrom v
    let entries ← start.foldlM (fun entries (k, v) => core.withEntry k v entries) #[]
    new (.table kind usual (← core.withNamed entries arguments.named))
  | "Counter" => do
    let counts ← match plain with
      | [] => pure []
      | v :: _ => core.countsOf v
    let entries ← core.withCounts #[] counts
    new (.table kind .nothing (← core.withNamed entries arguments.named))
  | "object" => new (.record (.kind "object") [])
  | "range" =>
    match ← plain.mapM fun v => do
      match whole? v with
      | some n => return n
      | none => refuse ("'" ++ (← kindNameOf v) ++ "' object cannot be interpreted as an integer") with
    | [last] => return .range 0 last 1
    | [first, last] => return .range first last 1
    | [first, last, step] =>
      if step = 0 then fail "ValueError" "range() arg 3 must not be zero".toList
      else return .range first last step
    | [] => refuse "range expected at least 1 argument, got 0"
    | _ => refuse ("range expected at most 3 arguments, got " ++ toString plain.length)
  | "slice" =>
    match plain with
    | [last] => return .slice .nothing last .nothing
    | [first, last] => return .slice first last .nothing
    | first :: last :: step :: _ => return .slice first last step
    | [] => refuse "slice expected at least 1 argument, got 0"
  | "type" =>
    match plain with
    | [v] => kindOf v
    | [.text name, bases, table] => do
      let members ← match table with
        | .object address => do
          pure ((← entriesAt address).toList.filterMap fun (k, v) =>
            match k with
            | .text t => some (String.ofList t, v)
            | _ => none)
        | _ => pure []
      new (.classes (String.ofList name) (tupleItems bases) members)
    | _ => refuse "type() takes 1 or 3 arguments"
  | "property" =>
    new (.record (.kind "property") ([("fget", arguments.first)] ++
      match plain with
      | _ :: setter :: _ => [("fset", setter)]
      | _ => []))
  | "staticmethod" | "classmethod" => new (.record (.kind kind) [("__func__", arguments.first)])
  | "StringIO" =>
    match plain with
    | .text t :: _ => new (.file (File.ofText false t))
    | _ => new (.file (File.ofText false []))
  | "BytesIO" =>
    match plain with
    | .bytes t :: _ => new (.file (File.ofText true t))
    | _ => new (.file (File.ofText true []))
  | "PosixPath" => do
    let texts ← plain.mapM core.pathText
    newPath (texts.foldl Paths.joined [])
  | "super" => do
    let s ← get
    let scopes := match s.frames with
      | frame :: _ => frame.scopes
      | [] => []
    match plain with
    | owner :: receiver :: _ =>
      new (.record (.kind "super") [("__self__", receiver), ("__after__", owner)])
    | _ =>
      match ← scopeOf? "__class__" scopes, ← scopeOf? "__first__" scopes with
      | some (_, owner), some (_, receiver) =>
        new (.record (.kind "super") [("__self__", receiver), ("__after__", owner)])
      | _, _ => fail "RuntimeError" "super(): no arguments".toList
  | kind =>
    if Kind.isFailure kind then
      let named := arguments.named.filter fun (n, _) => n ≠ "args"
      let system : List (String × Value) := match Kind.isKindOf kind "OSError", plain with
        | true, number :: .text reason :: rest =>
          [("errno", number), ("strerror", .text reason)] ++
            (match rest with
              | name :: _ => [("filename", name)]
              | [] => [])
        | _, _ => []
      new (.record (.kind kind) ([("args", .tuple plain)] ++ system ++ named))
    else new (.record (.kind kind) [("args", .tuple plain)])

/-- Writes values with marks between them and behind them. -/
def print (core : Core) (arguments : Arguments) : Work Value := do
  match arguments.named.find? fun (n, _) => !(["sep", "end", "file", "flush"].contains n) with
  | some (n, _) => refuse ("'" ++ n ++ "' is an invalid keyword argument for print()")
  | none => pure ()
  let mark (name : String) (usual : Text) : Work Text := do
    match arguments.named.lookup name with
    | some (.text t) => return t
    | none | some .nothing => return usual
    | some v => refuse (name ++ " must be None or a string, not " ++ (← kindNameOf v))
  let separator ← mark "sep" [' ']
  let ending ← mark "end" ['\n']
  let texts ← arguments.plain.mapM core.text
  let t := separator.intercalate texts ++ ending
  let target ← match arguments.named.lookup "file" with
    | none | some .nothing => do
      pure ((← memberOfModule? "sys" "stdout").getD .nothing)
    | some v => pure v
  match target with
  | .object address =>
    match ← objectAt address with
    | .file f => do
      writeBytes address (if f.keeps then t else encoded t)
      if ← core.truth ((arguments.named.lookup "flush").getD .nothing) then flush address
      return .nothing
    | _ => do
      let _ ← core.call (← core.member target "write") [.text t] []
      return .nothing
  | _ => return .nothing

/-- The first or last of some values in their order. -/
def extreme (core : Core) (name : String) (arguments : Arguments) : Work Value := do
  let values ← match arguments.plain with
    | [v] => core.items v
    | vs => pure vs
  let key := (arguments.named.lookup "key").getD .nothing
  let keyOf (v : Value) : Work Value := do
    match key with
    | .nothing => return v
    | key => core.call key [v] []
  match values with
  | [] =>
    match arguments.named.lookup "default" with
    | some v => return v
    | none => fail "ValueError" (name ++ "() arg is an empty sequence").toList
  | v :: rest => do
    let start := (v, ← keyOf v)
    let (found, _) ← rest.foldlM (fun (best : Value × Value) v => do
      let k ← keyOf v
      let isBetter ← if name = "min" then core.precedes k best.2 else core.precedes best.2 k
      return if isBetter then (v, k) else best) start
    return found

/-- The next of the values that are still to be walked over. -/
def next (core : Core) (value : Value) (usual : Option Value) : Work Value := do
  let ended : Work Value := do
    match usual with
    | some v => return v
    | none => raise (← newFailure "StopIteration" [])
  match value with
  | .object address =>
    match ← objectAt address with
    | .steps kind (v :: rest) => do
      putObject address (.steps kind rest)
      return v
    | .steps _ [] => ended
    | .file _ =>
      match ← readLine address with
      | .text [] | .bytes [] => ended
      | line => return line
    | _ =>
      match ← attempted (core.special? value "__next__" []) with
      | .ok (some v) => return v
      | .ok none => refuse ("'" ++ (← kindNameOf value) ++ "' object is not an iterator")
      | .error failure =>
        match usual, ← isInstance failure 20 (.kind "StopIteration") with
        | some v, true => return v
        | _, _ => throw (.failure failure)
  | value => refuse ("'" ++ (← kindNameOf value) ++ "' object is not an iterator")

/-- A number rounded to some places. -/
def rounded (core : Core) (value : Value) (places : Option Value) : Work Value := do
  match number? value, places.bind whole? with
  | some (.whole n), some k =>
    if 0 ≤ k then return .integer n
    else
      let unit : Nat := tenTo (-k).toNat
      let q : Int := Double.roundDiv n.natAbs unit
      return .integer (if n < 0 then -(q * unit) else q * unit)
  | some (.whole n), none => return .integer n
  | some (.real x), some k => return .real (Numeric.roundedTo k x)
  | some (.real x), none =>
    if x.isNaN then fail "ValueError" "cannot convert float NaN to integer".toList
    else if x.isInf then fail "OverflowError" "cannot convert float infinity to integer".toList
    else return .integer (Numeric.rounded x)
  | none, _ =>
    match ← core.special? value "__round__" places.toList with
    | some v => return v
    | none => refuse ("type " ++ (← kindNameOf value) ++ " doesn't define __round__ method")

/-- A number that a function on doubles needs. -/
def realArgument (value : Value) : Work Float := do
  match number? value with
  | some n => return n.toFloat
  | none => refuse ("must be real number, not " ++ (← kindNameOf value))

def failDomain {α : Type} : Work α := fail "ValueError" "math domain error".toList

/-- A double that a function gives, which has to be one for the numbers that it is meant for. -/
def checked (x : Float) : Work Value := if x.isNaN then failDomain else return .real x

/-- The largest number whose square is not larger. -/
def wholeRoot (n : Nat) : Nat :=
  let rec go : (fuel low high : Nat) → Nat
    | 0, low, _ => low
    | fuel + 1, low, high =>
      if high ≤ low + 1 then low
      else
        let middle := (low + high) / 2
        if middle * middle ≤ n then go fuel middle high else go fuel low middle
  go (Nat.log2 n + 3) 0 (n + 1)

/-- What a function on numbers gives. -/
def numberFunction (core : Core) (name : String) (arguments : Arguments) : Work Value := do
  let (a, b) := (arguments.first, arguments.second)
  let x : Work Float := realArgument a
  let wholes : Work (List Int) := arguments.plain.mapM fun v => do
    match whole? v with
    | some n => return n
    | none => refuse ("'" ++ (← kindNameOf v) ++ "' object cannot be interpreted as an integer")
  let n : Work Nat := do return ((← wholes).headD 0).toNat
  let product (numbers : List Nat) : Value := ofNat (numbers.foldl (· * ·) 1)
  match name with
  | "floor" | "ceil" | "trunc" => do
    match whole? a with
    | some n => return .integer n
    | none =>
      match Numeric.fraction? (← x) with
      | some (num, den) =>
        return .integer (match name with
          | "floor" => Int.fdiv num den
          | "ceil" => -(Int.fdiv (-num) den)
          | _ => Int.tdiv num den)
      | none => fail "OverflowError" "cannot convert float infinity to integer".toList
  | "sqrt" => checked (Float.sqrt (← x))
  | "isqrt" => return ofNat (wholeRoot (← n))
  | "exp" => return .real (Float.exp (← x))
  | "log" => do
    let x ← x
    if x ≤ 0 then failDomain
    else
      match arguments.plain with
      | [_, b] => return .real (Float.log x / Float.log (← realArgument b))
      | _ => return .real (Float.log x)
  | "log2" => do
    let x ← x
    if x ≤ 0 then failDomain else return .real (Float.log2 x)
  | "log10" => do
    let x ← x
    if x ≤ 0 then failDomain else return .real (Float.log10 x)
  | "pow" => checked (Float.pow (← x) (← realArgument b))
  | "sin" => checked (Float.sin (← x))
  | "cos" => checked (Float.cos (← x))
  | "tan" => checked (Float.tan (← x))
  | "asin" => checked (Float.asin (← x))
  | "acos" => checked (Float.acos (← x))
  | "atan" => return .real (Float.atan (← x))
  | "atan2" => return .real (Float.atan2 (← x) (← realArgument b))
  | "fabs" => return .real (Float.abs (← x))
  | "degrees" => return .real ((← x) * 180 / 3.141592653589793)
  | "radians" => return .real ((← x) * 3.141592653589793 / 180)
  | "fmod" => do
    let (x, y) := (← x, ← realArgument b)
    let rest := (Numeric.divide x.abs y.abs).2
    return .real (if x < 0 then -rest else rest)
  | "copysign" => do
    let (x, y) := (← x, ← realArgument b)
    let isNegative := y.toBits ≥ 0x8000000000000000
    return .real (if isNegative then -x.abs else x.abs)
  | "hypot" => do
    let xs ← arguments.plain.mapM realArgument
    return .real (Float.sqrt (xs.foldl (fun sum x => sum + x * x) 0))
  | "isnan" => return .boolean (← x).isNaN
  | "isinf" => return .boolean (← x).isInf
  | "isfinite" => return .boolean (← x).isFinite
  | "isclose" => do
    let (x, y) := (← x, ← realArgument b)
    let tolerance ← match arguments.named.lookup "rel_tol" with
      | some v => realArgument v
      | none => pure 1e-9
    let least ← match arguments.named.lookup "abs_tol" with
      | some v => realArgument v
      | none => pure 0
    let limit := max (tolerance * max x.abs y.abs) least
    return .boolean (x == y || (x - y).abs ≤ limit)
  | "gcd" => return ofNat ((← wholes).foldl (fun d n => Nat.gcd d n.natAbs) 0)
  | "lcm" => return ofNat ((← wholes).foldl (fun d n => Nat.lcm d n.natAbs) 1)
  | "factorial" => do
    if ((← wholes).headD 0) < 0 then
      fail "ValueError" "factorial() not defined for negative values".toList
    else return product ((List.range (← n)).map (· + 1))
  | "comb" | "perm" => do
    let n ← n
    let k := ((whole? b).getD n).toNat
    if n < k then return .integer 0
    else
      let above := (List.range k).foldl (fun p i => p * (n - i)) 1
      let below := if name = "comb" then (List.range k).foldl (fun p i => p * (i + 1)) 1 else 1
      return ofNat (above / below)
  | "prod" => do
    (← core.items a).foldlM (fun p v => core.operate "*" "*" p v) (.integer 1)
  | "fsum" => do
    let xs ← (← core.items a).mapM realArgument
    return .real (xs.foldl (· + ·) 0)
  | _ => refuseMember (.module "math") name

/-- The clock in seconds. -/
def now : Work Int := return (← get).machine.files.clock.fdiv 1000000000

/-- What a function about time gives. -/
def timeFunction (name : String) (arguments : Arguments) : Work Value := do
  let clock := (← get).machine.files.clock
  match name with
  | "time" => return .real (Numeric.ratio clock 1000000000)
  | "time_ns" => return .integer clock
  | "perf_counter" | "monotonic" | "process_time" =>
    return .real (Numeric.ratio (clock - FileSystem.startTime) 1000000000)
  | "sleep" => do
    match Numeric.fraction? (← realArgument arguments.first) with
    | some (num, den) =>
      if num < 0 then fail "ValueError" "sleep length must be non-negative".toList
      else
        task (do
          Task.moveClock (num.natAbs * 1000000000 / den)
          Task.passTime)
        return .nothing
    | none => fail "ValueError" "Invalid value NaN (not a number)".toList
  | "strftime" =>
    match arguments.first with
    | .text t => return .text (Calendar.formatted (← now) 0 t)
    | _ => return .nothing
  | "ctime" => return .text (Calendar.formatted (← now) 0 "%a %b %e %H:%M:%S %Y".toList)
  | _ => refuseMember (.module "time") name

/-- A number below one without an order that can be seen. -/
def nextRandom : Work Float := do
  let next := (← get).random * 6364136223846793005 + 1442695040888963407
  modify fun s => { s with random := next }
  return (next >>> 11).toNat.toFloat / 9007199254740992.0

def randomBelow (n : Nat) : Work Nat := do
  return ((Numeric.truncated? ((← nextRandom) * n.toFloat)).getD 0).toNat

/-- Values in another order. -/
def shuffled : (fuel : Nat) → List Value → Work (List Value)
  | 0, values => return values
  | _ + 1, [] => return []
  | fuel + 1, values => do
    let n ← randomBelow values.length
    return values.getD n .nothing :: (← shuffled fuel (values.eraseIdx n))

/-- What a function of chance gives. -/
def chanceFunction (core : Core) (name : String) (arguments : Arguments) : Work Value := do
  let whole (place : Nat) : Int := ((arguments.plain[place]?).bind whole?).getD 0
  match name with
  | "random" => return .real (← nextRandom)
  | "seed" => do
    modify fun s => { s with random := UInt64.ofNat (whole 0).natAbs }
    return .nothing
  | "randint" => return .integer (whole 0 + (← randomBelow (whole 1 - whole 0 + 1).toNat))
  | "randrange" =>
    let (low, high) := if arguments.plain.length < 2 then (0, whole 0) else (whole 0, whole 1)
    return .integer (low + (← randomBelow (high - low).toNat))
  | "uniform" => do
    let (x, y) := (← realArgument arguments.first, ← realArgument arguments.second)
    return .real (x + (y - x) * (← nextRandom))
  | "choice" => do
    let values ← core.items arguments.first
    if values.isEmpty then fail "IndexError" "Cannot choose from an empty sequence".toList
    else return values.getD (← randomBelow values.length) .nothing
  | "shuffle" => do
    let values ← core.items arguments.first
    match arguments.first with
    | .object address => putObject address (.list "list" (← shuffled values.length values).toArray)
    | _ => pure ()
    return .nothing
  | "sample" => do
    let values ← core.items arguments.first
    newList ((← shuffled values.length values).take (whole 1).toNat)
  | _ => refuseMember (.module "random") name

/-- A copy of a value, with copies of what is inside it down to some depth. -/
def copied : (depth : Nat) → Value → Work Value
  | 0, value => return value
  | depth + 1, value => do
    match value with
    | .tuple items => return .tuple (← items.mapM (copied depth))
    | .object address =>
      match ← objectAt address with
      | .list kind items => new (.list kind (← items.toList.mapM (copied depth)).toArray)
      | .set kind items => new (.set kind items)
      | .table kind usual entries => do
        let entries ← entries.toList.mapM fun (k, v) => do return (k, ← copied depth v)
        new (.table kind usual entries.toArray)
      | .record kind members => do
        let members ← members.mapM fun (n, v) => do return (n, ← copied depth v)
        new (.record kind members)
      | _ => return value
    | value => return value

/-- The words of a text as a shell splits them. -/
def shellWords : (fuel : Nat) → (word : Option Text) → (quote : Option Char) → Text → Except String (List Text)
  | 0, _, _, _ => .ok []
  | _ + 1, word, quote, [] =>
    if quote.isSome then .error "No closing quotation" else .ok ((word.map List.reverse).toList)
  | fuel + 1, word, quote, c :: rest =>
    let add (d : Char) : Option Text := some (d :: word.getD [])
    match quote with
    | some q =>
      if c = q then shellWords fuel (some (word.getD [])) none rest
      else if c = '\\' && q = '"' then
        match rest with
        | d :: more =>
          if d = '"' || d = '\\' then shellWords fuel (add d) quote more
          else shellWords fuel (some (d :: c :: word.getD [])) quote more
        | [] => .error "No escaped character"
      else shellWords fuel (add c) quote rest
    | none =>
      if c = '\'' || c = '"' then shellWords fuel (some (word.getD [])) (some c) rest
      else if c = '\\' then
        match rest with
        | d :: more => shellWords fuel (add d) none more
        | [] => .error "No escaped character"
      else if Numeric.isSpace c then
        match word with
        | some w => (shellWords fuel none none rest).map (w.reverse :: ·)
        | none => shellWords fuel none none rest
      else shellWords fuel (add c) none rest

/-- A text as one word of the shell. -/
def shellQuoted (t : Text) : Text :=
  let isSafe (c : Char) : Bool := (c.isAlphanum && c.toNat < 128) || "_@%+=:,./-".toList.contains c
  if t.isEmpty then "''".toList
  else if t.all isSafe then t
  else '\'' :: t.flatMap (fun c => if c = '\'' then "'\"'\"'".toList else [c]) ++ ['\'']

/-- Lines without the blanks that all of them begin with. -/
def dedented (t : Text) : Text :=
  let lines := t.splitOn '\n'
  let isBlank (line : Text) : Bool := line.all Numeric.isSpace
  let margins := (lines.filter fun l => !isBlank l).map fun l => l.takeWhile fun c => c = ' ' || c = '\t'
  let common (a b : Text) : Text := ((a.zip b).takeWhile fun (x, y) => x = y).map (·.1)
  let margin := match margins with
    | [] => []
    | first :: rest => rest.foldl common first
  ['\n'].intercalate (lines.map fun l => if isBlank l then [] else l.drop margin.length)

/-- Whether a pattern for names matches a whole text. -/
def fitsPattern (pattern t : Text) : Bool :=
  Pattern.isMatch (Pattern.ofChars (Glyph.pattern (Glyph.ofText false pattern))) t

/-- What a function of a small module gives. -/
def smallFunction (core : Core) (module name : String) (arguments : Arguments) : Work Value := do
  let first := arguments.first
  match module, name with
  | "copy", "copy" => copied 1 first
  | "copy", _ => copied 50 first
  | "glob", _ => do newList ((← matching (← core.pathText first)).map .text)
  | "fnmatch", "filter" => do
    let pattern ← core.pathText arguments.second
    newList (← (← core.items first).filterM fun v => do
      return fitsPattern pattern (← core.pathText v))
  | "fnmatch", _ => do
    return .boolean (fitsPattern (← core.pathText arguments.second) (← core.pathText first))
  | "textwrap", "dedent" => return .text (dedented (← core.text first))
  | "textwrap", _ => do
    let mark ← core.text arguments.second
    let lines := Letters.lines true ((← core.text first).length + 1) [] (← core.text first)
    return .text (lines.flatMap fun l => if l.all Numeric.isSpace then l else mark ++ l)
  | "shlex", "split" => do
    let t ← core.text first
    match shellWords (t.length + 1) none none t with
    | .ok words => newList (words.map .text)
    | .error message => fail "ValueError" message.toList
  | "shlex", "quote" => return .text (shellQuoted (← core.text first))
  | "shlex", _ => do
    let words ← (← core.items first).mapM core.text
    return .text ([' '].intercalate (words.map shellQuoted))
  | "traceback", _ => do
    let t ← match (← get).handling.head? with
      | some failure => core.report 20 failure
      | none => pure "NoneType: None\n".toList
    if name = "format_exc" then return .text t
    else
      complain t
      return .nothing
  | "platform", _ =>
    return .text (match name with
      | "system" => "Linux"
      | "machine" => "x86_64"
      | "node" => "localhost"
      | _ => "3.11.2").toList
  | "getpass", _ => return .text "root".toList
  | "socket", _ => return .text "localhost".toList
  | "signal", _ => return .integer 0
  | "atexit", _ => do
    modify fun s => { s with finals := (first, arguments.plain.drop 1) :: s.finals }
    return first
  | "typing", "cast" => return arguments.second
  | "contextlib", _ => new (.record (.kind "suppress") [("__kinds__", .tuple arguments.plain)])
  | _, _ => refuseMember (.module module) name

/-- What a function of the interpreter's own module gives. -/
def interpreterFunction (name : String) (arguments : Arguments) : Work Value := do
  match name with
  | "exit" => raise (← newFailure "SystemExit" arguments.plain)
  | "getrecursionlimit" => return .integer 1000
  | "exc_info" =>
    match (← get).handling.head? with
    | some failure => return .tuple [← kindOf failure, failure, .nothing]
    | none => return .tuple [.nothing, .nothing, .nothing]
  | "getdefaultencoding" | "getfilesystemencoding" => return .text "utf-8".toList
  | "intern" => return arguments.first
  | _ => return .nothing

end KDispatch.Shell.Indented.Core
