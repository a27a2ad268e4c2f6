import KDispatch.Shell.Indented.Member

/-!
Functions that combine the values that others give one by one, and functions that are made from other ones.
-/

namespace KDispatch.Shell.Indented.Core

open Work

/-- How many values are taken of those that have no end. -/
def manyItems : Nat := 10000

def newSteps (kind : String) (items : List Value) : Work Value := new (.steps kind items)

/-- All ways to take one value from each list. -/
def products : List (List Value) → List (List Value)
  | [] => [[]]
  | first :: rest => first.flatMap fun v => (products rest).map (v :: ·)

/-- All ways to take some values in their order. -/
def choices : (count : Nat) → List Value → List (List Value)
  | 0, _ => [[]]
  | _ + 1, [] => []
  | count + 1, v :: rest => (choices count rest).map (v :: ·) ++ choices (count + 1) rest

/-- All ways to take some values in their order, each as often as wanted. -/
def repeatedChoices : (fuel count : Nat) → List Value → List (List Value)
  | 0, _, _ => []
  | _ + 1, 0, _ => [[]]
  | _ + 1, _ + 1, [] => []
  | fuel + 1, count + 1, v :: rest =>
    (repeatedChoices fuel count (v :: rest)).map (v :: ·) ++ repeatedChoices fuel (count + 1) rest

/-- All orders of some of the values. -/
def arrangements : (count : Nat) → List Value → List (List Value)
  | 0, _ => [[]]
  | count + 1, values =>
    (List.range values.length).flatMap fun n =>
      (arrangements count (values.eraseIdx n)).map (values.getD n .nothing :: ·)

/-- Lists turned so that what stands at the same place comes together, up to the end of the shortest one. -/
def zipped (lists : List (List Value)) : List (List Value) :=
  match lists with
  | [] => []
  | first :: rest =>
    let size := rest.foldl (fun n l => min n l.length) first.length
    (List.range size).map fun n => lists.map fun l => l.getD n .nothing

/-- What a function makes of the values so far and each further one. -/
def folded (core : Core) (function : Value) : Value → List Value → Work Value
  | value, [] => return value
  | value, v :: rest => do folded core function (← core.call function [value, v] []) rest

def accumulated (core : Core) (function : Option Value) : Value → List Value → Work (List Value)
  | _, [] => return []
  | value, v :: rest => do
    let next ← match function with
      | some function => core.call function [value, v] []
      | none => core.operate "+" "+" value v
    return next :: (← accumulated core function next rest)

/-- Values with the same key that stand next to each other. -/
def grouped (core : Core) (key : Value) : (fuel : Nat) → List Value → Work (List Value)
  | 0, _ => return []
  | _ + 1, [] => return []
  | fuel + 1, v :: rest => do
    let keyOf (v : Value) : Work Value := do
      match key with
      | .nothing => return v
      | key => core.call key [v] []
    let first ← keyOf v
    let rec same : List Value → Work (List Value)
      | [] => return []
      | w :: rest => do
        if ← core.equal (← keyOf w) first then return w :: (← same rest) else return []
    let more ← same rest
    let group ← newSteps "itertools._grouper" (v :: more)
    return .tuple [first, group] :: (← grouped core key fuel (rest.drop more.length))

/-- How many values at the start of a list a function holds for. -/
def leadingCount (core : Core) (function : Value) : List Value → Work Nat
  | [] => return 0
  | v :: rest => do
    if ← core.truth (← core.call function [v] []) then return (← leadingCount core function rest) + 1
    else return 0

def tuples (items : List (List Value)) : List Value := items.map .tuple

/-- What a function that combines values gives. -/
def iterationFunction (core : Core) (name : String) (arguments : Arguments) : Work Value := do
  let plain := arguments.plain
  let give (items : List Value) : Work Value := newSteps ("itertools." ++ name) items
  let whole (place : Nat) (name : String) (usual : Int) : Int := arguments.whole place name usual
  match name with
  | "chain" => do
    let lists ← plain.mapM core.items
    give lists.flatten
  | "chain.from_iterable" => do
    let lists ← (← core.items arguments.first).mapM core.items
    newSteps "itertools.chain" lists.flatten
  | "product" => do
    let lists ← plain.mapM core.items
    let count := ((arguments.named.lookup "repeat").bind whole?).getD 1
    give (tuples (products (repeated count lists)))
  | "permutations" => do
    let values ← core.items arguments.first
    give (tuples (arrangements (whole 1 "r" values.length).toNat values))
  | "combinations" => do give (tuples (choices (whole 1 "r" 0).toNat (← core.items arguments.first)))
  | "combinations_with_replacement" => do
    let values ← core.items arguments.first
    let count := (whole 1 "r" 0).toNat
    give (tuples (repeatedChoices (values.length + count + 1) count values))
  | "count" => do
    let (start, step) := (whole 0 "start" 0, whole 1 "step" 1)
    give ((List.range manyItems).map fun (n : Nat) => .integer (start + step * (n : Int)))
  | "cycle" => do
    let values ← core.items arguments.first
    let n := if values.isEmpty then 0 else manyItems / values.length + 1
    give (repeated n values)
  | "repeat" => give (List.replicate (whole 1 "times" manyItems).toNat arguments.first)
  | "islice" => do
    let values ← core.items arguments.first
    let (first, last, step) ← match plain.drop 1 with
      | [last] => pure (.nothing, last, .nothing)
      | [first, last] => pure (first, last, .nothing)
      | [first, last, step] => pure (first, last, step)
      | _ => pure (.nothing, .nothing, .nothing)
    give (itemsAt values.toArray (← sliceOf values.length first last step))
  | "groupby" => do
    let values ← core.items arguments.first
    give (← core.grouped ((arguments.at? 1 "key").getD .nothing) (values.length + 1) values)
  | "zip_longest" => do
    let lists ← plain.mapM core.items
    let fill := (arguments.named.lookup "fillvalue").getD .nothing
    let size := lists.foldl (fun n l => max n l.length) 0
    give (tuples (zipped (lists.map fun l => l ++ List.replicate (size - l.length) fill)))
  | "accumulate" => do
    match ← core.items arguments.first with
    | [] => give []
    | v :: rest => give (v :: (← core.accumulated (arguments.at? 1 "func") v rest))
  | "takewhile" | "dropwhile" => do
    let values ← core.items arguments.second
    let n ← core.leadingCount arguments.first values
    give (if name = "takewhile" then values.take n else values.drop n)
  | "starmap" => do
    give (← (← core.items arguments.second).mapM fun v => do
      core.call arguments.first (← core.items v) [])
  | "filterfalse" => do
    give (← (← core.items arguments.second).filterM fun v => do
      return !(← core.truth (← core.call arguments.first [v] [])))
  | "pairwise" => do
    let values ← core.items arguments.first
    give (tuples (zipped [values, values.drop 1]))
  | _ => refuseMember (.module "itertools") name

/-- A value with others around it that a function has been made with. -/
def newWrapped (kind : String) (members : List (String × Value)) : Work Value :=
  new (.record (.kind kind) members)

/-- What a function that makes functions gives. -/
def functionFunction (core : Core) (name : String) (arguments : Arguments) : Work Value := do
  match name with
  | "reduce" => do
    match (← core.items arguments.second), arguments.plain.drop 2 with
    | values, start :: _ => core.folded arguments.first start values
    | v :: rest, [] => core.folded arguments.first v rest
    | [], [] => refuse "reduce() of empty iterable with no initial value"
  | "partial" =>
    newWrapped "partial" [("func", arguments.first), ("__plain__", .tuple (arguments.plain.drop 1)),
      ("__named__", ← newTable (arguments.named.map fun (n, v) => (.text n.toList, v)))]
  | "lru_cache" | "cache" =>
    match arguments.first with
    | .object function =>
      newWrapped "cached" [("__wrapped__", .object function), ("__known__", ← newTable [])]
    | _ => return .builtin "functools.cache"
  | "wraps" => return .builtin "identity"
  | _ => return arguments.first

/-- The value of a member that a path of names leads to. -/
def memberAlong (core : Core) : Value → List Text → Work Value
  | value, [] => return value
  | value, name :: rest => do memberAlong core (← core.member value (String.ofList name)) rest

/-- What a function that stands for an operator gives. -/
def operatorFunction (core : Core) (name : String) (arguments : Arguments) : Work Value := do
  let (a, b) := (arguments.first, arguments.second)
  match name with
  | "itemgetter" => newWrapped "itemgetter" [("__items__", .tuple arguments.plain)]
  | "attrgetter" => newWrapped "attrgetter" [("__items__", .tuple arguments.plain)]
  | "add" => core.operate "+" "+" a b
  | "sub" => core.operate "-" "-" a b
  | "mul" => core.operate "*" "*" a b
  | "eq" => core.compared "==" a b
  | "lt" => core.compared "<" a b
  | "gt" => core.compared ">" a b
  | "not_" => return .boolean (!(← core.truth a))
  | _ => core.operateOn "-" a

/-- What an object that stands for a function gives when it is called. -/
def callWrapped (core : Core) (kind : String) (members : List (String × Value)) (plain : List Value)
    (named : List (String × Value)) : Work Value := do
  let items := tupleItems ((members.lookup "__items__").getD .nothing)
  let first := plain.headD .nothing
  let oneOrAll (values : List Value) : Value :=
    match values with
    | [v] => v
    | vs => .tuple vs
  match kind with
  | "itemgetter" => return oneOrAll (← items.mapM fun index => core.subscript first index)
  | "attrgetter" =>
    return oneOrAll (← items.mapM fun name => do
      match name with
      | .text t => core.memberAlong first (t.splitOn '.')
      | _ => return .nothing)
  | "partial" => do
    let kept ← match members.lookup "__named__" with
      | some (.object table) => do
        pure ((← entriesAt table).toList.filterMap fun (k, v) =>
          match k with
          | .text t => some (String.ofList t, v)
          | _ => none)
      | _ => pure []
    let before := tupleItems ((members.lookup "__plain__").getD .nothing)
    let kept := kept.filter fun (n, _) => (named.lookup n).isNone
    core.call ((members.lookup "func").getD .nothing) (before ++ plain) (kept ++ named)
  | "cached" =>
    match members.lookup "__known__" with
    | some (.object table) => do
      let key := Value.tuple (plain ++ named.map fun (n, v) => .tuple [.text n.toList, v])
      match ← core.entryPlace? key (← entriesAt table) with
      | some place => return ((← entriesAt table).getD place default).2
      | none => do
        let v ← core.call ((members.lookup "__wrapped__").getD .nothing) plain named
        core.putEntry table key v
        return v
    | _ => return .nothing
  | kind => refuse ("'" ++ kind ++ "' object is not callable")

/-- What a function on sorted lists gives. -/
def heapFunction (core : Core) (name : String) (arguments : Arguments) : Work Value := do
  let sortedItems (v : Value) : Work (List Value) := do core.sortedBy .nothing false (← core.items v)
  let put (v : Value) (items : List Value) : Work Unit := do
    match v with
    | .object address => putObject address (.list "list" items.toArray)
    | _ => return
  match name with
  | "heappush" | "insort" => do
    let items ← core.sortedBy .nothing false ((← core.items arguments.first) ++ [arguments.second])
    put arguments.first items
    return .nothing
  | "heapify" => do
    put arguments.first (← sortedItems arguments.first)
    return .nothing
  | "heappop" => do
    match ← sortedItems arguments.first with
    | v :: rest => do
      put arguments.first rest
      return v
    | [] => fail "IndexError" "index out of range".toList
  | "nsmallest" | "nlargest" => do
    let key := (arguments.named.lookup "key").getD .nothing
    let items ← core.sortedBy key (name = "nlargest") (← core.items arguments.second)
    newList (items.take (arguments.whole 0 "n" 0).toNat)
  | _ => do
    let items ← core.items arguments.first
    let isBefore (v : Value) : Work Bool := do
      if name = "bisect_left" then core.precedes v arguments.second
      else return !(← core.precedes arguments.second v)
    return ofNat (← items.filterM isBefore).length

end KDispatch.Shell.Indented.Core

/-! ## Failures

What is told about a failure that nothing has been done about: the places that it has come from, and its kind
with its text.
-/

namespace KDispatch.Shell.Indented

namespace Traceback

/-- The marks below a line that show which part of it has failed. There are none if that is all of the line. -/
def marks (source : Text) (span : Span) : Option Text :=
  let blanks := (source.takeWhile Numeric.isSpace).length
  let stripped := Numeric.stripped source
  let stop := span.last.getD (blanks + stripped.length)
  if span.last.isNone && span.first = 0 then none
  else if span.first ≤ blanks && blanks + stripped.length ≤ stop && span.mark.isNone then none
  else
    let place (n : Nat) : Char :=
      match span.mark with
      | some (first, last) => if first ≤ n && n < last then '^' else '~'
      | none => '^'
    let before := List.replicate (span.first - blanks) ' '
    let shown := (List.range (stop - span.first)).map fun n => place (span.first + n)
    some (before ++ shown)

/-- The lines for a place. -/
def placeText (file : Text) (lines : Array Text) (name : String) (span : Span) : Text :=
  let start := "  File \"".toList ++ file ++ "\", line ".toList ++ (toString span.line).toList ++ ", in ".toList ++
    name.toList ++ ['\n']
  match lines[span.line - 1]? with
  | some source =>
    let stripped := Numeric.stripped source
    if stripped.isEmpty then start
    else
      let below := match marks source span with
        | some t => "    ".toList ++ t ++ ['\n']
        | none => []
      start ++ "    ".toList ++ stripped ++ '\n' :: below
  | none => start

/-- The lines for places; of those that come again and again only the first ones are shown. -/
def placesText (file : Text) (lines : Array Text) : (last : Option (String × Nat)) → (count : Nat) →
    List (String × Span) → Text
  | _, count, [] => repeats count
  | last, count, (name, span) :: rest =>
    if last = some (name, span.line) then
      if 3 ≤ count then placesText file lines last (count + 1) rest
      else placeText file lines name span ++ placesText file lines last (count + 1) rest
    else
      repeats count ++ placeText file lines name span ++ placesText file lines (some (name, span.line)) 1 rest
where
  /-- Tells how often a place has come again. -/
  repeats (count : Nat) : Text :=
    if 3 < count then
      "  [Previous line repeated ".toList ++ (toString (count - 3)).toList ++
        (if count = 4 then " more time]\n" else " more times]\n").toList
    else []

end Traceback

namespace Kind

/-- The name of a kind of failures with the module that it belongs to. -/
def fullName (name : String) : String :=
  match name with
  | "JSONDecodeError" => "json.decoder.JSONDecodeError"
  | "CalledProcessError" => "subprocess.CalledProcessError"
  | "TimeoutExpired" => "subprocess.TimeoutExpired"
  | "error" => "re.error"
  | "UnsupportedOperation" => "io.UnsupportedOperation"
  | name => name

end Kind

namespace Core

open Work

/-- The line that tells the kind of a failure and its text. -/
def failureLine (core : Core) (value : Value) : Work Text := do
  let kind ← kindOf value
  let name := match kind with
    | .kind name => Kind.fullName name
    | _ => ""
  let name ← if name.isEmpty then kindName kind else pure name
  let t ← core.text value
  return name.toList ++ (if t.isEmpty then [] else ": ".toList ++ t) ++ ['\n']

/-- All that is told about a failure, with the failures that have led to it. -/
def report (core : Core) : (fuel : Nat) → Value → Work Text
  | 0, _ => return []
  | fuel + 1, value => do
    match value with
    | .object address => do
      let s ← get
      let places := (s.traces.lookup address).getD []
      let members ← match ← objectAt address with
        | .record _ members => pure members
        | _ => pure []
      let before ← match members.lookup "__cause__", members.lookup "__context__" with
        | some (.object cause), _ => do
          pure ((← report core fuel (.object cause)) ++
            "\nThe above exception was the direct cause of the following exception:\n\n".toList)
        | some .nothing, _ => pure []
        | _, some (.object cause) => do
          pure ((← report core fuel (.object cause)) ++
            "\nDuring handling of the above exception, another exception occurred:\n\n".toList)
        | _, _ => pure []
      let start := if places.isEmpty then []
        else "Traceback (most recent call last):\n".toList ++ Traceback.placesText s.file s.lines none 0 places
      return before ++ start ++ (← core.failureLine value)
    | value => core.failureLine value

end Core

end KDispatch.Shell.Indented
