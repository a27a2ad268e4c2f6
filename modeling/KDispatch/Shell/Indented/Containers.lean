import KDispatch.Shell.Indented.Texts

/-!
What can be done with lists, tables, sets, numbers and files.
-/

namespace KDispatch.Shell.Indented.Core

open Work

/-- A function that a value does not have. -/
def refuseMember {α : Type} (value : Value) (name : String) : Work α := do
  let kind ← match value with
    | .kind k => pure ("type object '" ++ k ++ "'")
    | .module m => pure ("module '" ++ m ++ "'")
    | value => pure ("'" ++ (← kindNameOf value) ++ "' object")
  let kind ← match value with
    | .object address =>
      match ← objectAt address with
      | .classes own _ _ => pure ("type object '" ++ own ++ "'")
      | _ => pure kind
    | _ => pure kind
  fail "AttributeError" (kind ++ " has no attribute '" ++ name ++ "'").toList

def ofBool (b : Bool) : Work Value := return .boolean b

def ofNat (n : Nat) : Value := .integer (n : Int)

/-- The place of a value among others. -/
def placeAmong? (core : Core) (value : Value) : (place : Nat) → List Value → Work (Option Nat)
  | _, [] => return none
  | place, v :: rest => do
    if ← core.equal v value then return some place else placeAmong? core value (place + 1) rest

/-- A place where something is put in. -/
def insertPlace (size : Nat) (n : Int) : Nat := (max 0 (min (size : Int) (if n < 0 then n + size else n))).toNat

/-- What a method of a list gives. -/
def listMethod (core : Core) (address : Nat) (kind : String) (items : Array Value) (name : String)
    (arguments : Arguments) : Work Value := do
  let put (items : List Value) : Work Value := do
    putObject address (.list kind items.toArray)
    return .nothing
  match name with
  | "append" | "put" =>
    putObject address (.list kind (items.push arguments.first))
    return .nothing
  | "appendleft" => put (arguments.first :: items.toList)
  | "extend" => do
    let new ← core.items arguments.first
    putObject address (.list kind (items ++ new.toArray))
    return .nothing
  | "extendleft" => put ((← core.items arguments.first).reverse ++ items.toList)
  | "insert" => do
    let place := insertPlace items.size (← indexOf "list" arguments.first)
    put (items.toList.take place ++ arguments.second :: items.toList.drop place)
  | "remove" =>
    match ← core.placeAmong? arguments.first 0 items.toList with
    | some place => put (items.toList.eraseIdx place)
    | none => fail "ValueError" ("list.remove(x): x not in list").toList
  | "popleft" | "pop" | "get" =>
    if items.isEmpty then
      fail "IndexError" (if kind = "deque" then "pop from an empty deque" else "pop from empty list").toList
    else
      let index ← match arguments.plain with
        | [] => pure (if name = "popleft" || name = "get" then 0 else -1)
        | v :: _ => indexOf "list" v
      match placeIn? items.size index with
      | some place =>
        let v := items.getD place .nothing
        if place + 1 = items.size then putObject address (.list kind items.pop)
        else let _ ← put (items.toList.eraseIdx place)
        return v
      | none => fail "IndexError" "pop index out of range".toList
  | "clear" => put []
  | "index" =>
    let low := insertPlace items.size (arguments.whole 1 "start" 0)
    match ← core.placeAmong? arguments.first low (items.toList.drop low) with
    | some place => return ofNat place
    | none => fail "ValueError" ((← core.spell arguments.first) ++ " is not in list".toList)
  | "count" => do
    let found ← items.toList.filterM fun v => core.equal v arguments.first
    return ofNat found.length
  | "sort" => do
    let key := (arguments.named.lookup "key").getD .nothing
    let reversed ← core.truth ((arguments.named.lookup "reverse").getD .nothing)
    put (← core.sortedBy key reversed items.toList)
  | "reverse" => put items.toList.reverse
  | "rotate" =>
    let n := (Int.emod (arguments.whole 0 "n" 1) (max items.size 1)).toNat
    put (items.toList.drop (items.size - n) ++ items.toList.take (items.size - n))
  | "copy" => new (.list kind items)
  | "__len__" => return ofNat items.size
  | "__contains__" => return .boolean (← core.isAmong arguments.first items.toList)
  | "__getitem__" => core.subscript (.object address) arguments.first
  | _ => refuseMember (.object address) name

/-- The entries that a value gives to a table. -/
def entriesFrom (core : Core) (value : Value) : Work (List (Value × Value)) := do
  let pairs (items : List Value) : Work (List (Value × Value)) :=
    items.mapM fun item => do
      match ← core.items item with
      | [k, v] => return (k, v)
      | _ => fail "ValueError" "dictionary update sequence element #0 has length 1; 2 is required".toList
  match value with
  | .object address =>
    match ← objectAt address with
    | .table _ _ entries => return entries.toList
    | _ => pairs (← core.items value)
  | value => pairs (← core.items value)

/-- Entries with those for names at their end. -/
def withNamed (core : Core) (entries : Array (Value × Value)) (named : List (String × Value)) :
    Work (Array (Value × Value)) :=
  named.foldlM (fun entries (name, value) => core.withEntry (.text name.toList) value entries) entries

/-- Entries that count items. -/
def withCounts (core : Core) (entries : Array (Value × Value)) (items : List (Value × Int)) :
    Work (Array (Value × Value)) :=
  items.foldlM (fun entries (item, n) => do
    match ← core.entryPlace? item entries with
    | some place =>
      let old := (whole? (entries.getD place default).2).getD 0
      core.withEntry item (.integer (old + n)) entries
    | none => return entries.push (item, .integer n)) entries

/-- How often the items of a value count. -/
def countsOf (core : Core) (value : Value) : Work (List (Value × Int)) := do
  match value with
  | .object address =>
    match ← objectAt address with
    | .table _ _ entries => return entries.toList.map fun (k, v) => (k, (whole? v).getD 0)
    | _ => return (← core.items value).map fun v => (v, 1)
  | value => return (← core.items value).map fun v => (v, 1)

/-- What a method of a table gives. -/
def tableMethod (core : Core) (address : Nat) (kind : String) (usual : Value) (entries : Array (Value × Value))
    (name : String) (arguments : Arguments) : Work Value := do
  let put (entries : Array (Value × Value)) : Work Unit := putObject address (.table kind usual entries)
  match name with
  | "get" =>
    match ← core.entryPlace? arguments.first entries with
    | some place => return (entries.getD place default).2
    | none => return (arguments.at? 1 "default").getD .nothing
  | "keys" => new (.list "dict_keys" (entries.map (·.1)))
  | "values" => new (.list "dict_values" (entries.map (·.2)))
  | "items" => new (.list "dict_items" (entries.map fun (k, v) => .tuple [k, v]))
  | "pop" =>
    match ← core.entryPlace? arguments.first entries with
    | some place => do
      core.eraseSubscript (.object address) arguments.first
      return (entries.getD place default).2
    | none =>
      match arguments.plain with
      | _ :: v :: _ => return v
      | _ => raise (← newFailure "KeyError" [arguments.first])
  | "popitem" =>
    match entries.back? with
    | some (k, v) => do
      put entries.pop
      return .tuple [k, v]
    | none => raise (← newFailure "KeyError" [.text "popitem(): dictionary is empty".toList])
  | "setdefault" =>
    match ← core.entryPlace? arguments.first entries with
    | some place => return (entries.getD place default).2
    | none => do
      core.putSubscript (.object address) arguments.first arguments.second
      return arguments.second
  | "update" | "subtract" => do
    if kind = "Counter" then
      let counts ← match arguments.plain with
        | v :: _ => core.countsOf v
        | [] => pure []
      let sign : Int := if name = "update" then 1 else -1
      put (← core.withCounts entries (counts.map fun (v, n) => (v, sign * n)))
    else
      let new ← match arguments.plain with
        | v :: _ => core.entriesFrom v
        | [] => pure []
      let named := arguments.named.map fun (n, v) => (Value.text n.toList, v)
      for (k, v) in new ++ named do core.putSubscript (.object address) k v
    return .nothing
  | "clear" => do
    put #[]
    return .nothing
  | "copy" => new (.table (if kind = "environ" then "dict" else kind) usual entries)
  | "most_common" => do
    let keyed := entries.toList.map fun (k, v) => (v, Value.tuple [k, v])
    let found := (← core.sorted (entries.size + 1) keyed.reverse).reverse.map (·.2)
    let found := match arguments.plain with
      | .integer n :: _ => found.take n.toNat
      | _ => found
    newList found
  | "elements" =>
    newList (entries.toList.flatMap fun (k, v) => List.replicate ((whole? v).getD 0).toNat k)
  | "total" => return .integer (entries.foldl (fun n (_, v) => n + (whole? v).getD 0) 0)
  | "move_to_end" =>
    match ← core.entryPlace? arguments.first entries with
    | some place => do
      let entry := entries.getD place default
      let rest := entries.toList.eraseIdx place
      let last ← core.truth ((arguments.at? 1 "last").getD (.boolean true))
      put (if last then rest ++ [entry] else entry :: rest).toArray
      return .nothing
    | none => raise (← newFailure "KeyError" [arguments.first])
  | "fromkeys" => do
    let keys ← core.items arguments.first
    let entries ← keys.foldlM (fun entries k => core.withEntry k arguments.second entries) #[]
    new (.table "dict" .nothing entries)
  | "__len__" => return ofNat entries.size
  | "__contains__" => return .boolean (← core.entryPlace? arguments.first entries).isSome
  | "__getitem__" => core.subscript (.object address) arguments.first
  | _ => refuseMember (.object address) name

/-- What a method of a set gives. -/
def setMethod (core : Core) (address : Nat) (kind : String) (items : Array Value) (name : String)
    (arguments : Arguments) : Work Value := do
  let put (items : Array Value) : Work Value := do
    putObject address (.set kind items)
    return .nothing
  let others : Work (List Value) := do
    let found ← arguments.plain.mapM core.items
    return found.flatten
  let combined (operator : String) : Work (List Value) :=
    arguments.plain.foldlM (fun items other => do
      match core.operateSets? operator items (← core.items other) with
      | some work => work
      | none => return items) items.toList
  match name with
  | "add" => put (← core.withItems items [arguments.first])
  | "remove" | "discard" =>
    match ← core.placeAmong? arguments.first 0 items.toList with
    | some place => put (items.toList.eraseIdx place).toArray
    | none =>
      if name = "discard" then return .nothing else raise (← newFailure "KeyError" [arguments.first])
  | "pop" =>
    match setOrder items with
    | v :: rest => do
      let _ ← put rest.toArray
      return v
    | [] => raise (← newFailure "KeyError" [.text "pop from an empty set".toList])
  | "clear" => put #[]
  | "copy" => new (.set kind items)
  | "update" => put (← core.withItems items (← others))
  | "union" => core.newSet kind (items.toList ++ (← others))
  | "intersection" => core.newSet kind (← combined "&")
  | "difference" => core.newSet kind (← combined "-")
  | "symmetric_difference" => core.newSet kind (← combined "^")
  | "intersection_update" => put (← combined "&").toArray
  | "difference_update" => put (← combined "-").toArray
  | "issubset" => do
    let other ← others
    ofBool (← items.toList.allM fun v => core.isAmong v other)
  | "issuperset" => ofBool (← (← others).allM fun v => core.isAmong v items.toList)
  | "isdisjoint" => do
    let other ← others
    ofBool (!(← items.toList.anyM fun v => core.isAmong v other))
  | "__len__" => return ofNat items.size
  | "__contains__" => return .boolean (← core.isAmong arguments.first items.toList)
  | _ => refuseMember (.object address) name

/-- What a method of a file gives. -/
def fileMethod (core : Core) (address : Nat) (name : String) (arguments : Arguments) : Work Value := do
  let f ← fileAt address
  let count : Option Nat := match arguments.first with
    | .integer n => if n < 0 then none else some n.toNat
    | _ => none
  match name with
  | "read" => readAll address count
  | "readline" => readLine address
  | "readlines" => newList (← restLines address)
  | "write" =>
    match arguments.first, f.isBinary with
    | .text t, false => do
      writeBytes address (if f.keeps then t else encoded t)
      return ofNat t.length
    | .bytes t, true => do
      writeBytes address t
      return ofNat t.length
    | v, false => refuse ("write() argument must be str, not " ++ (← kindNameOf v))
    | v, true => refuse ("a bytes-like object is required, not '" ++ (← kindNameOf v) ++ "'")
  | "writelines" => do
    for item in ← core.items arguments.first do
      match item with
      | .text t => writeBytes address (if f.keeps then t else encoded t)
      | .bytes t => writeBytes address t
      | v => refuse ("write() argument must be str, not " ++ (← kindNameOf v))
    return .nothing
  | "close" => do
    closeFile address
    return .nothing
  | "flush" => do
    checkOpen f
    flush address
    return .nothing
  | "getvalue" => return if f.isBinary then .bytes f.unwritten.reverse else .text f.unwritten.reverse
  | "fileno" =>
    match String.ofList f.name with
    | "<stdin>" => return .integer 0
    | "<stdout>" => return .integer 1
    | "<stderr>" => return .integer 2
    | _ => return .integer 3
  | "isatty" => return .boolean false
  | "readable" => return .boolean f.reads
  | "writable" => return .boolean f.writes
  | "seekable" => return .boolean true
  | "reconfigure" => return .nothing
  | "tell" =>
    match f.description with
    | some number =>
      let offset := ((← get).machine.descriptions[number]?.map (·.offset)).getD 0
      return ofNat (offset - f.held.length)
    | none => return ofNat (f.unwritten.length - f.held.length)
  | "seek" => do
    let place := (arguments.whole 0 "offset" 0).toNat
    flush address
    match f.description with
    | some number => do
      task (modify fun m =>
        { m with descriptions := m.descriptions.modify number fun d => { d with offset := place } })
      putFile address { f with held := [], ended := !f.reads, unwritten := [] }
    | none => putFile address { f with held := f.unwritten.reverse.drop place }
    return ofNat place
  | "truncate" => return .nothing
  | "__enter__" => return .object address
  | "__exit__" => do
    closeFile address
    return .nothing
  | _ => refuseMember (.object address) name

/-- What a method of a number gives. -/
def numberMethod (value : Value) (name : String) (arguments : Arguments) : Work Value := do
  match name, number? value with
  | "bit_length", some (.whole n) =>
    return ofNat (if n = 0 then 0 else Nat.log2 n.natAbs + 1)
  | "bit_count", some (.whole n) =>
    return ofNat ((Nat.toDigits 2 n.natAbs).filter (· = '1')).length
  | "to_bytes", some (.whole n) =>
    let size := (arguments.whole 0 "length" 1).toNat
    let bytes := (List.range size).map fun k => Char.ofNat ((n.emod (twoTo (8 * (k + 1)))).toNat / twoTo (8 * k))
    let little : Bool := match arguments.at? 1 "byteorder" with
      | some (.text order) => decide (order = "little".toList)
      | _ => false
    return .bytes (if little then bytes else bytes.reverse)
  | "from_bytes", _ =>
    match arguments.first with
    | .bytes t =>
      let little : Bool := match arguments.at? 1 "byteorder" with
        | some (.text order) => decide (order = "little".toList)
        | _ => false
      let t := if little then t.reverse else t
      return ofNat (t.foldl (fun n c => 256 * n + c.toNat) 0)
    | _ => refuse "cannot convert object to bytes"
  | "is_integer", some (.real x) => return .boolean (Records.isWhole x)
  | "is_integer", some (.whole _) => return .boolean true
  | "conjugate", some _ => return value
  | _, _ => refuseMember value name

/-- The names of the methods of a kind of values. -/
def methodsOf (kind : String) : List String :=
  let lists := ["append", "extend", "insert", "remove", "pop", "clear", "index", "count", "sort", "reverse", "copy",
    "__len__", "__contains__", "__getitem__"]
  let tables := ["get", "keys", "values", "items", "pop", "popitem", "setdefault", "update", "clear", "copy",
    "fromkeys", "__len__", "__contains__", "__getitem__"]
  match kind with
  | "str" => textMethods
  | "bytes" => "decode" :: "hex" :: textMethods.filter fun n => n ≠ "encode" && n ≠ "format"
  | "list" => lists
  | "deque" => lists ++ ["appendleft", "popleft", "extendleft", "rotate"]
  | "Queue" => ["put", "get"]
  | "tuple" | "range" => ["index", "count", "__len__", "__contains__", "__getitem__"]
  | "dict" | "environ" => tables
  | "defaultdict" => tables
  | "OrderedDict" => tables ++ ["move_to_end"]
  | "Counter" => tables ++ ["most_common", "elements", "total", "subtract"]
  | "set" => ["add", "remove", "discard", "pop", "clear", "copy", "update", "union", "intersection", "difference",
    "symmetric_difference", "intersection_update", "difference_update", "issubset", "issuperset", "isdisjoint",
    "__len__", "__contains__"]
  | "frozenset" => ["copy", "union", "intersection", "difference", "symmetric_difference", "issubset", "issuperset",
    "isdisjoint", "__len__", "__contains__"]
  | "int" | "bool" => ["bit_length", "bit_count", "to_bytes", "from_bytes", "is_integer", "conjugate"]
  | "float" => ["is_integer", "conjugate"]
  | "file" => ["read", "readline", "readlines", "write", "writelines", "close", "flush", "fileno", "isatty",
    "readable", "writable", "seekable", "reconfigure", "tell", "seek", "truncate", "__enter__", "__exit__"]
  | _ => []

/-- What a method of a value of the language gives. -/
def valueMethod (core : Core) (member : Value → String → Work Value) (receiver : Value) (name : String)
    (arguments : Arguments) : Work Value := do
  match receiver with
  | .text t => core.textMethod member false t name arguments
  | .bytes t => core.textMethod member true t name arguments
  | .tuple _ | .range _ _ _ => do
    let items ← core.items receiver
    match name with
    | "index" =>
      match ← core.placeAmong? arguments.first 0 items with
      | some place => return ofNat place
      | none => fail "ValueError" "tuple.index(x): x not in tuple".toList
    | "count" => return ofNat (← items.filterM fun v => core.equal v arguments.first).length
    | "__len__" => return ofNat items.length
    | "__contains__" => return .boolean (← core.isAmong arguments.first items)
    | "__getitem__" => core.subscript receiver arguments.first
    | _ => refuseMember receiver name
  | .object address =>
    match ← objectAt address with
    | .list kind items => core.listMethod address kind items name arguments
    | .table kind usual entries => core.tableMethod address kind usual entries name arguments
    | .set kind items => core.setMethod address kind items name arguments
    | .file _ => core.fileMethod address name arguments
    | _ => refuseMember receiver name
  | receiver => numberMethod receiver name arguments

end KDispatch.Shell.Indented.Core
