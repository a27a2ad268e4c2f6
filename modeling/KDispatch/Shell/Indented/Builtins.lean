import KDispatch.Shell.Indented.Functions

/-!
Calls of functions that the language and its modules have, and of the methods of objects that they make.
-/

namespace KDispatch.Shell.Indented.Core

open Work

/-- The functions that every program has. -/
def plainFunctions : List String :=
  ["print", "len", "isinstance", "issubclass", "callable", "repr", "ascii", "abs", "min", "max", "sum", "sorted",
    "reversed", "enumerate", "zip", "map", "filter", "any", "all", "open", "input", "ord", "chr", "hex", "oct", "bin",
    "round", "divmod", "pow", "hash", "id", "iter", "next", "getattr", "setattr", "hasattr", "delattr", "vars", "dir",
    "globals", "locals", "format", "eval", "exec", "exit", "quit", "__import__"]

/-- The truth of what a function says about any or all values. -/
def truthOfAll (core : Core) (wanted : Bool) : List Value → Work Bool
  | [] => return !wanted
  | v :: rest => do
    if (← core.truth v) = wanted then return wanted else truthOfAll core wanted rest

/-- A number in a base, with the mark of the base. -/
def spelledIn (base : Nat) (mark : String) (value : Value) : Work Value := do
  match whole? value with
  | some n =>
    return .text ((if n < 0 then ['-'] else []) ++ mark.toList ++ Nat.toDigits base n.natAbs)
  | none => refuse ("'" ++ (← kindNameOf value) ++ "' object cannot be interpreted as an integer")

/-- The names of the current scope with their values. -/
def scopeTable (isTop : Bool) : Work Value := do
  let s ← get
  let scope := match s.frames with
    | frame :: _ => if isTop then s.top else frame.scopes.headD s.top
    | [] => s.top
  newTable (((← namesAt scope).filter fun (n, _) => n ≠ "__first__").map fun (n, v) => (.text n.toList, v))

/-- What a function that every program has gives. -/
def plainFunction (core : Core) (name : String) (arguments : Arguments) : Work Value := do
  let plain := arguments.plain
  let (first, second) := (arguments.first, arguments.second)
  match name with
  | "print" => core.print arguments
  | "len" => core.sizeOf first
  | "isinstance" => return .boolean (← isInstance first 20 second)
  | "issubclass" =>
    match second with
    | .tuple kinds => return .boolean (← kinds.anyM fun k => isSubkind first k)
    | kind => return .boolean (← isSubkind first kind)
  | "callable" =>
    match first with
    | .builtin _ | .method _ _ | .bound _ _ | .kind _ => return .boolean true
    | .object address =>
      match ← objectAt address with
      | .function _ | .classes _ _ _ => return .boolean true
      | .record kind _ => return .boolean (← memberOf? kind "__call__").isSome
      | _ => return .boolean false
    | _ => return .boolean false
  | "repr" => return .text (← core.spell first)
  | "ascii" => do
    let t ← core.spell first
    return .text (t.flatMap fun c => if c.toNat < 128 then [c] else
      if c.toNat < 256 then '\\' :: 'x' :: Spelling.hexadecimal 2 c.toNat
      else if c.toNat < 65536 then '\\' :: 'u' :: Spelling.hexadecimal 4 c.toNat
      else '\\' :: 'U' :: Spelling.hexadecimal 8 c.toNat)
  | "abs" =>
    match number? first with
    | some (.whole n) => return .integer n.natAbs
    | some (.real x) => return .real x.abs
    | none =>
      match ← core.special? first "__abs__" [] with
      | some v => return v
      | none => refuse ("bad operand type for abs(): '" ++ (← kindNameOf first) ++ "'")
  | "min" | "max" => core.extreme name arguments
  | "sum" => do
    let start := (arguments.at? 1 "start").getD (.integer 0)
    (← core.items first).foldlM (fun sum v => core.operate "+" "+" sum v) start
  | "sorted" => do
    let key := (arguments.named.lookup "key").getD .nothing
    let reversed ← core.truth ((arguments.named.lookup "reverse").getD .nothing)
    newList (← core.sortedBy key reversed (← core.items first))
  | "reversed" => do
    match ← core.special? first "__reversed__" [] with
    | some v => return v
    | none => newSteps "list_reverseiterator" (← core.items first).reverse
  | "enumerate" => do
    let start := arguments.whole 1 "start" 0
    let items ← core.items first
    newSteps "enumerate" ((items.zip (List.range items.length)).map fun (v, (n : Nat)) =>
      .tuple [.integer (start + (n : Int)), v])
  | "zip" => do
    let lists ← plain.mapM core.items
    let sizes := lists.map List.length
    if (← core.truth ((arguments.named.lookup "strict").getD .nothing)) &&
        sizes.any (· ≠ sizes.headD 0) then
      let place := (sizes.findIdx? (· ≠ sizes.headD 0)).getD 1
      let word := if sizes.getD place 0 < sizes.headD 0 then "shorter" else "longer"
      fail "ValueError" ("zip() argument " ++ toString (place + 1) ++ " is " ++ word ++ " than argument 1").toList
    else newSteps "zip" (tuples (zipped lists))
  | "map" => do
    let lists ← (plain.drop 1).mapM core.items
    newSteps "map" (← (zipped lists).mapM fun values => core.call first values [])
  | "filter" => do
    newSteps "filter" (← (← core.items second).filterM fun v => do
      match first with
      | .nothing => core.truth v
      | function => core.truth (← core.call function [v] []))
  | "any" => do return .boolean (← core.truthOfAll true (← core.items first))
  | "all" => do return .boolean (← core.truthOfAll false (← core.items first))
  | "open" => do
    let mode := match arguments.at? 1 "mode" with
      | some (.text t) => t
      | _ => ['r']
    match first with
    | .integer n => do
      flushOutput
      let v ← inherited (toString n) n.toNat (mode.contains 'r')
      match v with
      | .object address => do
        putFile address { ← fileAt address with isBinary := mode.contains 'b' }
        return v
      | v => return v
    | v => openFile (← core.pathText v) mode
  | "input" => do
    match plain with
    | [] => pure ()
    | v :: _ => do
      let _ ← core.print ⟨[v], [("end", .text [])]⟩
    flushOutput
    match ← memberOfModule? "sys" "stdin" with
    | some (.object address) =>
      match ← readLine address with
      | .text [] => fail "EOFError" "EOF when reading a line".toList
      | .text t => return .text (if t.getLast? = some '\n' then t.dropLast else t)
      | v => return v
    | _ => fail "RuntimeError" "input(): lost sys.stdin".toList
  | "ord" =>
    match first with
    | .text [c] | .bytes [c] => return ofNat c.toNat
    | .text t =>
      refuse ("ord() expected a character, but string of length " ++ toString t.length ++ " found")
    | v => refuse ("ord() expected string of length 1, but " ++ (← kindNameOf v) ++ " found")
  | "chr" =>
    match whole? first with
    | some n =>
      if 0 ≤ n && n < 0x110000 then return .text [Char.ofNat n.toNat]
      else fail "ValueError" "chr() arg not in range(0x110000)".toList
    | none => refuse ("'" ++ (← kindNameOf first) ++ "' object cannot be interpreted as an integer")
  | "hex" => spelledIn 16 "0x" first
  | "oct" => spelledIn 8 "0o" first
  | "bin" => spelledIn 2 "0b" first
  | "round" => core.rounded first (match arguments.at? 1 "ndigits" with
      | some .nothing => none
      | v => v)
  | "divmod" => do
    return .tuple [← core.operate "//" "divmod()" first second, ← core.operate "%" "divmod()" first second]
  | "pow" =>
    match plain with
    | [_, _, modulus] =>
      match whole? first, whole? second, whole? modulus with
      | some b, some e, some m =>
        let rec power : (fuel : Nat) → (base result : Int) → Nat → Int
          | 0, _, result, _ => result
          | fuel + 1, base, result, e =>
            if e = 0 then result
            else
              power fuel (Int.fmod (base * base) m) (if e % 2 = 1 then Int.fmod (result * base) m else result) (e / 2)
        return .integer (power (Nat.log2 e.toNat + 2) (Int.fmod b m) (Int.fmod 1 m) e.toNat)
      | _, _, _ => refuse "pow() 3rd argument not allowed unless all arguments are integers"
    | _ => core.operate "**" "** or pow()" first second
  | "hash" => do
    checkKey 50 first
    match first, whole? first with
    | _, some n => return .integer n
    | .text t, _ => return ofNat (t.foldl (fun h c => (h * 1000003 + c.toNat) % 2305843009213693951) 7)
    | .object address, _ =>
      match ← core.special? first "__hash__" [] with
      | some v => return v
      | none => return ofNat address
    | _, _ => return .integer 0
  | "id" =>
    match first with
    | .object address => return ofNat (140187732541440 + 48 * address)
    | _ => return .integer 9788576
  | "iter" => do
    match plain with
    | [v] =>
      match v with
      | .object address =>
        match ← objectAt address with
        | .steps _ _ | .file _ => return v
        | .record _ _ =>
          match ← core.special? v "__iter__" [] with
          | some found => return found
          | none => newSteps "iterator" (← core.items v)
        | .list _ _ => newSteps "list_iterator" (← core.items v)
        | _ => newSteps "iterator" (← core.items v)
      | v => newSteps (((← kindNameOf v)) ++ "_iterator") (← core.items v)
    | function :: last :: _ => do
      let rec drawnUntil : (fuel : Nat) → Work (List Value)
        | 0 => return []
        | fuel + 1 => do
          let v ← core.call function [] []
          if ← core.equal v last then return [] else return v :: (← drawnUntil fuel)
      newSteps "callable_iterator" (← drawnUntil manyItems)
    | [] => refuse "iter expected at least 1 argument, got 0"
  | "next" => core.next first plain[1]?
  | "getattr" =>
    match second with
    | .text t =>
      match ← attempted (core.member? first (String.ofList t)), plain[2]? with
      | .ok (some v), _ => return v
      | .ok none, some v => return v
      | .ok none, none => refuseMember first (String.ofList t)
      | .error failure, usual =>
        match usual, ← isInstance failure 20 (.kind "AttributeError") with
        | some v, true => return v
        | _, _ => throw (.failure failure)
    | _ => refuse "attribute name must be string"
  | "setattr" =>
    match second with
    | .text t => do
      core.putMemberOf first (String.ofList t) (plain.getD 2 .nothing)
      return .nothing
    | _ => refuse "attribute name must be string"
  | "hasattr" =>
    match second with
    | .text t =>
      match ← attempted (core.member? first (String.ofList t)) with
      | .ok v => return .boolean v.isSome
      | .error failure =>
        if ← isInstance failure 20 (.kind "AttributeError") then return .boolean false
        else throw (.failure failure)
    | _ => refuse "attribute name must be string"
  | "delattr" =>
    match second with
    | .text t => do
      eraseMember first (String.ofList t)
      return .nothing
    | _ => refuse "attribute name must be string"
  | "vars" =>
    match plain with
    | [] => scopeTable false
    | v :: _ => core.member v "__dict__"
  | "dir" => do
    let names ← match first with
      | .object address =>
        match ← objectAt address with
        | .record _ members | .classes _ _ members => pure (members.map (·.1))
        | _ => pure (methodsOf (← kindNameOf first))
      | .module m => pure (Module.functions m)
      | .nothing => do pure ((← namesAt (← get).top).map (·.1))
      | v => pure (methodsOf (← kindNameOf v))
    newList (← core.sortedBy .nothing false (names.map fun n => .text n.toList))
  | "globals" => scopeTable true
  | "locals" => scopeTable false
  | "format" => do
    let specification ← match second with
      | .text t => pure t
      | _ => pure []
    return .text (← core.formatted first specification)
  | "eval" =>
    match first with
    | .text t =>
      match expressionOf (Numeric.stripped t) with
      | .ok e => core.eval e
      | .error e => fail e.kind e.message
    | _ => refuse "eval() arg 1 must be a string, bytes or code object"
  | "exec" =>
    match first with
    | .text t =>
      match programOf t with
      | .ok statements => do
        core.run statements
        return .nothing
      | .error e => fail e.kind e.message
    | _ => refuse "exec() arg 1 must be a string, bytes or code object"
  | "exit" | "quit" => raise (← newFailure "SystemExit" plain)
  | "__import__" =>
    match first with
    | .text t => return .module (String.ofList t)
    | _ => refuse "__import__() argument 1 must be str"
  | _ => fail "NameError" ("name '".toList ++ name.toList ++ "' is not defined".toList)

/-- The fields of a kind with the values that they have usually. -/
def dataFields (kind : Value) : Work (List (String × Option Value)) := do
  let lineage ← lineage 50 kind
  let found ← lineage.reverse.mapM fun k => do
    match k with
    | .object address =>
      match ← objectAt address with
      | .classes _ _ members =>
        match members.lookup "__annotations__" with
        | some (.object table) => do
          return (← entriesAt table).toList.filterMap fun (name, _) =>
            match name with
            | .text t => some (String.ofList t, members.lookup (String.ofList t))
            | _ => none
        | _ => return []
      | _ => return []
    | _ => return []
  return found.flatten.foldl (fun fields (n, v) =>
    if fields.any (·.1 = n) then fields.map fun (m, w) => if m = n then (n, v) else (m, w)
    else fields ++ [(n, v)]) []

/-- Makes a kind of its fields: objects of it are made from values for them. -/
def asData (core : Core) (kind : Value) (named : List (String × Value)) : Work Value := do
  match kind with
  | .object address =>
    match ← objectAt address with
    | .classes name bases members => do
      let isFrozen ← core.truth ((named.lookup "frozen").getD .nothing)
      let isOrdered ← core.truth ((named.lookup "order").getD .nothing)
      let marks := [("__data__", Value.boolean isFrozen)] ++
        (if isOrdered then [("__ordered__", Value.boolean true)] else [])
      putObject address (.classes name bases (members ++ marks))
      return kind
    | _ => return kind
  | kind => return kind

/-- The names of fields that are given in one text or in several. -/
def fieldNames (core : Core) (value : Value) : Work (List Text) := do
  match value with
  | .text t =>
    let spaced := t.map fun c => if c = ',' then ' ' else c
    return (spaced.splitOn ' ').filter (!·.isEmpty)
  | value => (← core.items value).mapM core.text

/-- Calls a function that the language or a module has. -/
def callBuiltin (core : Core) (full : String) (plain : List Value) (named : List (String × Value)) :
    Work Value := do
  let arguments : Arguments := ⟨plain, named⟩
  let letters := full.toList
  let module := String.ofList (letters.takeWhile (· ≠ '.'))
  let name := String.ofList (letters.drop (module.length + 1))
  match module, name with
  | "identity", _ => return arguments.first
  | "__annotated__", _ => return .nothing
  | "os", "system" | "os", "popen" => core.processFunction name arguments
  | "os", "execv" | "os", "execvp" | "os", "execve" | "os", "execvpe" =>
    core.become name arguments.first (← core.items arguments.second) plain[2]?
  | "os", "execl" | "os", "execlp" => core.become name arguments.first (plain.drop 1) none
  | "os", _ =>
    if name.startsWith "path." then core.pathFunction (String.ofList (name.toList.drop 5)) arguments
    else core.systemFunction name arguments
  | "shutil", _ => core.transferFunction name arguments
  | "subprocess", _ => core.processFunction name arguments
  | "json", _ => core.notationFunction name arguments
  | "re", _ => core.patternFunction name arguments
  | "math", _ => core.numberFunction name arguments
  | "time", _ => timeFunction name arguments
  | "sys", _ => interpreterFunction name arguments
  | "itertools", _ => core.iterationFunction name arguments
  | "functools", _ => core.functionFunction name arguments
  | "operator", _ => core.operatorFunction name arguments
  | "random", _ => core.chanceFunction name arguments
  | "heapq", _ | "bisect", _ => core.heapFunction name arguments
  | "dataclasses", "dataclass" =>
    match plain with
    | kind :: _ => core.asData kind named
    | [] =>
      newWrapped "partial" [("func", .builtin full), ("__plain__", .tuple []),
        ("__named__", ← newTable (named.map fun (n, v) => (.text n.toList, v)))]
  | "dataclasses", _ =>
    match named.lookup "default_factory", named.lookup "default" with
    | some make, _ => newWrapped "field" [("__make__", make)]
    | none, some v => return v
    | none, none => newWrapped "field" []
  | "collections", _ => do
    let fields ← core.fieldNames arguments.second
    new (.classes (String.ofList (← core.text arguments.first)) []
      [("_fields", .tuple (fields.map .text)), ("__tuple__", .boolean true)])
  | _, "" => core.plainFunction module arguments
  | _, _ => core.smallFunction module name arguments

/-- What a method of a path gives. -/
def pathMethod (core : Core) (value : Value) (path : Text) (name : String) (arguments : Arguments) : Work Value := do
  let viaPath (name : String) : Work Value := core.pathFunction name ⟨[.text path], []⟩
  let opened (mode : String) (work : Nat → Work Value) : Work Value := do
    match ← openFile path mode.toList with
    | .object address => do
      let v ← work address
      closeFile address
      return v
    | v => return v
  match name with
  | "exists" => viaPath "exists"
  | "is_file" => viaPath "isfile"
  | "is_dir" => viaPath "isdir"
  | "is_symlink" => viaPath "islink"
  | "is_absolute" => viaPath "isabs"
  | "read_text" => opened "r" fun address => readAll address none
  | "read_bytes" => opened "rb" fun address => readAll address none
  | "write_text" => opened "w" fun address => core.fileMethod address "write" arguments
  | "write_bytes" => opened "wb" fun address => core.fileMethod address "write" arguments
  | "open" => do
    let mode ← match arguments.at? 0 "mode" with
      | some (.text t) => pure t
      | _ => pure ['r']
    openFile path mode
  | "mkdir" => do
    let isThereOk ← core.truth ((arguments.named.lookup "exist_ok").getD .nothing)
    let parents ← core.truth ((arguments.named.lookup "parents").getD .nothing)
    if parents then makeDirectories isThereOk (path.length + 1) path
    else
      match isThereOk, ← nodeAt? true path with
      | true, some (_, .directory) => pure ()
      | _, _ => makeDirectory path 0o777
    return .nothing
  | "unlink" => do
    let isMissingOk ← core.truth ((arguments.named.lookup "missing_ok").getD .nothing)
    if isMissingOk && (← nodeAt? false path).isNone then return .nothing
    else
      removeFile path
      return .nothing
  | "rmdir" => do
    removeDirectory path
    return .nothing
  | "rename" | "replace" => do
    let target ← core.pathText arguments.first
    Work.rename path target
    newPath target
  | "iterdir" => do
    newSteps "generator" (← (← namesIn path).mapM fun n => newPath (Paths.joined path n))
  | "glob" | "rglob" => do
    let pattern ← core.text arguments.first
    newSteps "generator" (← (← matching (Paths.joined path pattern)).mapM newPath)
  | "resolve" => do newPath (← core.text (← viaPath "realpath"))
  | "absolute" => do newPath (← absolute path)
  | "expanduser" => do newPath (← core.text (← viaPath "expanduser"))
  | "joinpath" | "__truediv__" => do
    newPath ((← arguments.plain.mapM core.pathText).foldl Paths.joined path)
  | "with_suffix" => do newPath ((Paths.extension path).1 ++ (← core.text arguments.first))
  | "with_name" => do newPath (Paths.joined (Paths.directory path) (← core.text arguments.first))
  | "stat" => status true path
  | "as_posix" => return .text path
  | "touch" => opened "a" fun _ => return .nothing
  | "chmod" => core.systemFunction "chmod" ⟨.text path :: arguments.plain, []⟩
  | "relative_to" => do
    let start ← core.pathText arguments.first
    let below := if start = ['.'] then [] else start ++ ['/']
    if path = start then newPath ['.']
    else if below.isPrefixOf path then newPath (path.drop below.length)
    else
      fail "ValueError" ((← core.spell (.text path)) ++ " is not in the subpath of ".toList ++
        (← core.spell (.text start)) ++
        " OR one path is relative and the other is absolute.".toList)
  | _ => refuseMember value name

/-- Calls a method of a value. -/
def callMethod (core : Core) (receiver : Value) (name : String) (plain : List Value)
    (named : List (String × Value)) : Work Value := do
  let arguments : Arguments := ⟨plain, named⟩
  match receiver with
  | .kind kind =>
    match kind, name, plain with
    | "dict", "fromkeys", _ | "OrderedDict", "fromkeys", _ | "defaultdict", "fromkeys", _ => do
      let empty ← newTable []
      core.valueMethod core.member empty "fromkeys" arguments
    | "str", "maketrans", _ => core.textMethod core.member false [] "maketrans" arguments
    | "int", "from_bytes", _ => numberMethod (.integer 0) "from_bytes" arguments
    | "PosixPath", "cwd", _ => do newPath (← directoryNow)
    | "PosixPath", "home", _ => newPath "/root".toList
    | "bytes", "fromhex", .text t :: _ =>
      let digits := t.filter fun c => !Numeric.isSpace c
      let rec pairs : Text → Text
        | a :: b :: rest => Char.ofNat (Scan.Reader.numberOf 16 [a, b]) :: pairs rest
        | _ => []
      return .bytes (pairs digits)
    | _, "__new__", owner :: _ => new (.record owner [("args", .tuple (plain.drop 1))])
    | _, "__init_subclass__", _ => return .nothing
    | _, "__setattr__", [.object address, .text name, v] =>
      match ← objectAt address with
      | .record kind members => do
        putObject address (.record kind (replaceEntry (String.ofList name) v members))
        return .nothing
      | _ => return .nothing
    | _, "__init__", .object address :: rest =>
      if Kind.isFailure kind then
        match ← objectAt address with
        | .record own members => do
          putObject address (.record own (replaceEntry "args" (.tuple rest) members))
          return .nothing
        | _ => return .nothing
      else return .nothing
    | _, _, v :: rest => core.call (← core.member v name) rest named
    | _, _, [] => refuse ("unbound method " ++ kind ++ "." ++ name ++ "() needs an argument")
  | .object address =>
    match ← objectAt address with
    | .record kind members => do
      let own ← kindNameOf receiver
      match own, name with
      | "re.Match", _ => core.foundMethod receiver name arguments
      | "re.Pattern", _ => core.patternFunction name ⟨receiver :: plain, named⟩
      | "Popen", _ => core.programMethod receiver name arguments
      | "CompletedProcess", _ =>
        match members.lookup "returncode" with
        | some (.integer 0) => return .nothing
        | some (.integer n) =>
          core.failProgram ((members.lookup "args").getD .nothing) n .nothing .nothing
        | _ => return .nothing
      | "property", _ =>
        let key := match name with
          | "setter" => "fset"
          | "deleter" => "fdel"
          | _ => "fget"
        new (.record kind (replaceEntry key arguments.first members))
      | "suppress", "__enter__" => return .nothing
      | "suppress", _ =>
        match arguments.second with
        | .nothing => return .boolean false
        | failure =>
          return .boolean (← isInstance failure 20 ((members.lookup "__kinds__").getD .nothing))
      | "PosixPath", _ =>
        match members.lookup "__path__" with
        | some (.text t) => core.pathMethod receiver t name arguments
        | _ => return .nothing
      | "super", _ => do
        let target := (members.lookup "__self__").getD .nothing
        match name, target with
        | "__init__", .object inner =>
          match ← objectAt inner with
          | .record kind members =>
            if ← isSubkind kind (.kind "BaseException") then
              putObject inner (.record kind (replaceEntry "args" (.tuple plain) members))
            return .nothing
          | _ => return .nothing
        | "__new__", _ => new (.record arguments.first [])
        | "__str__", target => return .text (← do
            match target with
            | .object inner =>
              match ← objectAt inner with
              | .record kind members =>
                if ← isSubkind kind (.kind "BaseException") then core.failureText kind members
                else core.spell target
              | _ => core.spell target
            | target => core.text target)
        | "__setattr__", target => core.callMethod (.kind "object") "__setattr__" (target :: plain) named
        | "__init_subclass__", _ => return .nothing
        | "__eq__", _ => return .boolean (isSame target arguments.first)
        | "__repr__", .object inner =>
          match ← objectAt inner with
          | .record kind members => do
            let shown ← if ← isSubkind kind (.kind "BaseException") then
                core.spellAll (failureArguments members)
              else pure []
            return .text ((← kindName kind).toList ++ '(' :: shown ++ [')'])
          | _ => return .text []
        | _, target => refuseMember target name
      | _, "__init__" => do
        if ← isSubkind kind (.kind "BaseException") then
          putObject address (.record kind (replaceEntry "args" (.tuple plain) members))
        return .nothing
      | _, "with_traceback" => return receiver
      | _, "add_note" => return .nothing
      | _, "__str__" => return .text (← core.text receiver)
      | _, "__repr__" => return .text (← core.spell receiver)
      | _, "__eq__" => return .boolean (← core.equal receiver arguments.first)
      | _, "__hash__" => return ofNat address
      | _, "_asdict" => do
        let fields := tupleItems ((members.lookup "__fields__").getD .nothing)
        newTable (fields.map fun f =>
          match f with
          | .text t => (f, (members.lookup (String.ofList t)).getD .nothing)
          | f => (f, .nothing))
      | _, "_replace" => do
        let fields := tupleItems ((members.lookup "__fields__").getD .nothing)
        let values := fields.map fun f =>
          match f with
          | .text t =>
            let n := String.ofList t
            (named.lookup n).getD ((members.lookup n).getD .nothing)
          | _ => .nothing
        core.call kind values []
      | _, _ => refuseMember receiver name
    | .steps _ _ =>
      match name with
      | "__next__" | "send" => core.next receiver none
      | "__iter__" => return receiver
      | _ => return .nothing
    | _ => core.valueMethod core.member receiver name arguments
  | _ => core.valueMethod core.member receiver name arguments
termination_by (match receiver with
  | .kind _ => 0
  | _ => 1)

end KDispatch.Shell.Indented.Core
