import KDispatch.Shell.Sigil.Calling

/-!
Calls of functions of the language that look at expressions rather than values.
-/

namespace KDispatch.Shell.Sigil.Core

open Work

/-- Takes an entry or an element out. -/
def deleteAt (core : Core) (e : Expr) : Work (List Value) := do
  match e with
  | .entry table key =>
    let table ← core.container '%' table
    return [← removeEntry table (← core.keyText key)]
  | .entries table keys =>
    let table ← core.container '%' table
    (← core.evaluate .many keys).mapM fun key => do removeEntry table (← textOf key)
  | .element list index =>
    let list ← core.container '@' list
    let index := (← core.scalar index).toInt
    match ← elementPlace? list index with
    | none => return [.missing]
    | some address =>
      let value ← valueAt address
      let size := (← itemsAt list).size
      if index = (size : Int) - 1 || index = -1 then changeItems list Array.pop
      else assignAt address .missing
      return [value]
  | .localized inner => core.deleteAt inner
  | _ => fail "delete argument is not a HASH or ARRAY element or slice".toList

/-- The keys or values of a table or list, or its next entry. -/
def walk (core : Core) (wanted : Context) (name : String) (e : Expr) : Work (List Value) := do
  let isList : Bool := match e with
    | .named name => name.sigil = '@'
    | .target sigil _ => sigil = '@'
    | _ => false
  if isList then
    let items ← itemsAt (← core.container '@' e)
    if wanted ≠ .many then return [.ofNat items.size]
    else if name = "keys" then return (List.range items.size).map .ofNat
    else valuesAt items.toList
  else
    let table ← core.container '%' e
    match ← cellAt table with
    | .table entries walked =>
      if name = "each" then
        match entries[walked]? with
        | some (key, address) =>
          putCell table (.table entries (walked + 1))
          let value ← valueAt address
          return if wanted = .many then [.text key, value] else [.text key]
        | none =>
          putCell table (.table entries 0)
          return if wanted = .many then [] else [.missing]
      else
        putCell table (.table entries 0)
        if wanted ≠ .many then return [.ofNat entries.size]
        else if name = "keys" then return entries.toList.map fun (key, _) => .text key
        else valuesAt (entries.toList.map (·.2))
    | _ => return []

/-- Runs a text as a program inside the running one. -/
def runText (core : Core) (wanted : Context) (text : Text) : Work (List Value) := do
  let counter ← global ⟨'$', "main::texts"⟩
  let number := (← valueAt counter).toInt + 1
  assignAt counter (.integer number)
  let outer ← get
  let file := "(eval ".toList ++ Number.decimal number ++ [')']
  let leave (values : List Value) (error : Value) : Work (List Value) := do
    modify fun s => { s with line := outer.line, file := outer.file }
    putGlobal "@" error
    return values
  let failed (error : Value) : Work (List Value) := leave (if wanted = .many then [] else [.missing]) error
  match Program.ofText file text with
  | .error mistake => failed (.text (mistake.message ++ ['\n']))
  | .ok program =>
    modify fun s => { s with file }
    let result ← attempted (inBlock do
      defineAll plenty program.statements
      core.bodyValues wanted program.statements)
    match result with
    | .ok values => leave values Value.empty
    | .error value => failed value

/-- Functions on handles; `none` if the name is none of theirs. -/
def handleFunction (core : Core) (wanted : Context) (name : String) (arguments : List Expr) : Work (Option
    (List Value)) := do
  let truth (b : Bool) : Work (Option (List Value)) := return some [.ofBool b]
  let toOpen (e : Expr) : Work Nat := do
    match e with
    | .word name => handleNamed name
    | .text name => handleNamed (String.ofList name)
    | e =>
      let address ← core.place e
      match ← valueAt address with
      | .reference handle =>
        match ← cellAt handle with
        | .handle _ => return handle
        | _ => fail "Bad filehandle".toList
      | .missing =>
        let handle ← alloc (.handle (Handle.closed (handleName e)))
        assignAt address (.reference handle)
        return handle
      | value => handleNamed (String.ofList (← textOf value))
  match name, arguments with
  | "open", handle :: rest =>
    let address ← toOpen handle
    let shown := match handle with
      | .text name => name
      | e => handleName e
    let values ← core.listOf rest
    let opened ← match values with
      | [] => pure false
      | [spelled] => do openSpelled core.execute address shown (← textOf spelled)
      | mode :: targets => do openWith core.execute address shown (← textOf mode) targets
    if opened then putGlobal "!" terminalQuestion
    truth opened
  | "close", [] => truth true
  | "close", handle :: _ => truth (← close core.execute (← core.handleOf handle))
  | "eof", [] =>
    match (← get).lastRead with
    | some address => truth (← isAtEnd address)
    | none => truth true
  | "eof", [.list []] => truth (← areFilesAtEnd (← handleNamed "ARGV") manyBlocks)
  | "eof", handle :: _ => truth (← isAtEnd (← core.handleOf handle))
  | "readline", handle :: _ => return some (← core.evaluate wanted (.readLine handle))
  | "binmode", _ => truth true
  | "fileno", handle :: _ =>
    let h ← handleAt (← core.handleOf handle)
    match String.ofList h.name with
    | "STDIN" => return some [.integer 0]
    | "STDOUT" => return some [.integer 1]
    | "STDERR" => return some [.integer 2]
    | _ => return some [if h.isOpen then .integer 3 else .missing]
  | "select", [handle] =>
    let before ← chooseOutput (← core.handleOf handle)
    return some [.reference before]
  | "select", [] => return some [.reference (← get).selected]
  | "select", _ => return some [.integer 0]
  | "opendir", [handle, path] =>
    let address ← toOpen handle
    match ← task (Task.node (← textOf (← core.scalar path))) with
    | .error e => truth (← succeeded (.error e))
    | .ok (location, .directory) =>
      let names := (← get).machine.files.entries location
      let entries := ['.'] :: ['.', '.'] :: names.map Task.ofPath
      putHandle address { Handle.closed (handleName handle) with isOpen := true, entries := some entries }
      truth true
    | .ok _ => truth (← succeeded (.error .notADirectory))
  | "readdir", [handle] =>
    let address ← core.handleOf handle
    let h ← handleAt address
    let left := h.entries.getD []
    if wanted = .many then
      putHandle address { h with entries := some [] }
      return some (left.map .text)
    else
      putHandle address { h with entries := some (left.drop 1) }
      return some [(left.head?.map Value.text).getD .missing]
  | "closedir", [handle] =>
    putHandle (← core.handleOf handle) (Handle.closed [])
    truth true
  | "seek", handle :: rest =>
    let address ← core.handleOf handle
    let numbers ← rest.mapM fun e => core.scalar e
    let _ ← flush address
    let h ← handleAt address
    match h.description with
    | some number =>
      let offset := (argument numbers 0).toInt.toNat
      task (modify fun m =>
        { m with descriptions := m.descriptions.modify number fun d => { d with offset } })
      putHandle address { h with held := [], ended := !h.reads, unwritten := [] }
      truth true
    | none => truth false
  | "read", handle :: target :: length :: _ =>
    let address ← core.handleOf handle
    let count := (← core.scalar length).toInt.toNat
    let h ← handleAt address
    let (all, h) ← readUpTo none manyBlocks h
    let text := all.getD []
    putHandle address { h with held := text.drop count }
    assignAt (← core.place target) (.text (text.take count))
    return some [.ofNat (min count text.length)]
  | _, _ => return none

/-- Calls a function of the language. -/
def callFunction (core : Core) (wanted : Context) (name : String) (arguments : List Expr) :
    Work (List Value) := do
  let isMany := wanted = .many
  let one (e : Expr) : Work Value := core.scalar e
  match name, arguments with
  | "defined", [] => return [.ofBool (!(← one Reader.topic).isMissing)]
  | "defined", [e] =>
    match e with
    | .call name [] true =>
      return [.ofBool (← routine? (qualified (← get).package name)).isSome]
    | .named ⟨'@', _⟩ | .target '@' _ => return [.ofBool (!(← itemsAt (← core.container '@' e)).isEmpty)]
    | .named ⟨'%', _⟩ | .target '%' _ => return [.ofBool (!(← entriesAt (← core.container '%' e)).isEmpty)]
    | e => return [.ofBool (!(← one e).isMissing)]
  | "exists", [e] =>
    match e with
    | .element list index =>
      let list ← core.container '@' list
      return [.ofBool (← elementPlace? list (← one index).toInt).isSome]
    | .entry table key =>
      let table ← core.container '%' table
      return [.ofBool (← entryPlace? table (← core.keyText key)).isSome]
    | .call name _ _ => return [.ofBool (← routine? (qualified (← get).package name)).isSome]
    | e => return [.ofBool (!(← one e).isMissing)]
  | "delete", [e] => core.deleteAt e
  | "scalar", [e] => return [← one e]
  | "wantarray", _ =>
    return [match (← get).wanted with
      | .many => .integer 1
      | .one => Value.empty
      | .nothing => .missing]
  | "undef", [] => return [.missing]
  | "undef", [e] =>
    match e with
    | .named ⟨'@', _⟩ | .target '@' _ => fillList (← core.container '@' e) []
    | .named ⟨'%', _⟩ | .target '%' _ => fillTable (← core.container '%' e) []
    | e => assignAt (← core.place e) .missing
    return [.missing]
  | "push", list :: rest =>
    let values ← core.listOf rest
    let list ← core.container '@' list
    let fresh ← values.mapM newScalar
    changeItems list fun items => fresh.foldl Array.push items
    return [.ofNat (← itemsAt list).size]
  | "unshift", list :: rest =>
    let values ← core.listOf rest
    let list ← core.container '@' list
    let fresh ← values.mapM newScalar
    changeItems list fun items => fresh.toArray ++ items
    return [.ofNat (← itemsAt list).size]
  | "pop", _ | "shift", _ =>
    let list ← match arguments with
      | list :: _ => core.container '@' list
      | [] => do
        let s ← get
        if s.calls.isEmpty then global ⟨'@', "ARGV"⟩ else pure s.arguments
    let items ← itemsAt list
    let taken := if name = "pop" then items.back? else items[0]?
    match taken with
    | none => return [.missing]
    | some address =>
      changeItems list fun items => if name = "pop" then items.pop else items.extract 1 items.size
      return [← valueAt address]
  | "splice", list :: rest =>
    let list ← core.container '@' list
    let values ← core.listOf rest
    let items ← itemsAt list
    let start := if values.isEmpty then 0 else (argument values 0).toInt
    let length := if values.length < 2 || (argument values 1).isMissing then none
      else some (argument values 1).toInt
    let (first, count) := (partOf? items.size start length).getD (items.size, 0)
    let fresh ← (values.drop 2).mapM newScalar
    changeItems list fun items =>
      items.extract 0 first ++ fresh.toArray ++ items.extract (first + count) items.size
    let removed ← valuesAt (items.extract first (first + count)).toList
    return if isMany then removed else [lastValue removed]
  | "keys", [e] | "values", [e] | "each", [e] => core.walk wanted name e
  | "chomp", _ | "chop", _ =>
    let addresses ← core.placesOfAll (if arguments.isEmpty then [Reader.topic] else arguments)
    let addresses ← match arguments with
      | [.assign target value] =>
        if isListTarget target then pure addresses
        else do pure [← core.place (.assign target value)]
      | _ => pure addresses
    let mut count := 0
    for address in addresses do
      let text ← textAt address
      if name = "chop" then assignAt address (.text text.dropLast)
      else if text.getLast? = some '\n' then
        assignAt address (.text text.dropLast)
        count := count + 1
    return [.ofNat count]
  | "split", _ =>
    let text ← textOf (← one (arguments.getD 1 Reader.topic))
    let limit ← match arguments[2]? with
      | some e => do pure (← one e).toInt
      | none => pure 0
    let (spelled, flags) ← match arguments.head? with
      | some (.matching none pattern flags) => do pure (← textOf (← one pattern), flags)
      | some e => do pure (← textOf (← one e), "awk")
      | none => pure ([' '], "awk")
    let parts ←
      if spelled = [' '] && flags = "awk" then do
        pure (split (← patternOf "\\s+".toList "") (text.dropWhile Scan.CharKind.isSpaceChar) limit)
      else do
        let flags := if flags = "awk" then "" else flags
        pure (split (← patternOf spelled (if spelled = ['^'] then flags ++ "m" else flags)) text limit)
    return if isMany then parts else [.ofNat parts.length]
  | "substr", text :: rest =>
    let content ← textOf (← one text)
    let numbers ← (rest.take 2).mapM one
    match partOf? content.length ((numbers.headD .missing).toInt)
      ((numbers[1]?.filter fun v => !v.isMissing).map Value.toInt) with
    | some (first, length) =>
      match rest[2]? with
      | some new => core.replacePart text (rest.take 2) (← one new)
      | none => pure ()
      return [.text ((content.drop first).take length)]
    | none => return [.missing]
  | "die", _ =>
    let value ← messageOf "Died" (← core.listOf arguments)
    let _ ← core.tellHandler "__DIE__" value
    throw (.die value)
  | "warn", _ =>
    let value ← messageOf "Warning: something's wrong" (← core.listOf arguments)
    if !(← core.tellHandler "__WARN__" value) then complain (← textOf value)
    return [.integer 1]
  | "kill", _ =>
    let values ← core.listOf arguments
    let process := (← get).machine.process
    let (own, others) := (values.drop 1).partition fun v => v.toInt = (process : Int)
    let name ← textOf (argument values 0)
    let name := match (String.ofList name).toNat? with
      | some n => (SignalName.all.getD n "").toList
      | none => if "SIG".toList.isPrefixOf name then name.drop 3 else name
    let mut count := 0
    for process in own do
      let handled ← core.tellHandler (String.ofList name) (.text name)
      if handled then count := count + 1
      else if ← signal (argument values 0) process.toInt then count := count + 1
    for process in others do
      if ← signal (argument values 0) process.toInt then count := count + 1
    return [.ofNat count]
  | "pos", _ =>
    match ← cellAt (← core.placeToRead (arguments.headD Reader.topic)) with
    | .scalar _ (some n) => return [.ofNat n]
    | _ => return [.missing]
  | "eval", [e] => core.runText wanted (← textOf (← one e))
  | "do", [e] =>
    match ← task (Task.readFile (← textOf (← one e))) with
    | .ok text => core.runText wanted text
    | .error e =>
      putSystemError e
      return [.missing]
  | "caller", _ =>
    let number ← match arguments.head? with
      | some e => do pure (← one e).toInt.toNat
      | none => pure 0
    match (← get).calls[number]? with
    | none => return []
    | some (routine, package, line) =>
      if !isMany then return [.text package.toList]
      else
        let names := [.text package.toList, .text (← get).file, .ofNat line]
        let shown := if routine.toList.contains ':' then routine
          else "main::" ++ (if routine = "" then "__ANON__" else routine)
        return if arguments.isEmpty then names else names ++ [.text shown.toList]
  | _, _ =>
    match ← core.handleFunction wanted name arguments with
    | some values => return values
    | none =>
      let arguments := if arguments.isEmpty && topicFunctions.contains name then [Reader.topic] else arguments
      let values ←
        if Reader.unaryFunctions.contains name || eachOneFunctions.contains name then arguments.mapM one
        else core.listOf arguments
      match ← plainFunction? core.execute name wanted values with
      | some found => return found
      | none => fail ("The ".toList ++ name.toList ++ " function is unimplemented".toList)

end KDispatch.Shell.Sigil.Core
