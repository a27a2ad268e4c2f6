import KDispatch.Shell.Sigil.Calling
import KDispatch.Shell.Sigil.Calls

/-!
The interpreter: the values of expressions, and statements.
-/

namespace KDispatch.Shell.Sigil.Core

open Work

/-- The value of an expression. -/
def scalarStep (core : Core) (e : Expr) : Work Value := do
  match e with
  | .integer n => return .integer n
  | .number x => return .number x
  | .text t => return .text t
  | .joined parts =>
    let texts ← parts.mapM fun part => do textOf (← core.scalar part)
    return .text texts.flatten
  | .named name => namedValue name
  | .element list index =>
    let list ← core.container '@' list
    match ← elementPlace? list (← core.scalar index).toInt with
    | some address => valueAt address
    | none => return .missing
  | .entry table key =>
    let table ← core.container '%' table
    match ← entryPlace? table (← core.keyText key) with
    | some address => valueAt address
    | none => return .missing
  | .target sigil reference =>
    if sigil = '$' then valueAt (← core.place e)
    else
      let _ := reference
      valueAt (← core.container sigil e)
  | .lastIndex list =>
    return .integer ((← itemsAt (← core.container '@' list)).size - 1 : Int)
  | .list items =>
    for item in items.dropLast do
      let _ ← core.evaluate .nothing item
    match items.getLast? with
    | some item => core.scalar item
    | none => return .missing
  | .reference target => return lastValue (← core.references target)
  | .newList items => return .reference (← newList (← core.listOf items))
  | .newTable items =>
    let values ← core.listOf items
    let table ← alloc (.table #[] 0)
    fillTable table values
    return .reference table
  | .closure name body =>
    let s ← get
    return .reference (← alloc (.code ⟨name, s.package, body, some s.scope⟩))
  | .unary operator operand => operateOn operator (← core.scalar operand)
  | .binary operator a b =>
    let first ← core.scalar a
    operate operator first (← core.scalar b)
  | .update operator target value =>
    let address ← core.place target
    let old ← valueAt address
    match operator with
    | "||" | "&&" | "//" =>
      let keeps := match operator with
        | "||" => old.isTrue
        | "&&" => !old.isTrue
        | _ => !old.isMissing
      if keeps then return old
      else
        let new ← core.scalar value
        assignAt address new
        return new
    | _ =>
      let operand ← core.scalar value
      let new ← operate operator (← valueAt address) operand
      assignAt address new
      return new
  | .step isBefore delta target =>
    let address ← core.place target
    let old ← valueAt address
    let new := stepped delta old
    assignAt address new
    if isBefore then return new
    else return match old with
      | .missing => if delta = 1 then .integer 0 else .missing
      | old => old
  | .substitution target pattern replacement flags =>
    core.substitute target pattern replacement flags
  | .transliteration target source replacement flags =>
    let address ← match target with
      | some e => core.place e
      | none => core.place Reader.topic
    let (new, count) := transliterated source replacement flags (← textAt address)
    if flags.toList.contains 'r' then return .text new
    else
      if 0 < count && !(replacement.isEmpty && !flags.toList.contains 'd') then assignAt address (.text new)
      return .ofNat count
  | .patternObject pattern flags =>
    let text ← textOf (← core.scalar pattern)
    let letters := flags.toList.filter fun c => "msix".toList.contains c
    return .pattern ("(?^".toList ++ letters ++ ':' :: text ++ [')'])
  | .fileTest letter operand =>
    match operand with
    | .word name =>
      if ["STDIN", "STDOUT", "STDERR"].contains name then
        return if letter = 't' then Value.empty else .ofBool (letter = 'e')
      else testFile letter name.toList
    | operand => testFile letter (← textOf (← core.scalar operand))
  | .print kind handle arguments =>
    let address ← match handle with
      | none => pure (← get).selected
      | some e => core.handleOf e
    let values ← core.listOf (if arguments.isEmpty then [Reader.topic] else arguments)
    let text ← match kind with
      | .formatted => Format.ofValues values
      | kind => do
        let texts ← values.mapM textOf
        let between ← textOf (← globalValue ",")
        let behind ← textOf (← globalValue "\\")
        pure (between.intercalate texts ++ (if kind = .line then ['\n'] else []) ++ behind)
    return .ofBool (← writeTo address text)
  | .word name =>
    match ← routine? (qualified (← get).package name) with
    | some _ => return lastValue (← core.callNamed .one name [] false)
    | none => return .text name.toList
  | .declared _ _ _ | .localized _ =>
    if isListTarget e then
      let places ← core.places e
      return .ofNat places.length
    else valueAt (← core.place e)
  | e => return lastValue (← core.evaluate .one e)

/-- What an expression gives in a context. Expressions that do not look at it are asked for their value. -/
def evaluateStep (core : Core) (wanted : Context) (e : Expr) : Work (List Value) := do
  let isMany := wanted = .many
  match e with
  | .named name =>
    if isMany then
      match name.sigil with
      | '@' => valuesAt (← itemsAt (← namedPlace name)).toList
      | '%' => tableValues (← namedPlace name)
      | _ => return [← namedValue name]
    else return [← namedValue name]
  | .target sigil _ =>
    if isMany && sigil = '@' then valuesAt (← itemsAt (← core.container '@' e)).toList
    else if isMany && sigil = '%' then tableValues (← core.container '%' e)
    else return [← core.scalar e]
  | .list items => if isMany then core.listOf items else return [← core.scalar e]
  | .reference target => if isMany then core.references target else return [← core.scalar e]
  | .declared _ _ _ | .localized _ =>
    if isMany then valuesAt (← core.places e) else return [← core.scalar e]
  | .binary "x" (.list items) count =>
    if isMany then
      let values ← core.listOf items
      let n ← core.scalar count
      return (List.replicate n.toInt.toNat values).flatten
    else return [← core.scalar e]
  | .elements list indices =>
    let list ← core.container '@' list
    (← core.evaluate .many indices).mapM fun index => do
      match ← elementPlace? list index.toInt with
      | some address => valueAt address
      | none => return .missing
  | .entries table keys =>
    let table ← core.container '%' table
    (← core.evaluate .many keys).mapM fun key => do
      match ← entryPlace? table (← textOf key) with
      | some address => valueAt address
      | none => return .missing
  | .keyedEntries table keys =>
    let table ← core.container '%' table
    let pairs ← (← core.evaluate .many keys).mapM fun key => do
      let value ← match ← entryPlace? table (← textOf key) with
        | some address => valueAt address
        | none => pure .missing
      return [key, value]
    return pairs.flatten
  | .picked list indices =>
    let values := (← core.evaluate .many list).toArray
    let indices ← core.evaluate .many indices
    if values.isEmpty then return []
    else
      return indices.map fun index =>
        let n : Int := index.toInt
        let n : Int := if n < 0 then n + values.size else n
        if n < 0 then .missing else values.getD n.toNat .missing
  | .call name arguments passesOn => core.callNamed wanted name arguments passesOn
  | .callCode code arguments passesOn =>
    let address ← dereferenced '&' (← core.scalar code)
    if passesOn && arguments.isEmpty then core.callRoutine wanted address (← get).arguments
    else
      let given ← core.placesOfAll arguments
      core.callRoutine wanted address (← alloc (.list given.toArray))
  | .method object name chosen arguments => core.callMethod wanted object name chosen arguments
  | .function name arguments => core.callFunction wanted name arguments
  | .both a b =>
    let first ← core.scalar a
    if first.isTrue then core.evaluate wanted b else return [first]
  | .either a b =>
    let first ← core.scalar a
    if first.isTrue then return [first] else core.evaluate wanted b
  | .orDefined a b =>
    let first ← core.scalar a
    if first.isMissing then core.evaluate wanted b else return [first]
  | .conditional condition a b =>
    if (← core.scalar condition).isTrue then core.evaluate wanted a
    else core.evaluate wanted b
  | .assign target value => core.assign wanted target value
  | .range a b =>
    if isMany then
      let first ← core.scalar a
      return rangeOf first (← core.scalar b)
    else core.between a b
  | .matching target pattern flags =>
    let s ← core.searchOf target pattern flags
    if s.has 'g' then
      if isMany then searchAll s else return [.ofBool (← searchOn s)]
    else
      match ← searchOnce s with
      | some f =>
        if isMany && 1 < f.groups.size then return f.captures else return [.integer 1]
      | none => return if isMany then [] else [Value.empty]
  | .readLine handle =>
    let address ← core.handleOf handle
    if isMany then return (← restLines address manyBlocks).map .text
    else
      match ← nextLine address with
      | some line => return [.text line]
      | none => return [.missing]
  | .files pattern =>
    let found ← pathsOf (← textOf (← core.scalar pattern))
    return if isMany then found else found.take 1
  | .sorted comparison items =>
    let values ← core.listOf items
    match comparison with
    | none =>
      let keyed ← values.mapM fun value => do return (← textOf value, value)
      return (keyed.mergeSort fun a b => compareTexts a.1 b.1 ≠ .gt).map (·.2)
    | some e =>
      let (first, second) := (← newScalar .missing, ← newScalar .missing)
      let compare (a b : Value) : Work Int := do
        assignAt first a
        assignAt second b
        return (← core.scalar e).toInt
      withGlobal ⟨'$', "a"⟩ <| withGlobal ⟨'$', "b"⟩ do
        bindGlobal ⟨'$', "a"⟩ first
        bindGlobal ⟨'$', "b"⟩ second
        sortedBy compare (values.length + 1) values
  | .mapped body items =>
    let places ← core.placesOfAll items
    let found ← withGlobal topicName do
      places.foldlM (fun found address => do
        bindGlobal topicName address
        return (← core.evaluate .many body).foldl Array.push found) #[]
    return if isMany then found.toList else [.ofNat found.size]
  | .filtered body items =>
    let found ← core.passing body items
    if isMany then valuesAt found else return [.ofNat found.length]
  | .block body =>
    match body with
    | [.expression line e] =>
      setLine line
      core.evaluate wanted e
    | body => inBlock (core.bodyValues wanted body)
  | .attempt body =>
    match ← attempted (inBlock (core.bodyValues wanted body)) with
    | .ok values =>
      putGlobal "@" Value.empty
      return values
    | .error value =>
      putGlobal "@" value
      return if isMany then [] else [.missing]
  | .jump kind label => throw (.loop kind label)
  | .returned value =>
    let outer := (← get).wanted
    match value with
    | none => throw (.give [])
    | some e =>
      if outer = .many then throw (.give (← core.evaluate .many e))
      else throw (.give [← core.scalar e])
  | .output command =>
    let text ← outputOf core.execute [← textOf (← core.scalar command)]
    if isMany then return (Utility.fullLines text).map .text else return [.text text]
  | e => return [← core.scalar e]

/-- Does a body as long as a condition holds. -/
def loop (core : Core) (line : Nat) (label : Option String) (condition : Option Expr) (isUntil : Bool)
    (body more : List Statement) : (fuel : Nat) → Work Unit
  | 0 => return
  | fuel + 1 => do
    setLine line
    let holds ← match condition with
      | none => pure true
      | some e => do pure ((← core.scalar (readingCondition e)).isTrue != isUntil)
    if holds then
      if ← inLoop label (inBlock (core.run body)) then
        core.run more
        core.loop line label condition isUntil body more fuel

/-- Does a statement. -/
def statement (core : Core) (s : Statement) : Work Unit := do
  match s with
  | .expression line e =>
    setLine line
    let _ ← core.evaluate .nothing e
  | .choice line branches otherwise =>
    setLine line
    let body ← branchFor (fun e => do return (← core.scalar e).isTrue) branches
    inBlock (core.run (body.getD otherwise))
  | .loop line label condition isUntil body more =>
    inBlock (core.loop line label condition isUntil body more plenty)
  | .repeating line condition isUntil body =>
    setLine line
    inBlock (core.run body)
    core.loop line none (some condition) isUntil [.block none body] [] plenty
  | .counting line label start condition step body =>
    inBlock do
      setLine line
      match start with
      | some e =>
        let _ ← core.evaluate .nothing e
      | none => pure ()
      let more := match step with
        | some e => [Statement.expression line e]
        | none => []
      core.loop line label condition false body more plenty
  | .each line label item items body =>
    setLine line
    let addresses ← core.places items
    match item with
    | some (isNew, name) =>
      let isKnown := ((← get).scope.lookup name).isSome
      if isNew || isKnown then
        for address in addresses do
          let goesOn ← inLoop label (inBlock do
            modify fun s => { s with scope := (name, address) :: s.scope }
            core.run body)
          if !goesOn then break
      else
        let name : Name := ⟨name.sigil, qualified (← get).package name.text⟩
        withGlobal name do
          for address in addresses do
            bindGlobal name address
            if !(← inLoop label (inBlock (core.run body))) then break
    | none =>
      withGlobal topicName do
        for address in addresses do
          bindGlobal topicName address
          if !(← inLoop label (inBlock (core.run body))) then break
  | .block label body =>
    let _ ← inLoop label (inBlock (core.run body))
  | .sub _ name body =>
    let s ← get
    if 0 < s.depth then define name body (some s.scope)
  | .package name none => modify fun s => { s with package := name }
  | .package name (some body) =>
    inBlock do
      modify fun s => { s with package := name }
      core.run body
  | .parents _ => return
  | .special isEnd body => if !isEnd then inBlock (core.run body)

/-- Does statements; what the last one gives is the value of them all. -/
def bodyValuesStep (core : Core) (wanted : Context) (statements : List Statement) : Work (List Value) := do
  for s in statements.dropLast do core.statement s
  match statements.getLast? with
  | none => return []
  | some (.expression line e) =>
    setLine line
    if wanted = .many then core.evaluate .many e
    else if wanted = .one then return [← core.scalar e]
    else core.evaluate .nothing e
  | some (.choice line branches otherwise) =>
    setLine line
    let body ← branchFor (fun e => do return (← core.scalar e).isTrue) branches
    inBlock (core.bodyValues wanted (body.getD otherwise))
  | some (.block none body) => inBlock (core.bodyValues wanted body)
  | some s =>
    core.statement s
    return []

/-- Does statements one after the other. -/
def runStep (core : Core) (statements : List Statement) : Work Unit := do
  for s in statements do core.statement s

/-- The work of parts of a program that are nested so deep at the most. -/
def ofDepth (execute : Utility.Execute) : (depth : Nat) → Core
  | 0 =>
    let refuse {α : Type} : Work α := fail "out of memory".toList
    { execute
      scalar := fun _ => refuse, evaluate := fun _ _ => refuse, place := fun _ => refuse
      container := fun _ _ => refuse, places := fun _ => refuse, localize := fun _ => refuse
      assignList := fun _ _ => refuse, references := fun _ => refuse, handleOf := fun _ => refuse
      callRoutine := fun _ _ _ => refuse, bodyValues := fun _ _ => refuse, run := fun _ => refuse }
  | depth + 1 =>
    { execute
      scalar := fun e s => (ofDepth execute depth).scalarStep e s
      evaluate := fun wanted e s => (ofDepth execute depth).evaluateStep wanted e s
      place := fun e s => (ofDepth execute depth).placeStep e s
      container := fun sigil e s => (ofDepth execute depth).containerStep sigil e s
      places := fun e s => (ofDepth execute depth).placesStep e s
      localize := fun e s => (ofDepth execute depth).localizeStep e s
      assignList := fun e values s => (ofDepth execute depth).assignListStep e values s
      references := fun e s => (ofDepth execute depth).referencesStep e s
      handleOf := fun e s => (ofDepth execute depth).handleOfStep e s
      callRoutine := fun wanted address arguments s =>
        (ofDepth execute depth).callRoutineStep wanted address arguments s
      bodyValues := fun wanted statements s => (ofDepth execute depth).bodyValuesStep wanted statements s
      run := fun statements s => (ofDepth execute depth).runStep statements s }

end KDispatch.Shell.Sigil.Core
