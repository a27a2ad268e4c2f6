import KDispatch.Shell.Indented.Evaluation

/-!
Doing statements: choices, loops, definitions, failures and what is done about them. The interpreter ties the
work on each part of a program to the work on the parts inside it.
-/

namespace KDispatch.Shell.Indented.Core

open Work

/-- How often a loop goes round at the most. -/
def manyRounds : Nat := 1000000000000

/-- How a round of a loop has ended. -/
inductive Round where
  | over
  | left

/-- Does one round of a loop. -/
def round (work : Work Unit) : Work Round := fun s =>
  match work s with
  | .ok () s => .ok .over s
  | .error .again s => .ok .over s
  | .error .stop s => .ok .left s
  | .error jump s => .error jump s

/-- Goes round as long as a condition holds; tells whether that has come to an end by itself. -/
def whileLoop (core : Core) (line : Nat) (condition : Expr) (body : List Statement) : (fuel : Nat) → Work Bool
  | 0 => return true
  | fuel + 1 => do
    setSpan (.ofLine line)
    let holds ← core.truth (← core.eval condition)
    if holds then
      match ← round (core.run body) with
      | .over => whileLoop core line condition body fuel
      | .left => return false
    else return true

/-- Goes round for each value. -/
def walkLoop (core : Core) (span : Span) (target : Expr) (body : List Statement) : List Value → Work Bool
  | [] => return true
  | v :: rest => do
    setSpan span
    match ← round (do
        core.assign target v
        core.run body) with
    | .over => walkLoop core span target body rest
    | .left => return false

/-- Goes round for each number of a range. -/
def rangeLoop (core : Core) (span : Span) (target : Expr) (body : List Statement) (step last : Int) :
    (fuel : Nat) → Int → Work Bool
  | 0, _ => return true
  | fuel + 1, n => do
    if (0 < step && last ≤ n) || (step < 0 && n ≤ last) then return true
    else
      setSpan span
      match ← round (do
          core.assign target (.integer n)
          core.run body) with
      | .over => rangeLoop core span target body step last fuel (n + step)
      | .left => return false

/-- Goes round for the items of a list, which may change on the way. -/
def listLoop (core : Core) (span : Span) (target : Expr) (body : List Statement) (address : Nat) :
    (fuel place : Nat) → Work Bool
  | 0, _ => return true
  | fuel + 1, place => do
    match ← objectAt address with
    | .list _ items =>
      match items[place]? with
      | some v => do
        setSpan span
        match ← round (do
            core.assign target v
            core.run body) with
        | .over => listLoop core span target body address fuel (place + 1)
        | .left => return false
      | none => return true
    | _ => return true

/-- Goes round for the lines of a file, which are read when they are wanted. -/
def fileLoop (core : Core) (span : Span) (target : Expr) (body : List Statement) (address : Nat) :
    (fuel : Nat) → Work Bool
  | 0 => return true
  | fuel + 1 => do
    setSpan span
    match ← readLine address with
    | .text [] | .bytes [] => return true
    | line =>
      match ← round (do
          core.assign target line
          core.run body) with
      | .over => fileLoop core span target body address fuel
      | .left => return false

/-- Goes round for the entries of a table, which may not get more or fewer on the way. -/
def tableLoop (core : Core) (span : Span) (target : Expr) (body : List Statement) (address size : Nat) :
    List Value → Work Bool
  | [] => do
    setSpan span
    checkSize
    return true
  | v :: rest => do
    setSpan span
    checkSize
    do
      match ← round (do
          core.assign target v
          core.run body) with
      | .over => tableLoop core span target body address size rest
      | .left => return false
where
  checkSize : Work Unit := do
    if (← entriesAt address).size ≠ size then
      fail "RuntimeError" "dictionary changed size during iteration".toList

/-- Goes round for the values of an expression. -/
def walk (core : Core) (span : Span) (target : Expr) (value : Value) (body : List Statement) : Work Bool := do
  match value with
  | .range first last step => core.rangeLoop span target body step last manyRounds first
  | .object address =>
    match ← objectAt address with
    | .list kind items =>
      if kind = "list" then core.listLoop span target body address manyRounds 0
      else core.walkLoop span target body items.toList
    | .file _ => core.fileLoop span target body address manyRounds
    | .table _ _ entries => core.tableLoop span target body address entries.size (entries.toList.map (·.1))
    | _ => core.walkLoop span target body (← core.items value)
  | value => core.walkLoop span target body (← core.items value)

/-- Fails again with a failure that has been caught; it has come from where it has come from before. -/
def failAgain {α : Type} (value : Value) : Work α := do
  match value with
  | .object address =>
    let outer := (← placesNow).dropLast
    modify fun s =>
      { s with traces := s.traces.map fun (n, trace) => (n, if n = address then outer ++ trace else trace) }
    throw (.failure value)
  | value => throw (.failure value)

/-- Does work about a failure. -/
def whileHandling {α : Type} (failure : Value) (work : Work α) : Work α := do
  modify fun s => { s with handling := failure :: s.handling }
  leavingWith work (modify fun s => { s with handling := s.handling.drop 1 })

/-- Does something at the end of work, however it ends, unless the program has ended. A failure is known while
that is done. -/
def finishing (work finish : Work Unit) : Work Unit := fun s =>
  match work s with
  | .ok () s => finish s
  | .error (.halt halt) s => .error (.halt halt) s
  | .error (.failure failure) s =>
    match whileHandling failure finish s with
    | .ok () s => .error (.failure failure) s
    | .error jump s => .error jump s
  | .error jump s =>
    match finish s with
    | .ok () s => .error jump s
    | .error jump s => .error jump s

/-- Does what the first handler that knows a failure tells. -/
def handle (core : Core) (failure : Value) : List Handler → Work Unit
  | [] => failAgain failure
  | .mk line kinds name body :: rest => do
    let isKnown ← match kinds with
      | none => pure true
      | some e => do
        setSpan (.ofLine line)
        let kinds ← whileHandling failure (core.eval e)
        isInstance failure 20 kinds
    if isKnown then
      match name with
      | some n => do
        assignName n failure
        leavingWith (whileHandling failure (core.run body)) (forgetName n)
      | none => whileHandling failure (core.run body)
    else handle core failure rest

/-- Does statements for which some failures are handled. -/
def attempt (core : Core) (body : List Statement) (handlers : List Handler) (otherwise finish : List Statement) :
    Work Unit := do
  let work : Work Unit := do
    if handlers.isEmpty then core.run body
    else
      match ← attempted (core.run body) with
      | .ok () => core.run otherwise
      | .error failure => core.handle failure handlers
  if finish.isEmpty then work else finishing work (core.run finish)

/-- Does statements while something is in use that is told of their end. -/
def within (core : Core) (span : Span) : List (Expr × Option Expr) → List Statement → Work Unit
  | [], body => core.run body
  | (e, target) :: rest, body => do
    let value ← core.eval e
    setSpan (.ofLine span.line)
    let find (name : String) : Work Value := do
      match ← core.member? value name with
      | some v => return v
      | none =>
        refuse ("'" ++ (← kindNameOf value) ++ "' object does not support the context manager protocol")
    let entered ← core.call (← find "__enter__") [] []
    let leave ← find "__exit__"
    let inner : Work Unit := do
      match target with
      | some t => core.assign t entered
      | none => pure ()
      within core span rest body
    let ended : Work Unit := do
      let _ ← core.call leave [.nothing, .nothing, .nothing] []
      return
    match ← attempted (fun s =>
      match inner s with
      | .error (.halt halt) s => .error (.halt halt) s
      | .error (.failure v) s => .error (.failure v) s
      | .error jump s =>
        match ended s with
        | .ok () s => .error jump s
        | .error jump s => .error jump s
      | .ok () s => .ok () s) with
    | .ok () => ended
    | .error failure => do
      let kind ← kindOf failure
      let known ← whileHandling failure (core.call leave [kind, failure, .nothing] [])
      if ← core.truth known then return else failAgain failure

/-- Changes what stands at a place by an operator. -/
def update (core : Core) (span : Span) (operator : String) (target : Expr) (value : Expr) : Work Unit := do
  let changed (old new : Value) : Work Value := do
    setSpan span
    let inPlace := "__i" ++ String.ofList ((methodNames operator).1.toList.drop 2)
    match ← core.special? old inPlace [new] with
    | some v => return v
    | none =>
      match old, operator, new with
      | .object address, "+", new =>
        match ← objectAt address with
        | .list kind items => do
          let more ← core.items new
          putObject address (.list kind (items ++ more.toArray))
          return old
        | _ => core.operate operator (operator ++ "=") old new
      | .object address, _, .object other =>
        match ← objectAt address, ← objectAt other with
        | .set kind a, .set _ b =>
          match core.operateSets? operator a.toList b.toList with
          | some work => do
            putObject address (.set kind (← work).toArray)
            return old
          | none => core.operate operator (operator ++ "=") old new
        | .table _ _ _, .table _ _ entries =>
          if operator = "|" then
            for (k, v) in entries do core.putEntry address k v
            return old
          else core.operate operator (operator ++ "=") old new
        | _, _ => core.operate operator (operator ++ "=") old new
      | .text t, "%", new => return .text (← core.filledIn t new)
      | _, _, _ => core.operate operator (operator ++ "=") old new
  match target with
  | .member _ object name => do
    let object ← core.eval object
    let old ← core.member object name
    core.putMemberOf object name (← changed old (← core.eval value))
  | .subscript _ object index => do
    let object ← core.eval object
    let index ← core.eval index
    setSpan span
    let old ← core.subscript object index
    core.putSubscript object index (← changed old (← core.eval value))
  | target => do
    let old ← core.eval target
    core.assign target (← changed old (← core.eval value))

/-- Brings the module with a name in. -/
def importModule (name : String) : Work Unit := do
  if Module.all.contains name then return
  else
    let first := Scope.firstName name
    if Module.all.contains first && first ≠ name then
      fail "ModuleNotFoundError" ("No module named '" ++ name ++ "'; '" ++ first ++ "' is not a package").toList
    else fail "ModuleNotFoundError" ("No module named '" ++ name ++ "'").toList

/-- Brings names of a module in. -/
def importNames (module : String) : List (String × Option String) → Work Unit
  | [] => return
  | ("*", _) :: rest => do
    for n in Module.functions module do assignName n (.builtin (module ++ "." ++ n))
    for (n, kind) in Module.kinds module do assignName n (.kind kind)
    importNames module rest
  | (name, own) :: rest => do
    match ← moduleMember? module name with
    | some v => assignName (own.getD name) v
    | none =>
      if module = "__future__" then pure ()
      else if Module.all.contains (module ++ "." ++ name) then
        assignName (own.getD name) (.module (module ++ "." ++ name))
      else
        fail "ImportError" ("cannot import name '" ++ name ++ "' from '" ++ module ++ "' (unknown location)").toList
    importNames module rest

/-- Puts around a value what stands above its definition. -/
def decorated (core : Core) (decorators : List Value) (value : Value) : Work Value :=
  decorators.reverse.foldlM (fun value decorator => core.call decorator [value] []) value

/-- Makes a kind of a body of definitions. -/
def defineKind (core : Core) (line : Nat) (name : String) (bases : List Argument) (body : List Statement) :
    Work Value := do
  let (bases, _) ← core.argumentValues bases
  let isTuple := bases.any fun b =>
    match b with
    | .builtin "typing.NamedTuple" => true
    | _ => false
  let bases := bases.filter fun b =>
    match b with
    | .builtin _ => false
    | _ => true
  let s ← get
  let frame := s.frames.headD ⟨"<module>", .ofLine 0, [s.top], [s.top], [], [], []⟩
  let cell ← alloc (.scope [])
  let scope ← alloc (.scope [])
  let known := cell :: frame.known
  let inner : Frame := ⟨name, .ofLine line, scope :: frame.known, known, [], [], []⟩
  inFrame inner (core.run body)
  let members ← namesAt scope
  let fields ← match members.lookup "__annotations__" with
    | some (.object table) => pure ((← entriesAt table).toList.map (·.1))
    | _ => pure []
  let usual := fields.filterMap fun f =>
    match f with
    | .text t => members.lookup (String.ofList t)
    | _ => none
  let marks : List (String × Value) :=
    if isTuple then [("_fields", .tuple fields), ("__usual__", .tuple usual), ("__tuple__", .boolean true)] else []
  let members := if isTuple then members.filter fun (n, _) => !fields.any fun f =>
      match f with
      | .text t => String.ofList t = n
      | _ => false
    else members
  let note : List (String × Value) := match body with
    | .expression _ (.text t) :: _ => [("__doc__", .text t)]
    | _ => []
  let kind ← new (.classes name bases (note ++ members ++ marks))
  bindIn cell "__class__" kind
  match ← memberIn? "__init_subclass__" ((← lineage 50 kind).drop 1) with
  | some (.object function) =>
    let _ ← core.callRoutine function [kind] []
    return kind
  | _ => return kind

/-- The failure that a value stands for. -/
def failureOf (core : Core) (value : Value) : Work Value := do
  let refused : Work Value := refuse "exceptions must derive from BaseException"
  let isFailure (kind : Value) : Work Bool := isSubkind kind (.kind "BaseException")
  match value with
  | .kind _ => do
    if ← isFailure value then core.call value [] [] else refused
  | .object address =>
    match ← objectAt address with
    | .classes _ _ _ => do
      if ← isFailure value then core.call value [] [] else refused
    | .record kind _ => do
      if ← isFailure kind then return value else refused
    | _ => refused
  | _ => refused

/-- Does one statement. -/
def executeStep (core : Core) (statement : Statement) : Work Unit := do
  match statement with
  | .expression span e => do
    setSpan span
    let _ ← core.eval e
    return
  | .assign span targets value => do
    setSpan span
    let v ← core.eval value
    for (span, target) in targets do
      setSpan span
      core.assign target v
  | .declared span target value => do
    setSpan span
    let s ← get
    match value with
    | some e => core.assign target (← core.eval e)
    | none => pure ()
    match s.frames, target with
    | frame :: _, .name _ name =>
      -- Kinds keep the names that are declared in them, in their order.
      if frame.scopes.head? ≠ frame.known.head? then
        match (← namesAt (frame.scopes.headD s.top)).lookup "__annotations__" with
        | some (.object table) => core.putEntry table (.text name.toList) .nothing
        | _ => do
          let table ← newTable [(.text name.toList, .nothing)]
          bindIn (frame.scopes.headD s.top) "__annotations__" table
    | _, _ => return
  | .update span operator target value => do
    setSpan span
    core.update span operator target value
  | .returned span value => do
    setSpan span
    match value with
    | some e => do throw (.give (← core.eval e))
    | none => throw (.give .nothing)
  | .choice line branches otherwise => do
    let rec go : List (Expr × List Statement) → Work Unit
      | [] => core.run otherwise
      | (condition, body) :: rest => do
        if ← core.truth (← core.eval condition) then core.run body else go rest
    setSpan (.ofLine line)
    go branches
  | .loop line condition body otherwise => do
    if ← core.whileLoop line condition body manyRounds then core.run otherwise
  | .walk line span target items body otherwise => do
    setSpan (.ofLine line)
    let value ← core.eval items
    setSpan (.ofLine line)
    if ← core.walk span target value body then core.run otherwise
  | .function line name parameters body decorators => do
    setSpan (.ofLine line)
    let decorators ← decorators.mapM core.eval
    let function ← core.newFunction name parameters body
    assignName name (← core.decorated decorators function)
  | .classes line name bases body decorators => do
    setSpan (.ofLine line)
    let decorators ← decorators.mapM core.eval
    let kind ← core.defineKind line name bases body
    assignName name (← core.decorated decorators kind)
  | .within span items body => do
    setSpan span
    core.within span items body
  | .attempt _ body handlers otherwise finish => core.attempt body handlers otherwise finish
  | .failure span value cause => do
    setSpan span
    match value with
    | none =>
      match (← get).handling with
      | failure :: _ => failAgain failure
      | [] => fail "RuntimeError" "No active exception to reraise".toList
    | some e => do
      let failure ← core.failureOf (← core.eval e)
      match cause, failure with
      | some c, .object address => do
        let cause ← core.eval c
        let cause ← match cause with
          | .nothing => pure cause
          | cause => core.failureOf cause
        match ← objectAt address with
        | .record kind members =>
          putObject address (.record kind (replaceEntry "__cause__" cause members))
        | _ => pure ()
      | _, _ => pure ()
      setSpan span
      raise failure
  | .imported span names => do
    setSpan span
    for (name, own) in names do
      importModule name
      match own with
      | some n => assignName n (.module name)
      | none =>
        let first := Scope.firstName name
        assignName first (.module first)
  | .importedFrom span module names => do
    setSpan span
    importModule module
    importNames module names
  | .erase span targets => do
    for target in targets do
      setSpan span
      match target with
      | .name _ name => do
        let _ ← nameValue name
        forgetName name
      | .member _ object name => do eraseMember (← core.eval object) name
      | .subscript _ object index => do
        let object ← core.eval object
        core.eraseSubscript object (← core.eval index)
      | _ => fail "SyntaxError" "cannot delete expression".toList
  | .assertion span condition message => do
    setSpan span
    if ← core.truth (← core.eval condition) then return
    else
      let arguments ← match message with
        | some e => do pure [← core.eval e]
        | none => pure []
      setSpan span
      raise (← newFailure "AssertionError" arguments)
  | .globals names => do
    -- Names of the whole program stay such in definitions of kinds too.
    modify fun s =>
      match s.frames with
      | frame :: rest => { s with frames := { frame with globals := frame.globals ++ names } :: rest }
      | [] => s
  | .outers _ => return
  | .stop => throw .stop
  | .again => throw .again
  | .pass => return

/-- Does statements one after the other. -/
def runStep (core : Core) : List Statement → Work Unit
  | [] => return
  | statement :: rest => do
    core.executeStep statement
    runStep core rest

/-! The interpreter: the work on each part of a program, with the work on the parts inside it. -/

/-- How deep parts of a program may stand inside one another while it runs. -/
def plenty : Nat := 1000000000

/-- Work on parts of a program that stand inside one another up to some depth. -/
def ofDepth (execute : Utility.Execute) : (depth : Nat) → Core
  | 0 =>
    let refuse {α : Type} : Work α := Work.fail "RecursionError" "maximum recursion depth exceeded".toList
    { execute
      eval := fun _ => refuse, assign := fun _ _ => refuse, run := fun _ => refuse
      call := fun _ _ _ => refuse, spell := fun _ => refuse, equal := fun _ _ => refuse
      precedes := fun _ _ => refuse, items := fun _ => refuse }
  | depth + 1 =>
    { execute
      eval := fun e s => (ofDepth execute depth).evalStep e s
      assign := fun e value s => (ofDepth execute depth).assignStep e value s
      run := fun statements s => (ofDepth execute depth).runStep statements s
      call := fun value plain named s => (ofDepth execute depth).callStep value plain named s
      spell := fun value s => (ofDepth execute depth).spellStep value s
      equal := fun a b s => (ofDepth execute depth).equalStep a b s
      precedes := fun a b s => (ofDepth execute depth).precedesStep a b s
      items := fun value s => (ofDepth execute depth).itemsStep value s }

end KDispatch.Shell.Indented.Core
