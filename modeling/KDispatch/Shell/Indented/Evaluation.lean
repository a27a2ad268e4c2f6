import KDispatch.Shell.Indented.Builtins

/-!
Calls, and the values of expressions.
-/

/-! ## Calls

Calls of functions of the program: which names belong to a call, how arguments are bound to parameters, and how
objects of the program's kinds are made.
-/

namespace KDispatch.Shell.Indented

namespace Scope

/-- The names that are given values by an assignment. -/
def targetNames : (fuel : Nat) → Expr → List String
  | 0, _ => []
  | fuel + 1, e =>
    match e with
    | .name _ n => [n]
    | .tuple items | .list items => items.flatMap (targetNames fuel)
    | .starred e => targetNames fuel e
    | _ => []

/-- The first of the names of a module. -/
def firstName (dotted : String) : String := String.ofList (dotted.toList.takeWhile (· ≠ '.'))

/-- The names that statements give values, those of the whole program, and those of the functions around. -/
structure Names where
  assigned : List String
  globals : List String
  outers : List String

def Names.join (a b : Names) : Names :=
  ⟨a.assigned ++ b.assigned, a.globals ++ b.globals, a.outers ++ b.outers⟩

def Names.ofAssigned (names : List String) : Names := ⟨names, [], []⟩

/-- The names that a statement is about. -/
def namesOf : (fuel : Nat) → Statement → Names
  | 0, _ => .ofAssigned []
  | fuel + 1, s =>
    let all (statements : List Statement) : Names :=
      (statements.map (namesOf fuel)).foldl Names.join (.ofAssigned [])
    let targets (es : List Expr) : Names := .ofAssigned (es.flatMap (targetNames 20))
    match s with
    | .assign _ es _ => targets (es.map (·.2))
    | .declared _ e (some _) => targets [e]
    | .update _ _ e _ => targets [e]
    | .erase _ es => targets es
    | .choice _ branches otherwise => (all (branches.flatMap (·.2))).join (all otherwise)
    | .loop _ _ body otherwise => (all body).join (all otherwise)
    | .walk _ _ target _ body otherwise => (targets [target]).join ((all body).join (all otherwise))
    | .function _ name _ _ _ => .ofAssigned [name]
    | .classes _ name _ _ _ => .ofAssigned [name]
    | .within _ items body => (targets (items.filterMap (·.2))).join (all body)
    | .attempt _ body handlers otherwise finish =>
      let handled := handlers.map fun handler =>
        match handler with
        | .mk _ _ name body => (Names.ofAssigned name.toList).join (all body)
      (all (body ++ otherwise ++ finish)).join (handled.foldl Names.join (.ofAssigned []))
    | .imported _ names => .ofAssigned (names.map fun (n, own) => own.getD (firstName n))
    | .importedFrom _ _ names => .ofAssigned (names.map fun (n, own) => own.getD n)
    | .globals names => ⟨[], names, []⟩
    | .outers names => ⟨[], [], names⟩
    | _ => .ofAssigned []

/-- Whether a statement gives values one by one to who walks over them. -/
def givesSteps : (fuel : Nat) → Statement → Bool
  | 0, _ => false
  | fuel + 1, s =>
    let any (statements : List Statement) : Bool := statements.any (givesSteps fuel)
    let isYield : Expr → Bool
      | .yielded _ _ => true
      | _ => false
    match s with
    | .expression _ e => isYield e
    | .assign _ _ e => isYield e
    | .update _ _ _ e => isYield e
    | .returned _ (some e) => isYield e
    | .choice _ branches otherwise => any (branches.flatMap (·.2)) || any otherwise
    | .loop _ _ body otherwise => any body || any otherwise
    | .walk _ _ _ _ body otherwise => any body || any otherwise
    | .within _ _ body => any body
    | .attempt _ body handlers otherwise finish =>
      any (body ++ otherwise ++ finish) || handlers.any fun handler =>
        match handler with
        | .mk _ _ _ body => any body
    | _ => false

end Scope

/-- The parameters of a function by how arguments reach them. -/
structure Signature where
  plain : List String
  rest : Option String
  /-- Parameters that are reached by their names only. -/
  onlyNamed : List String
  named : Option String

/-- Sorts parameters by how arguments reach them. -/
def Signature.ofParameters (parameters : List Parameter) : Signature :=
  let step (state : Signature × Bool) (p : Parameter) : Signature × Bool :=
    let (s, isBehind) := state
    match p with
    | .plain name _ =>
      if isBehind then ({ s with onlyNamed := s.onlyNamed ++ [name] }, true)
      else ({ s with plain := s.plain ++ [name] }, false)
    | .rest name => ({ s with rest := name }, true)
    | .named name => ({ s with named := some name }, true)
    | .slash => (s, isBehind)
  (parameters.foldl step (⟨[], none, [], none⟩, false)).1

namespace Core

open Work

/-- Names in quotes, with a word before the last one. -/
def listed (names : List String) : String :=
  let shown := names.map fun n => "'" ++ n ++ "'"
  match shown with
  | [] => ""
  | [a] => a
  | [a, b] => a ++ " and " ++ b
  | many => ", ".intercalate many.dropLast ++ ", and " ++ many.getLast?.getD ""

/-- Binds arguments to the parameters of a function. -/
def bound (r : Routine) (plain : List Value) (named : List (String × Value)) : Work (List (String × Value)) := do
  let s := Signature.ofParameters r.parameters
  let function := r.fullName ++ "()"
  let refused {α : Type} (text : String) : Work α := refuse (function ++ " " ++ text)
  let direct := s.plain.zip plain
  let surplus := plain.drop s.plain.length
  match named.find? fun (n, _) => (direct.lookup n).isSome with
  | some (n, _) => refused ("got multiple values for argument '" ++ n ++ "'")
  | none => pure ()
  let isKnown (n : String) : Bool := s.plain.contains n || s.onlyNamed.contains n
  let unknown := named.filter fun (n, _) => !isKnown n
  match unknown, s.named with
  | (n, _) :: _, none => refused ("got an unexpected keyword argument '" ++ n ++ "'")
  | _, _ => pure ()
  if !surplus.isEmpty && s.rest.isNone then
    let optional := (s.plain.filter fun n => (r.usual.lookup n).isSome).length
    let (least, most) := (s.plain.length - optional, s.plain.length)
    let count := if optional = 0 then toString most else "from " ++ toString least ++ " to " ++ toString most
    refused ("takes " ++ count ++ " positional argument" ++ (if most = 1 && optional = 0 then "" else "s") ++
      " but " ++ toString plain.length ++ (if plain.length = 1 then " was" else " were") ++ " given")
  let valueFor (n : String) : Option Value := (direct.lookup n).or ((named.lookup n).or (r.usual.lookup n))
  let missing (what : String) (names : List String) : Work Unit := do
    match names.filter fun n => (valueFor n).isNone with
    | [] => return
    | absent =>
      refused ("missing " ++ toString absent.length ++ " required " ++ what ++ " argument" ++
        (if absent.length = 1 then "" else "s") ++ ": " ++ listed absent)
  missing "positional" s.plain
  missing "keyword-only" s.onlyNamed
  let fixed := (s.plain ++ s.onlyNamed).filterMap fun n => (valueFor n).map fun v => (n, v)
  let rest := match s.rest with
    | some n => [(n, Value.tuple surplus)]
    | none => []
  let others ← match s.named with
    | some n => do
      pure [(n, ← newTable (unknown.map fun (n, v) => (.text n.toList, v)))]
    | none => pure []
  let first := match plain with
    | v :: _ => [("__first__", v)]
    | [] => []
  return fixed ++ rest ++ others ++ first

/-- How many calls may run inside one another. -/
def callLimit : Nat := 990

/-- Does the work of a function; what it returns is the value. -/
def returning (work : Work Unit) : Work Value := fun s =>
  match work s with
  | .ok () s => .ok .nothing s
  | .error (.give v) s => .ok v s
  | .error jump s => .error jump s

/-- Collects the values that work gives one by one. -/
def collectingSteps (work : Work Value) : Work Value := do
  modify fun s => { s with given := [] :: s.given }
  let found ← leavingWith (do
    let _ ← work
    return ((← get).given.headD []).reverse) (modify fun s => { s with given := s.given.drop 1 })
  new (.steps "generator" found)

/-- Calls a function of the program. -/
def callRoutine (core : Core) (address : Nat) (plain : List Value) (named : List (String × Value)) :
    Work Value := do
  match ← objectAt address with
  | .function r => do
    if callLimit < (← get).frames.length then
      fail "RecursionError" "maximum recursion depth exceeded".toList
    else
      let names ← bound r plain named
      let scope ← alloc (.scope names)
      let scopes := scope :: r.scopes
      let frame : Frame := ⟨r.name, .ofLine 0, scopes, scopes, r.locals, r.globals, r.outers⟩
      let work : Work Value := inFrame frame (returning (core.run r.body))
      if r.givesSteps then collectingSteps work else work
  | _ => return .nothing

/-- Makes an object of a kind with fields. -/
def newData (core : Core) (kind : Value) (isFrozen : Bool) (plain : List Value) (named : List (String × Value)) :
    Work Value := do
  let fields ← dataFields kind
  let name ← kindName kind
  let usualOf (v : Value) : Work (Option Value) := do
    match v with
    | .object address =>
      match ← objectAt address with
      | .record (.kind "field") members =>
        match members.lookup "__make__" with
        | some make => return some (← core.call make [] [])
        | none => return none
      | _ => return some v
    | v => return some v
  let routine : Routine :=
    { name := "__init__", fullName := name ++ ".__init__"
      parameters := .plain "self" none :: fields.map fun (n, _) => .plain n none
      usual := ← (do
        let found ← fields.mapM fun (n, v) => do
          match v with
          | some v => return (← usualOf v).map fun v => (n, v)
          | none => return none
        return found.filterMap id)
      body := [], scopes := [], locals := [], globals := [], outers := [], givesSteps := false, note := none }
  let members ← bound routine (.nothing :: plain) named
  let members := members.filter fun (n, _) => n ≠ "self" && n ≠ "__first__"
  let shown := ("__fields__", Value.tuple (fields.map fun (n, _) => .text n.toList))
  let object ← new (.record kind (members ++ [shown]))
  match ← Work.special? object "__post_init__" with
  | some function =>
    let _ ← core.call function [] []
    pure ()
  | none => pure ()
  match isFrozen, object with
  | true, .object address =>
    match ← objectAt address with
    | .record kind members => putObject address (.record kind (members ++ [("__frozen__", .boolean true)]))
    | _ => pure ()
  | _, _ => pure ()
  return object

/-- Makes an object of a kind of the program. -/
def instantiate (core : Core) (kind : Value) (plain : List Value) (named : List (String × Value)) :
    Work Value := do
  let name ← kindName kind
  match ← memberOf? kind "__init__", ← memberOf? kind "__data__", ← memberOf? kind "__tuple__" with
  | none, some (.boolean isFrozen), _ => core.newData kind isFrozen plain named
  | none, _, some _ => do
    let fields := tupleItems ((← memberOf? kind "_fields").getD .nothing)
    let names := fields.map fun f =>
      match f with
      | .text t => String.ofList t
      | _ => ""
    let usual := tupleItems ((← memberOf? kind "__usual__").getD .nothing)
    let routine : Routine :=
      { name := "__new__", fullName := name ++ ".__new__"
        parameters := .plain "_cls" none :: names.map fun n => .plain n none
        usual := (names.drop (names.length - usual.length)).zip usual
        body := [], scopes := [], locals := [], globals := [], outers := [], givesSteps := false, note := none }
    let members ← bound routine (.nothing :: plain) named
    let members := members.filter fun (n, _) => n ≠ "_cls" && n ≠ "__first__"
    new (.record kind (members ++ [("__fields__", .tuple fields), ("__items__", .tuple (members.map (·.2)))]))
  | init, _, _ => do
    let isFailure ← isSubkind kind (.kind "BaseException")
    let object ← new (.record kind (if isFailure then [("args", .tuple plain)] else []))
    match init with
    | some (.object function) => do
      match ← callRoutine core function (object :: plain) named with
      | .nothing => return object
      | v => refuse ("__init__() should return None, not '" ++ (← kindNameOf v) ++ "'")
    | _ =>
      if !isFailure && !(plain.isEmpty && named.isEmpty) then refuse (name ++ "() takes no arguments")
      else return object

/-- Calls a value. -/
def callStep (core : Core) (value : Value) (plain : List Value) (named : List (String × Value)) : Work Value := do
  match value with
  | .builtin full => core.callBuiltin full plain named
  | .kind kind => core.made kind ⟨plain, named⟩
  | .method receiver name => core.callMethod receiver name plain named
  | .bound receiver function => core.callRoutine function (receiver :: plain) named
  | .object address =>
    match ← objectAt address with
    | .function _ => core.callRoutine address plain named
    | .classes _ _ _ => core.instantiate value plain named
    | .record kind members =>
      match ← Work.special? value "__call__" with
      | some (.bound receiver function) => core.callRoutine function (receiver :: plain) named
      | _ => core.callWrapped (← kindName kind) members plain named
    | _ => refuse ("'" ++ (← kindNameOf value) ++ "' object is not callable")
  | value => refuse ("'" ++ (← kindNameOf value) ++ "' object is not callable")

end Core

end KDispatch.Shell.Indented

/-! ## Expressions

The values of expressions, and assignments to them.
-/

namespace KDispatch.Shell.Indented.Core

open Work

/-- The value of a name. -/
def nameValue (name : String) : Work Value := do
  let s ← get
  let missing : Work Value := fail "NameError" ("name '" ++ name ++ "' is not defined").toList
  let general : Work Value := do
    if plainFunctions.contains name then return .builtin name
    else if Kind.usual.contains name || Kind.failures.contains name then return .kind name
    else
      match name with
      | "NotImplemented" => return .refused
      | "Ellipsis" => return .ellipsis
      | "EnvironmentError" | "IOError" => return .kind "OSError"
      | "__builtins__" => return .module "builtins"
      | _ => missing
  let scopes := match s.frames with
    | frame :: _ => if frame.globals.contains name then [s.top] else frame.scopes
    | [] => [s.top]
  let isOwn := match s.frames with
    | frame :: _ => frame.locals.contains name
    | [] => false
  match ← scopeOf? name (if isOwn then scopes.take 1 else scopes) with
  | some (_, v) => return v
  | none =>
    if isOwn then
      fail "UnboundLocalError"
        ("cannot access local variable '" ++ name ++ "' where it is not associated with a value").toList
    else general

/-- The values of items, of which some stand for several. -/
def itemValues (core : Core) (items : List Expr) : Work (List Value) := do
  let found ← items.mapM fun item => do
    match item with
    | .starred e => do
      let v ← core.eval e
      core.items v
    | e => return [← core.eval e]
  return found.flatten

/-- The names and values that a table gives to a call. -/
def namedFrom (core : Core) (value : Value) : Work (List (String × Value)) := do
  (← core.entriesFrom value).mapM fun (k, v) => do
    match k with
    | .text t => return (String.ofList t, v)
    | _ => refuse "keywords must be strings"

/-- The values of the arguments of a call. -/
def argumentValues (core : Core) : List Argument → Work (List Value × List (String × Value))
  | [] => return ([], [])
  | argument :: rest => do
    let (plain, named) ← match argument with
      | .positional e => do pure ([← core.eval e], [])
      | .named n e => do pure ([], [(n, ← core.eval e)])
      | .all e => do pure ((← core.items (← core.eval e)), [])
      | .allNamed e => do pure ([], (← core.namedFrom (← core.eval e)))
    let (morePlain, moreNamed) ← argumentValues core rest
    return (plain ++ morePlain, named ++ moreNamed)

/-- Whether two values stand to each other as an operator tells. -/
def related (core : Core) (operator : String) (a b : Value) : Work Value := do
  match operator with
  | "in" => return .boolean (← core.isIn a b)
  | "not in" => return .boolean (!(← core.isIn a b))
  | "is" => return .boolean (isSame a b)
  | "is not" => return .boolean (!isSame a b)
  | operator => core.compared operator a b

/-- A chain of comparisons, which ends with the first one that does not hold. -/
def chained (core : Core) (span : Span) : Value → List (String × Expr) → Work Value
  | value, [] => return value
  | value, [(operator, e)] => do
    let other ← core.eval e
    setSpan span
    core.related operator value other
  | value, (operator, e) :: rest => do
    let other ← core.eval e
    setSpan span
    let found ← core.related operator value other
    if ← core.truth found then chained core span other rest else return found

/-- The text of the parts of a text with fields. -/
def formattedParts (core : Core) : (fuel : Nat) → List Part → Work Text
  | 0, _ => return []
  | _ + 1, [] => return []
  | fuel + 1, .text t :: rest => do return t ++ (← formattedParts core fuel rest)
  | fuel + 1, .field e conversion specification :: rest => do
    let value ← core.eval e
    let value ← core.converted conversion value
    let specification ← formattedParts core fuel specification
    let shown ← core.formatted value specification
    return shown ++ (← formattedParts core fuel rest)

/-- A function of the program. -/
def newFunction (core : Core) (name : String) (parameters : List Parameter) (body : List Statement) :
    Work Value := do
  let s ← get
  let frame := s.frames.headD ⟨"<module>", .ofLine 0, [s.top], [s.top], [], [], []⟩
  let names := (body.map (Scope.namesOf 100)).foldl Scope.Names.join (.ofAssigned [])
  let found := parameters.filterMap fun p =>
    match p with
    | .plain n e => some (n, e)
    | _ => none
  let usual ← found.filterMapM fun (n, e) => do
    match e with
    | some e => return some (n, ← core.eval e)
    | none => return none
  let own := parameters.filterMap fun p =>
    match p with
    | .plain n _ | .rest (some n) | .named n => some n
    | _ => none
  let isInKind := frame.scopes.head? ≠ frame.known.head? && frame.known.length = frame.scopes.length
  let fullName :=
    if isInKind then frame.name ++ "." ++ name
    else if frame.name = "<module>" then name
    else frame.name ++ ".<locals>." ++ name
  let note := match body with
    | .expression _ (.text t) :: _ => some t
    | _ => none
  let locals := (own ++ names.assigned).filter fun n => !names.globals.contains n && !names.outers.contains n
  new (.function { name, fullName, parameters, usual, body, scopes := frame.known, locals
                   globals := names.globals, outers := names.outers
                   givesSteps := body.any (Scope.givesSteps 100), note })

/-- The values that walks and conditions lead to. -/
def collect (core : Core) (element : Work Value) : List Clause → Work (List Value)
  | [] => return [← element]
  | .condition e :: rest => do
    if ← core.truth (← core.eval e) then collect core element rest else return []
  | .walk target items :: rest => do
    let values ← core.items (← core.eval items)
    let found ← values.mapM fun v => do
      core.assign target v
      collect core element rest
    return found.flatten

/-- The values of a comprehension, which has names of its own. -/
def collected (core : Core) (name : String) (element : Work Value) (clauses : List Clause) :
    Work (List Value) := do
  let s ← get
  let frame := s.frames.headD ⟨"<module>", .ofLine 0, [s.top], [s.top], [], [], []⟩
  let scope ← alloc (.scope [])
  -- What is walked over first is looked up outside.
  let (first, clauses) ← match clauses with
    | .walk target items :: rest => do
      let values ← core.items (← core.eval items)
      pure (some (target, values), rest)
    | clauses => pure (none, clauses)
  let inner : Frame :=
    { frame with name, scopes := scope :: frame.known, known := scope :: frame.known, locals := [] }
  inFrame inner do
    match first with
    | some (target, values) => do
      let found ← values.mapM fun v => do
        core.assign target v
        core.collect element clauses
      return found.flatten
    | none => core.collect element clauses

/-- Gives a value to who walks over the values of the function that runs. -/
def give (value : Value) : Work Unit := do
  let s ← get
  match s.given with
  | values :: rest =>
    if manyItems ≤ values.length then throw (.give .nothing)
    else set { s with given := (value :: values) :: rest }
  | [] => return

/-- The value of an expression. -/
def evalStep (core : Core) (e : Expr) : Work Value := do
  match e with
  | .nothing => return .nothing
  | .ellipsis => return .ellipsis
  | .boolean b => return .boolean b
  | .integer n => return .integer n
  | .real x => return .real x
  | .text t => return .text t
  | .bytes t => return .bytes t
  | .formatted parts => return .text (← core.formattedParts 1000 parts)
  | .name span name => do
    setSpan span
    nameValue name
  | .member span object name => do
    let value ← core.eval object
    setSpan span
    core.member value name
  | .subscript span object index => do
    let value ← core.eval object
    let index ← core.eval index
    setSpan span
    core.subscript value index
  | .slice first last step => do
    let bound (e : Option Expr) : Work Value := do
      match e with
      | some e => core.eval e
      | none => return .nothing
    return .slice (← bound first) (← bound last) (← bound step)
  | .call span function arguments => do
    let function ← core.eval function
    let (plain, named) ← core.argumentValues arguments
    setSpan span
    core.call function plain named
  | .unary span operator operand => do
    let value ← core.eval operand
    setSpan span
    core.operateOn operator value
  | .binary span operator a b => do
    let a ← core.eval a
    let b ← core.eval b
    setSpan span
    match operator, a, b with
    | "%", .text t, b => return .text (← core.filledIn t b)
    | "%", .bytes t, b => return .bytes (← core.filledIn t b)
    | "/", a, b =>
      match ← memberOfRecord a "__path__", ← memberOfRecord b "__path__" with
      | .text t, _ => newPath (Paths.joined t (← core.pathText b))
      | _, .text t => newPath (Paths.joined (← core.pathText a) t)
      | _, _ => core.operate operator operator a b
    | _, _, _ => core.operate operator operator a b
  | .compare span first rest => do core.chained span (← core.eval first) rest
  | .negation e => return .boolean (!(← core.truth (← core.eval e)))
  | .both a b => do
    let v ← core.eval a
    if ← core.truth v then core.eval b else return v
  | .either a b => do
    let v ← core.eval a
    if ← core.truth v then return v else core.eval b
  | .conditional condition a b => do
    if ← core.truth (← core.eval condition) then core.eval a else core.eval b
  | .closure parameters body => do
    let span := match (← get).frames with
      | frame :: _ => frame.span
      | [] => .ofLine 0
    core.newFunction "<lambda>" parameters [.returned span (some body)]
  | .list items => do newList (← core.itemValues items)
  | .tuple items => return .tuple (← core.itemValues items)
  | .set items => do core.newSet "set" (← core.itemValues items)
  | .table entries => do
    let found ← entries.mapM fun (k, v) => do
      match k with
      | some k => do
        let key ← core.eval k
        return [(key, ← core.eval v)]
      | none => core.entriesFrom (← core.eval v)
    let entries ← found.flatten.foldlM (fun entries (k, v) => core.withEntry k v entries) #[]
    newTable entries.toList
  | .collected kind element value clauses => do
    match kind with
    | .list => do newList (← core.collected "<listcomp>" (core.eval element) clauses)
    | .set => do core.newSet "set" (← core.collected "<setcomp>" (core.eval element) clauses)
    | .steps => do newSteps "generator" (← core.collected "<genexpr>" (core.eval element) clauses)
    | .table => do
      let pair : Work Value := do
        let key ← core.eval element
        return .tuple [key, ← core.eval (value.getD .nothing)]
      let found ← core.collected "<dictcomp>" pair clauses
      let entries ← found.foldlM (fun entries pair => do
        match pair with
        | .tuple [k, v] => core.withEntry k v entries
        | _ => return entries) #[]
      newTable entries.toList
  | .starred _ => fail "SyntaxError" "can't use starred expression here".toList
  | .assigned name e => do
    let v ← core.eval e
    assignName name v
    return v
  | .yielded value fromAll => do
    let v ← match value with
      | some e => core.eval e
      | none => pure .nothing
    if fromAll then
      for item in ← core.items v do give item
    else give v
    return .nothing

/-- Assigns values to several places, of which one may take all that the others leave. -/
def unpack (core : Core) (targets : List Expr) (value : Value) : Work Unit := do
  let values ← match ← attempted (core.items value) with
    | .ok values => pure values
    | .error failure => do
      if ← isInstance failure 20 (.kind "TypeError") then
        refuse ("cannot unpack non-iterable " ++ (← kindNameOf value) ++ " object")
      else throw (.failure failure)
  let isStarred : Expr → Bool
    | .starred _ => true
    | _ => false
  let before := targets.takeWhile fun e => !isStarred e
  match targets.drop before.length with
  | .starred rest :: after => do
    let needed := before.length + after.length
    if values.length < needed then
      fail "ValueError" ("not enough values to unpack (expected at least " ++ toString needed ++ ", got " ++
        toString values.length ++ ")").toList
    else
      for (e, v) in before.zip values do core.assign e v
      let middle := (values.drop before.length).take (values.length - needed)
      core.assign rest (← newList middle)
      for (e, v) in after.zip (values.drop (values.length - after.length)) do core.assign e v
  | _ =>
    if values.length < targets.length then
      fail "ValueError" ("not enough values to unpack (expected " ++ toString targets.length ++ ", got " ++
        toString values.length ++ ")").toList
    else if targets.length < values.length then
      fail "ValueError" ("too many values to unpack (expected " ++ toString targets.length ++ ")").toList
    else
      for (e, v) in targets.zip values do core.assign e v

/-- Assigns a value to an expression. -/
def assignStep (core : Core) (e : Expr) (value : Value) : Work Unit := do
  match e with
  | .name _ name => assignName name value
  | .member span object name => do
    let target ← core.eval object
    setSpan span
    core.putMemberOf target name value
  | .subscript span object index => do
    let target ← core.eval object
    let index ← core.eval index
    setSpan span
    core.putSubscript target index value
  | .tuple targets | .list targets => core.unpack targets value
  | .starred e => core.assign e (← newList (← core.items value))
  | _ => fail "SyntaxError" "cannot assign to expression".toList

end KDispatch.Shell.Indented.Core
