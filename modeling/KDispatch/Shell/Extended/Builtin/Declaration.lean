import KDispatch.Shell.Extended.Builtin.Options
import KDispatch.Shell.Extended.Expansion

/-!
The builtins that declare variables and functions, mark them, show them and take them away.
-/

namespace KDispatch.Shell.Extended.Builtin

/-- What a declaration asks for. -/
structure Request where
  /-- The letters of attributes that are set. -/
  on : List Char
  /-- The letters of attributes that are taken back. -/
  off : List Char
  isGlobal : Bool
  /-- Whether a new local variable begins with the value that it hides. -/
  inherits : Bool

/-- The text of a function. -/
def functionText (s : Shell) (name : Text) (f : Function) : Text :=
  f.body.definition (fun n => s.documents.lookup n) name true

/-- The functions in the order of their names. -/
def sortedFunctions (s : Shell) : List (Text × Function) :=
  s.functions.mergeSort fun a b => !Ordered.precedes b.1 a.1

/-- A declaration that gives a function its attributes. -/
def functionDeclaration (name : Text) (f : Function) : Text :=
  "declare -f".toList ++ (if f.readOnly then ['r'] else []) ++ (if f.exported then ['x'] else []) ++
    ' ' :: name

/-- Shows variables that have something in common, as declarations. -/
def showVariables (shown : Variable → Bool) : Command Unit := do
  for (name, entry) in Command.listing (← get) do
    if shown entry then Command.printLine (entry.declaration name)

/-- Whether a variable has the attribute with a letter. -/
def hasAttribute (entry : Variable) (letter : Char) : Bool := entry.letters.contains letter

/-- Shows all variables as assignments. -/
def showAssignments : Command Unit := do
  for (name, entry) in Command.listing (← get) do
    match entry.assignment name with
    | some text => Command.printLine text
    | none => pure ()

def showFunctions (texts : Bool) (shown : Function → Bool) : Command Unit := do
  let s ← get
  for (name, f) in sortedFunctions s do
    if shown f then
      if texts then Command.printLine (functionText s name f)
      if !texts || f.exported || f.readOnly then Command.printLine (functionDeclaration name f)

/-- Whether a function is running. -/
def inFunction (s : Shell) : Bool := s.scopes.any (·.isFunction)

/-- The attributes after letters have been set and taken back. -/
def Request.applied (request : Request) (a : Attributes) : Attributes :=
  let value (letter : Char) (old : Bool) : Bool :=
    (old || request.on.contains letter) && !request.off.contains letter
  let lower := value 'l' a.lower && !request.on.contains 'u'
  let upper := value 'u' a.upper && !request.on.contains 'l'
  { a with
    exported := value 'x' a.exported
    integer := value 'i' a.integer
    traced := value 't' a.traced
    lower, upper }

/-- Where a declared variable is put. -/
inductive Home where
  | local
  | global
  | visible

/-- Puts a declared variable in its place. -/
def putAt (home : Home) (name : String) (entry : Variable) : Command Unit :=
  match home with
  | .local => Command.putLocal name entry
  | .global => modify fun s => { s with globals := Command.replaceEntry name entry s.globals }
  | .visible => Command.putVariable name entry

/-- The variable that a declaration begins with, where it is and its name. -/
def beginning (request : Request) (name : String) : Work (Home × String × Variable) := do
  let s ← (get : Command Shell)
  if inFunction s && !request.isGlobal then
    match Command.localOf? s name with
    | some entry => return (.local, name, entry)
    | none =>
      let visible := (Command.visible? s name).getD .unset
      if visible.attributes.readOnly && (s.globals.lookup name).any (·.attributes.readOnly) then
        refuse (name.toList ++ ": readonly variable".toList)
      let isGiven := (s.scopes.takeWhile (!·.isFunction)).any fun scope =>
        (scope.bindings.lookup name).isSome
      let inherits := request.inherits || s.settings.contains "localvar_inherit"
      let entry : Variable :=
        if isGiven || inherits then visible
        else ⟨.single none, { Attributes.none with exported := visible.attributes.exported }⟩
      return (.local, name, entry)
  else
    let isReference := request.on.contains 'n' || request.off.contains 'n'
    let name ← if isReference then pure name else (Command.target name : Command String)
    if request.isGlobal then return (.global, name, (s.globals.lookup name).getD .unset)
    else
      match Command.visible? s name with
      | some entry => return (.visible, name, entry)
      | none =>
        let own ← (Command.ownValue? name : Command (Option Content))
        return (.visible, name, ⟨own.getD (.single none), .none⟩)

/-- Sets a reference to another variable. -/
def declareReference (request : Request) (name : String) (value : Option Text) : Work Unit := do
  let s ← (get : Command Shell)
  let (home, name, entry) ← beginning request name
  if entry.content.isList || entry.content.isTable then
    refuse (name.toList ++ ": reference variable cannot be an array".toList)
  match value with
  | some text =>
    if text = name.toList then
      if inFunction s then
        Command.warn ("warning: ".toList ++ name.toList ++ ": circular name reference".toList)
      else refuse (name.toList ++ ": nameref variable self references not allowed".toList)
    let isTarget := match Holder.ofText? text with
      | some (.parameter name) => isName name.toList
      | some _ => true
      | none => false
    if !isTarget then
      refuse (marked text ++ ": invalid variable name for name reference".toList)
  | none => pure ()
  let content : Content := match value with
    | some text => .single (some text)
    | none => entry.content
  putAt home name ⟨content, { request.applied entry.attributes with
    reference := true
    readOnly := entry.attributes.readOnly || request.on.contains 'r' }⟩

/-- Declares a variable, which may be set. -/
def declareVariable (runner : Runner) (request : Request) (word : Text) : Work Unit := do
  let target :=
    if (assignmentHead? word).isSome then Assigning.target word
    else
      match Holder.ofText? word with
      | some (.element name subscript) => ⟨name.toList, some subscript, false, none⟩
      | _ => ⟨word, none, false, none⟩
  if !isName target.name then refuse (invalidName word)
  let name := String.ofList target.name
  if request.on.contains 'n' then declareReference request name target.value
  else
    let (home, name, entry) ← beginning request name
    let shown := name.toList
    if entry.attributes.readOnly && (request.off.contains 'r' || target.value.isSome) then
      refuse (shown ++ ": readonly variable".toList)
    let content := entry.content
    if (request.off.contains 'a' && content.isList) || (request.off.contains 'A' && content.isTable) then
      refuse (shown ++ ": cannot destroy array variables in this way".toList)
    if request.on.contains 'a' && content.isTable then
      refuse (shown ++ ": cannot convert associative to indexed array".toList)
    if request.on.contains 'A' && content.isList then
      refuse (shown ++ ": cannot convert indexed to associative array".toList)
    let content : Content := match content with
      | .single old =>
        if request.on.contains 'A' then
          .keyed old.isSome (old.toList.map fun text => (['0'], text))
        else if request.on.contains 'a' || target.subscript.isSome then
          .indexed old.isSome (old.toList.map fun text => (0, text))
        else .single old
      | content => content
    let attributes := request.applied entry.attributes
    let attributes :=
      { attributes with
        reference := attributes.reference && !request.off.contains 'n' }
    -- The variable is there before its value is worked out.
    putAt home name ⟨content, attributes⟩
    let content ← match target.value with
      | none => pure content
      | some text =>
        match target.subscript with
        | some subscript =>
          match ← Assigning.key? (shown ++ '[' :: subscript ++ [']']) content subscript with
          | none => finish 1
          | some key =>
            let text ← Assigning.taken attributes target.appends (content.get? key) text
            pure (content.put key (Variable.recased attributes text))
        | none =>
          let elements := if content.isList || content.isTable then Assigning.elements? text else none
          match elements with
          | some elements =>
            let items ← Assigning.items runner content.isTable elements
            let base : Content := match content, target.appends with
              | .keyed _ old, true => .keyed true old
              | .keyed _ _, false => .keyed true []
              | .indexed _ old, true => .indexed true old
              | _, _ => .indexed true []
            match base, items.head? with
            | .keyed _ _, some ⟨none, _, _⟩ => Assigning.putPairs attributes base items
            | _, _ => Assigning.putItems name attributes base.nextIndex base items
          | none =>
            let text ← Assigning.taken attributes target.appends content.value? text
            pure (content.putValue (Variable.recased attributes text))
    putAt home name
      ⟨content, { attributes with readOnly := attributes.readOnly || request.on.contains 'r' }⟩

/-- Shows or marks a function. -/
def declareFunction (request : Request) (texts : Bool) (word : Text) : Work Unit := do
  if (assignmentHead? word).isSome then
    refuse ("cannot use ".toList ++ marked ['-', 'f'] ++ " to make functions".toList)
  let s ← (get : Command Shell)
  match s.functions.lookup word with
  | none => finish 1
  | some f =>
    let letters := request.on.filter fun c => c = 'r' || c = 'x'
    if letters.isEmpty && request.off.isEmpty then
      Command.printLine (if texts then functionText s word f else word)
    else
      if f.readOnly && request.off.contains 'r' then refuse (word ++ ": readonly function".toList)
      let next : Function :=
        { f with
          exported := (f.exported || letters.contains 'x') && !request.off.contains 'x'
          readOnly := f.readOnly || letters.contains 'r' }
      modify fun s : Shell =>
        { s with
          functions := s.functions.map fun (name, old) => if name = word then (name, next) else (name, old) }

/-- Does something with each word; the status tells whether all of them have been right. -/
def forEach (words : List Text) (work : Text → Work Unit) : Command Nat := do
  let mut status := 0
  for word in words do
    match ← (work word).run with
    | .ok () => pure ()
    | .error failure => status := failure
  return status

/-- Shows a variable as a declaration. -/
def showVariable (word : Text) : Work Unit := do
  let name := String.ofList word
  match ← (Command.binding? name : Command (Option Variable)) with
  | some entry => Command.printLine (entry.declaration name)
  | none => refuse (word ++ ": not found".toList)

/-- The variables of the function that is running. -/
def localVariables (s : Shell) : List (String × Variable) :=
  let bindings := ((s.scopes.find? (·.isFunction)).map (·.bindings)).getD []
  bindings.mergeSort fun a b => !Ordered.nameBefore b.1 a.1

/-- Carries out a declaration, or shows what has been declared. -/
def declaration (runner : Runner) (isLocal : Bool) (words : List Text) : Work Nat := do
  let known := if isLocal then "aAilnprtuxI" else "aAfFgilnprtuxI"
  let (found, words) ← choices known true (words.length + 1) words
  let letters (isOn : Bool) : List Char := (found.filter (·.isOn = isOn)).map (·.letter)
  let isShown := has found 'p'
  let ofFunctions := (letters true).any fun c => c = 'f' || c = 'F'
  let texts := !(letters true).contains 'F'
  let on := (letters true).filter fun c => !"fFgpI".toList.contains c
  let request : Request :=
    { on, off := letters false
      isGlobal := (letters true).contains 'g' && !isLocal, inherits := (letters true).contains 'I' }
  if words.isEmpty then
    if isLocal then
      for (name, entry) in localVariables (← (get : Command Shell)) do
        Command.printLine (entry.declaration name)
    else if ofFunctions then
      showFunctions texts fun f =>
        (!on.contains 'x' || f.exported) && (!on.contains 'r' || f.readOnly)
    else if isShown && on.isEmpty then showVariables fun _ => true
    else if on.isEmpty then
      showAssignments
      showFunctions true fun _ => true
    else showVariables fun entry => on.any (hasAttribute entry)
    return 0
  else if isShown then
    if ofFunctions then forEach words (declareFunction { request with on := [], off := [] } texts)
    else forEach words showVariable
  else if ofFunctions then forEach words (declareFunction request texts)
  else forEach words (declareVariable runner request)

/-- Declares local variables. -/
def declareLocal (runner : Runner) (words : List Text) : Work Nat := do
  if inFunction (← (get : Command Shell)) then declaration runner true words
  else refuse "can only be used in a function".toList

/-- Marks a variable, which may be set. -/
def markVariable (exports undo : Bool) (word : Text) : Work Unit := do
  let target :=
    if (assignmentHead? word).isSome then Assigning.target word else ⟨word, none, false, none⟩
  if !isName target.name || target.subscript.isSome then refuse (invalidName word)
  let name := String.ofList target.name
  match target.value with
  | some text =>
    let command := (← (get : Command Shell)).command
    modify fun s : Shell => { s with command := none }
    let stored ← Assigning.put name none target.appends text
    modify fun s : Shell => { s with command }
    if !stored then finish 1
  | none => pure ()
  let name ← (Command.target name : Command String)
  let entry := (← (Command.binding? name : Command (Option Variable))).getD .unset
  let a := entry.attributes
  let attributes : Attributes :=
    if exports then { a with exported := !undo } else { a with readOnly := a.readOnly || !undo }
  Command.putVariable name ⟨entry.content, attributes⟩

/-- Marks a function. -/
def markFunction (exports undo : Bool) (word : Text) : Work Unit := do
  let s ← (get : Command Shell)
  match s.functions.lookup word with
  | none => refuse (word ++ ": not a function".toList)
  | some f =>
    let next : Function :=
      if exports then { f with exported := !undo } else { f with readOnly := f.readOnly || !undo }
    modify fun s : Shell =>
      { s with
        functions := s.functions.map fun (name, old) => if name = word then (name, next) else (name, old) }

/-- Marks variables or functions as exported or read-only, or shows those that are. -/
def mark (runner : Runner) (exports : Bool) (words : List Text) : Work Nat := do
  let (found, words) ← options "aAfnp" words
  if words.isEmpty then
    if has found 'f' then showFunctions true fun f => if exports then f.exported else f.readOnly
    else
      let isShown (entry : Variable) : Bool :=
        (if exports then entry.attributes.exported else entry.attributes.readOnly) &&
          (!has found 'a' || entry.content.isList) && (!has found 'A' || entry.content.isTable)
      showVariables isShown
    return 0
  else if has found 'f' then forEach words (markFunction exports (has found 'n'))
  else if has found 'a' || has found 'A' then
    let kind := if has found 'A' then 'A' else 'a'
    let request : Request :=
      { on := [kind, if exports then 'x' else 'r'], off := [], isGlobal := false, inherits := false }
    forEach words (declareVariable runner request)
  else forEach words (markVariable exports (has found 'n'))

/-- Takes an element of a variable away. -/
def unsetElement (name : String) (subscript : Text) : Work Unit := do
  let name ← (Command.target name : Command String)
  match ← (Command.binding? name : Command (Option Variable)) with
  | none => return
  | some entry =>
    if entry.attributes.readOnly then
      refuse (name.toList ++ ": cannot unset: readonly variable".toList)
    let put (content : Content) : Command Unit := Command.putVariable name { entry with content }
    let isAll := subscript = ['@'] || subscript = ['*']
    match entry.content with
    | .keyed given elements =>
      if isAll && (elements.lookup subscript).isNone then put (.keyed true [])
      else put ((Content.keyed given elements).erase (.name subscript))
    | .indexed given elements =>
      if isAll then put (.indexed true [])
      else
        let content := Content.indexed given elements
        let n ← (Arithmetic.evaluate subscript : Command Int)
        let index := if n < 0 then (content.nextIndex : Int) + n else n
        if index < 0 then refuse ('[' :: subscript ++ "]: bad array subscript".toList)
        put (content.erase (.index index.toNat))
    | .single _ =>
      if subscript = ['0'] || isAll then Command.removeVariable name
      else refuse (name.toList ++ ": not an array variable".toList)

/-- Takes a variable, an element or a function away. -/
def unsetOne (variablesOnly functionsOnly reference : Bool) (word : Text) : Work Unit := do
  let s ← (get : Command Shell)
  let removeFunction : Work Unit := do
    match s.functions.lookup word with
    | some f =>
      if f.readOnly then refuse (word ++ ": cannot unset: readonly function".toList)
      modify fun s : Shell => { s with functions := s.functions.filter (·.1 ≠ word) }
    | none => return
  if functionsOnly then removeFunction
  else if isName word then
    let name ← if reference then pure (String.ofList word)
      else (Command.target (String.ofList word) : Command String)
    match Holder.ofText? name.toList with
    | some (.element base subscript) => unsetElement base subscript
    | _ =>
      match ← (Command.binding? name : Command (Option Variable)) with
      | some entry =>
        if entry.attributes.readOnly || name = "SHELLOPTS" || name = "BASHOPTS" then
          refuse (name.toList ++ ": cannot unset: readonly variable".toList)
        Command.removeVariable name
      | none => if !variablesOnly then removeFunction
  else
    match Holder.ofText? word with
    | some (.element name subscript) => unsetElement name subscript
    | some (.all name joined) => unsetElement name [if joined then '*' else '@']
    | _ => if variablesOnly then refuse (invalidName word) else removeFunction

/-- Takes variables, elements or functions away. -/
def unset (words : List Text) : Work Nat := do
  let (found, words) ← options "fnv" words
  if has found 'f' && has found 'v' then
    refuse "cannot simultaneously unset a function and a variable".toList
  forEach words (unsetOne (has found 'v') (has found 'f') (has found 'n'))

end KDispatch.Shell.Extended.Builtin
