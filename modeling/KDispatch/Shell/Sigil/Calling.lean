import KDispatch.Shell.Sigil.Evaluation

/-!
Places of expressions, and calls of functions and methods of the program.
-/

/-! ## Places and assignments to them -/

namespace KDispatch.Shell.Sigil.Core

open Work

/-- Puts a text in place of a part of another one. -/
def replacePart (core : Core) (text : Expr) (bounds : List Expr) (new : Value) : Work Unit := do
  let address ← core.place text
  let content ← textAt address
  let numbers ← (bounds.take 2).mapM fun e => core.scalar e
  match partOf? content.length ((numbers.headD .missing).toInt) (numbers[1]?.map Value.toInt) with
  | some (first, length) =>
    assignAt address (.text (content.take first ++ (← textOf new) ++ content.drop (first + length)))
  | none => fail "substr outside of string".toList

/-- Deals values out to expressions, each of which takes as many as it stands for. -/
def assignItems (core : Core) : (items : List Expr) → (values : List Value) → Work (List Nat)
  | [], _ => return []
  | item :: rest, values => do
    match item with
    | .function "undef" [] => core.assignItems rest (values.drop 1)
    | .declared _ _ [⟨'$', "undef"⟩] => core.assignItems rest (values.drop 1)
    | .elements _ _ | .entries _ _ =>
      let addresses ← core.assignList item values
      return addresses ++ (← core.assignItems rest (values.drop addresses.length))
    | item =>
      if isListTarget item then
        let addresses ← core.assignList item values
        let used := match item with
          | .list items => items.length
          | _ => values.length
        return addresses ++ (← core.assignItems rest (values.drop used))
      else
        let address ← core.place item
        assignAt address (values.headD .missing)
        return address :: (← core.assignItems rest (values.drop 1))

/-- Assigns what an expression gives. -/
def assign (core : Core) (wanted : Context) (target : Expr) (value : Expr) : Work (List Value) := do
  if isListTarget target then
    let values ← core.evaluate .many value
    let assigned ← core.assignList target values
    if wanted = .many then valuesAt assigned else return [.ofNat values.length]
  else
    match target with
    | .function "substr" (text :: rest) =>
      let new ← core.scalar value
      core.replacePart text rest new
      return [new]
    | .lastIndex list =>
      let size := ((← core.scalar value).toInt + 1).toNat
      let list ← core.container '@' list
      if (← itemsAt list).size < size then
        let _ ← elementPlace list (size - 1 : Nat)
      changeItems list fun items => items.extract 0 size
      return [.ofNat size]
    | .function "pos" arguments =>
      let position ← core.scalar value
      let address ← core.place (arguments.headD Reader.topic)
      let old ← valueAt address
      putCell address (.scalar old (if position.isMissing then none else some position.toInt.toNat))
      return [position]
    | .declared .state _ [name] =>
      let line := (← get).line
      let known := (← get).globals.lookup ⟨name.sigil, "main::state " ++ name.text ++ " " ++ toString line⟩
      let address ← declare .state name
      if known.isNone then assignAt address (← core.scalar value)
      return [← valueAt address]
    | .named ⟨'*', name⟩ =>
      match ← core.scalar value with
      | .reference address =>
        let sigil := match ← cellAt address with
          | .code _ => '&'
          | .list _ => '@'
          | .table _ _ => '%'
          | .handle _ => '*'
          | .scalar _ _ => '$'
        bindGlobal ⟨sigil, qualified (← get).package name⟩ address
        return [.reference address]
      | value => return [value]
    | target =>
      let new ← core.scalar value
      let address ← core.place target
      assignAt address new
      return [new]

/-- Assigns values to what a list stands for; gives the places. -/
def assignListStep (core : Core) (target : Expr) (values : List Value) : Work (List Nat) := do
  let fill (sigil : Char) (address : Nat) : Work (List Nat) := do
    if sigil = '@' then
      fillList address values
      return (← itemsAt address).toList
    else
      fillTable address values
      let pairs ← (← entriesAt address).toList.mapM fun (key, place) => do
        return [← newScalar (.text key), place]
      return pairs.flatten
  match target with
  | .named name => fill name.sigil (← namedPlace name)
  | .target sigil _ => fill sigil (← core.container sigil target)
  | .declared kind false (name :: _) => fill name.sigil (← declare kind name)
  | .declared kind _ names => core.assignItems (names.map fun name => .declared kind false [name]) values
  | .localized (.list items) => core.assignItems (items.map .localized) values
  | .localized inner =>
    match inner with
    | .named name => fill name.sigil (← core.localize inner)
    | inner => core.assignList inner values
  | .list items => core.assignItems items values
  | target =>
    let addresses ← core.places target
    for (n, address) in (List.range addresses.length).zip addresses do
      assignAt address (values.getD n .missing)
    return addresses

/-! The places that expressions stand for, some of which come into being when they are asked for. -/

open Work

/-- The list or table that an expression with a sign stands for; it comes into being where a reference is
missing. -/
def containerStep (core : Core) (sigil : Char) (e : Expr) : Work Nat := do
  match e with
  | .named name => namedPlace name
  | .declared kind _ (name :: _) => declare kind name
  | .localized inner => core.localize inner
  | .list [inner] => core.container sigil inner
  | .target _ (.word name) => namedPlace ⟨sigil, name⟩
  | .target _ reference =>
    if hasPlace reference then
      let address ← core.place reference
      if ← isEmptyAt address then
        let made ← alloc (emptyCell sigil)
        assignAt address (.reference made)
        return made
      else dereferenced sigil (← valueAt address)
    else dereferenced sigil (← core.scalar reference)
  | e => dereferenced sigil (← core.scalar e)

/-- The place of the value that an expression stands for; a value that has none gets a new one. -/
def placeStep (core : Core) (e : Expr) : Work Nat := do
  match e with
  | .named name => namedPlace name
  | .declared kind _ (name :: _) => declare kind name
  | .localized inner => core.localize inner
  | .element list index =>
    let list ← core.container '@' list
    elementPlace list (← core.scalar index).toInt
  | .entry table key =>
    let table ← core.container '%' table
    entryPlace table (← core.keyText key)
  | .target sigil reference =>
    if sigil ≠ '$' then core.container sigil e
    else
      match reference with
      | .word name => namedPlace ⟨'$', name⟩
      | reference =>
        if hasPlace reference then
          let address ← core.place reference
          if ← isEmptyAt address then
            let made ← newScalar .missing
            assignAt address (.reference made)
            return made
          else dereferenced '$' (← valueAt address)
        else dereferenced '$' (← core.scalar reference)
  | .list [inner] => core.place inner
  | .conditional condition a b =>
    if (← core.scalar condition).isTrue then core.place a else core.place b
  | .assign target value =>
    if isListTarget target then newScalar (← core.scalar e)
    else
      match target with
      | .declared .my _ [name] =>
        let value ← core.scalar value
        let address ← declare .my name
        assignAt address value
        return address
      | target =>
        let _ ← core.assign .one target value
        core.place target
  | .update _ target _ | .step true _ target =>
    let _ ← core.scalar e
    core.place target
  | e => newScalar (← core.scalar e)

/-- The place of what is only looked at, so that nothing comes into being. -/
def placeToRead (core : Core) (e : Expr) : Work Nat := do
  match e with
  | .element list index =>
    let list ← core.container '@' list
    match ← elementPlace? list (← core.scalar index).toInt with
    | some address => return address
    | none => newScalar .missing
  | .entry table key =>
    let table ← core.container '%' table
    match ← entryPlace? table (← core.keyText key) with
    | some address => return address
    | none => newScalar .missing
  | e => core.place e

/-- The places of the items for which an expression is true. -/
def passing (core : Core) (body : Expr) (items : List Expr) : Work (List Nat) := do
  let places ← core.placesOfAll items
  withGlobal topicName do
    places.filterM fun address => do
      bindGlobal topicName address
      return (← core.scalar body).isTrue

/-- The places of all values that an expression stands for. -/
def placesStep (core : Core) (e : Expr) : Work (List Nat) := do
  let ofTable (table : Nat) : Work (List Nat) := do
    let pairs ← (← entriesAt table).toList.mapM fun (key, address) => do
      return [← newScalar (.text key), address]
    return pairs.flatten
  match e with
  | .named name =>
    match name.sigil with
    | '@' => return (← itemsAt (← namedPlace name)).toList
    | '%' => ofTable (← namedPlace name)
    | '$' => return [← (if name.text = "$" then do newScalar (← namedValue name) else namedPlace name)]
    | _ => return [← newScalar (← namedValue name)]
  | .target sigil _ =>
    if sigil = '@' then return (← itemsAt (← core.container '@' e)).toList
    else if sigil = '%' then ofTable (← core.container '%' e)
    else return [← core.place e]
  | .list items => core.placesOfAll items
  | .declared kind _ names => names.mapM fun name => declare kind name
  | .localized (.list items) => items.mapM fun item => core.localize item
  | .localized _ => return [← core.place e]
  | .element _ _ | .entry _ _ => return [← core.placeToRead e]
  | .elements list indices =>
    let list ← core.container '@' list
    (← core.evaluate .many indices).mapM fun index => elementPlace list index.toInt
  | .entries table keys =>
    let table ← core.container '%' table
    (← core.evaluate .many keys).mapM fun key => do entryPlace table (← textOf key)
  | .function "values" [table] =>
    return (← entriesAt (← core.container '%' table)).toList.map (·.2)
  | .filtered body items => core.passing body items
  | .conditional condition a b =>
    if (← core.scalar condition).isTrue then core.places a else core.places b
  | e => (← core.evaluate .many e).mapM newScalar

/-- Gives something a new place until the end of the block. -/
def localizeStep (core : Core) (e : Expr) : Work Nat := do
  let keep (r : Restoration) : Work Unit := modify fun s => { s with restorations := r :: s.restorations }
  match e with
  | .named name => localizeName name
  | .list [inner] => core.localize inner
  | .assign target value =>
    let value ← core.scalar value
    let address ← core.localize target
    assignAt address value
    return address
  | .entry table key =>
    let table ← core.container '%' table
    let key ← core.keyText key
    let old ← entryPlace? table key
    keep (.entry table key old)
    changeEntries table fun entries => entries.filter (·.1 ≠ key)
    entryPlace table key
  | .element list index =>
    let list ← core.container '@' list
    let index := (← core.scalar index).toInt
    let old ← elementPlace list index
    keep (.element list index.toNat old)
    let fresh ← newScalar .missing
    changeItems list fun items => items.setIfInBounds index.toNat fresh
    return fresh
  | e => core.place e

/-- References to what an expression stands for. -/
def referencesStep (core : Core) (target : Expr) : Work (List Value) := do
  match target with
  | .call name [] true => return [.reference (← namedPlace ⟨'&', name⟩)]
  | .callCode code [] true => return [← core.scalar code]
  | .list items =>
    let found ← items.mapM fun item => core.references item
    return found.flatten
  | .declared kind true names =>
    names.mapM fun name => do return .reference (← declare kind name)
  | .named name =>
    if name.sigil = '@' || name.sigil = '%' || name.sigil = '*' || name.sigil = '&' then
      return [.reference (← namedPlace name)]
    else return [.reference (← core.place target)]
  | .target sigil _ =>
    if sigil = '@' || sigil = '%' then return [.reference (← core.container sigil target)]
    else return [.reference (← core.place target)]
  | .declared kind false [name] => return [.reference (← declare kind name)]
  | target => return [.reference (← core.place target)]

/-- The place of a handle that an expression stands for. -/
def handleOfStep (core : Core) (e : Expr) : Work Nat := do
  match e with
  | .word name => handleNamed name
  | .list [inner] => core.handleOf inner
  | e =>
    match ← core.scalar e with
    | .reference address =>
      match ← cellAt address with
      | .handle _ => return address
      | .scalar (.reference inner) _ => return inner
      | _ => fail "Bad filehandle: ".toList
    | .missing => fail "Can't use an undefined value as filehandle reference".toList
    | value => handleNamed (String.ofList (← textOf value))

/-! ## Calls and searches for patterns -/

open Work

/-- What is to be looked for, and where. -/
def searchOf (core : Core) (target : Option Expr) (pattern : Expr) (flags : String) : Work Search := do
  let address ← core.placeToRead (target.getD Reader.topic)
  let spelled ← textOf (← core.scalar pattern)
  let text ← textAt address
  return ⟨← patternOf spelled flags, address, text, flags⟩

/-- Puts something in place of what is found. -/
def substitute (core : Core) (target : Option Expr) (pattern : Expr) (replacement : Expr)
    (flags : String) : Work Value := do
  let has (c : Char) : Bool := flags.toList.contains c
  let address ← core.place (target.getD Reader.topic)
  let spelled ← textOf (← core.scalar pattern)
  let p ← patternOf spelled flags
  let subject := (← textAt address).toArray
  let all := if has 'g' then p.matchesIn subject else (p.search subject 0).toList
  if all.isEmpty then
    if has 'r' then return .text subject.toList else return Value.empty
  else
    let mut made : Text := []
    let mut last := 0
    for found in all do
      let f ← putFinding p subject found
      let new ← textOf (← core.scalar replacement)
      made := made ++ f.part last f.start ++ new
      last := f.stop
    let new := made ++ (subject.extract last subject.size).toList
    if has 'r' then return .text new
    else
      assignAt address (.text new)
      return .ofNat all.length

/-- Whether the program is between two conditions, of which numbers stand for lines. -/
def between (core : Core) (a : Expr) (b : Expr) : Work (List Value) := do
  let holds (e : Expr) : Work Bool := do
    match e with
    | .integer n => return (← globalValue ".").toInt = n
    | e => return (← core.scalar e).isTrue
  let mark ← global ⟨'$', "main::between " ++ toString (← get).line⟩
  let count := (← valueAt mark).toInt
  let begins ← if count = 0 then holds a else pure true
  if !begins then return [Value.empty]
  else if ← holds b then
    assignAt mark (.integer 0)
    return [.text (Number.decimal (count + 1) ++ ['E', '0'])]
  else
    assignAt mark (.integer (count + 1))
    return [.integer (count + 1)]

/-! Calls of functions and methods of the program. -/

open Work

/-- Calls the function at a place with the list of arguments at another one. -/
def callRoutineStep (core : Core) (wanted : Context) (address arguments : Nat) :
    Work (List Value) := do
  match ← cellAt address with
  | .code routine =>
    let outer ← get
    let work : Work (List Value) := inBlock do
      modify fun s =>
        { s with
          arguments, wanted
          package := routine.package
          scope := routine.scope.getD s.fileScope
          calls := (routine.name, outer.package, outer.line) :: outer.calls }
      untilGiven (core.bodyValues wanted routine.body)
    leavingWith work <| modify fun s =>
      { s with arguments := outer.arguments, wanted := outer.wanted, calls := outer.calls, line := outer.line }
  | _ => fail "Not a CODE reference".toList

/-- Tests items with a function, or combines them with it. -/
def searchItems (core : Core) (name : String) (code : Nat) (items : List Nat) : Work (List Value) := do
  let nothing ← alloc (.list #[])
  if name = "reduce" then
    match items with
    | [] => return [.missing]
    | first :: rest =>
      let (a, b) := (← newScalar (← valueAt first), ← newScalar .missing)
      withGlobal ⟨'$', "a"⟩ <| withGlobal ⟨'$', "b"⟩ do
        bindGlobal ⟨'$', "a"⟩ a
        bindGlobal ⟨'$', "b"⟩ b
        for item in rest do
          assignAt b (← valueAt item)
          assignAt a (lastValue (← core.callRoutine .one code nothing))
        return [← valueAt a]
  else
    let passes (address : Nat) : Work Bool := do
      bindGlobal topicName address
      return (lastValue (← core.callRoutine .one code nothing)).isTrue
    withGlobal topicName do
      match name with
      | "first" =>
        match ← items.findM? passes with
        | some address => return [← valueAt address]
        | none => return [.missing]
      | "any" => return [.ofBool (← items.anyM passes)]
      | "none" => return [.ofBool (!(← items.anyM passes))]
      | "all" => return [.ofBool (← items.allM passes)]
      | _ => return [.ofBool (!(← items.allM passes))]

/-- Calls a function of the program, or one that comes with the language, by its name. -/
def callNamed (core : Core) (wanted : Context) (name : String) (arguments : List Expr)
    (passesOn : Bool) : Work (List Value) := do
  let full := qualified (← get).package name
  let address ← match ← routine? full with
    | some address => pure (some address)
    | none => routine? name
  match address with
  | some address =>
    if passesOn && arguments.isEmpty then core.callRoutine wanted address (← get).arguments
    else
      let given ← core.placesOfAll arguments
      core.callRoutine wanted address (← alloc (.list given.toArray))
  | none =>
    let short := String.ofList ((name.toList.reverse.takeWhile (· ≠ ':')).reverse)
    match arguments, Reader.blockFunctions.contains short with
    | test :: items, true =>
      let code ← dereferenced '&' (← core.scalar test)
      core.searchItems short code (← core.placesOfAll items)
    | _, _ =>
      let values ← core.listOf arguments
      match ← libraryFunction? short values with
      | some found => return found
      | none =>
        fail ("Undefined subroutine &".toList ++
          (if full.toList.contains ':' then full else "main::" ++ full).toList ++ " called".toList)

/-- Does something with the handle at a place by the name of a method. -/
def callHandle (core : Core) (address : Nat) (name : String) (values : List Value) : Work (List Value) := do
  match name with
  | "print" | "say" =>
    let texts ← values.mapM textOf
    return [.ofBool (← writeTo address (texts.flatten ++ if name = "say" then ['\n'] else []))]
  | "printf" => return [.ofBool (← writeTo address (← Format.ofValues values))]
  | "autoflush" =>
    putGlobal "|" (.integer 1)
    return [.integer 1]
  | "close" => return [.ofBool (← close core.execute address)]
  | "getline" =>
    match ← nextLine address with
    | some line => return [.text line]
    | none => return [.missing]
  | "getlines" => return (← restLines address manyBlocks).map .text
  | "opened" => return [.ofBool (← handleAt address).isOpen]
  | "eof" => return [.ofBool (← isAtEnd address)]
  | "input_line_number" => return [.ofNat (← handleAt address).lines]
  | _ => return [.integer 1]

/-- Calls a method of an object or of a class. -/
def callMethod (core : Core) (wanted : Context) (object : Expr) (name : String) (chosen : Option Expr)
    (arguments : List Expr) : Work (List Value) := do
  let isHandle : Bool := match object with
    | .word name => ["STDIN", "STDOUT", "STDERR"].contains name
    | _ => false
  let subject ← match object with
    | .word name => if isHandle then do pure (.reference (← handleNamed name)) else pure (.text name.toList)
    | object => core.scalar object
  let call (address : Nat) : Work (List Value) := do
    let given ← core.placesOfAll arguments
    let first ← newScalar subject
    core.callRoutine wanted address (← alloc (.list (first :: given).toArray))
  let chosen ← match chosen with
    | some e => some <$> core.scalar e
    | none => pure none
  match chosen with
  | some (.reference address) => call address
  | chosen =>
    let name ← match chosen with
      | some value => do pure (String.ofList (← textOf value))
      | none => pure name
    let (className, kind) ← match subject with
      | .reference address => do pure (← classAt address, ← kindAt address)
      | .missing => pure (none, "")
      | value => do pure (some (String.ofList (← textOf value)), "")
    match className, subject with
    | none, .reference address =>
      if kind = "GLOB" then
        let values ← core.listOf arguments
        core.callHandle address name values
      else fail ("Can't call method \"".toList ++ name.toList ++ "\" on unblessed reference".toList)
    | none, _ => fail ("Can't call method \"".toList ++ name.toList ++ "\" on an undefined value".toList)
    | some className, _ =>
      let package := (← get).package
      let found ←
        if name.startsWith "SUPER::" then do
          let short := String.ofList (name.toList.drop 7)
          match (← get).globals.lookup ⟨'@', qualified "main" (package ++ "::ISA")⟩ with
          | some list =>
            let parents ← (← itemsAt list).toList.mapM textAt
            let found ← parents.filterMapM fun parent => methodOf? 100 (String.ofList parent) short
            pure found.head?
          | none => pure none
        else if name.toList.contains ':' then routine? (qualified "main" name)
        else methodOf? 100 className name
      match found with
      | some address => call address
      | none =>
        match name with
        | "isa" | "DOES" =>
          let values ← core.listOf arguments
          let ancestor ← textOf (argument values 0)
          return [.ofBool (← isKindOf 100 className (String.ofList ancestor))]
        | "can" =>
          let values ← core.listOf arguments
          let wanted ← textOf (argument values 0)
          match ← methodOf? 100 className (String.ofList wanted) with
          | some address => return [.reference address]
          | none => return [Value.empty]
        | "import" | "unimport" => return []
        | _ =>
          let s ← get
          let isKnown := (s.globals.any fun (n, _) => n.text.startsWith (className ++ "::")) ||
            s.heap.any fun place => place.className = some className
          fail (notFoundMethod name className isKnown)

/-- Tells a function of the program, which a name of a signal leads to, about something; tells whether there
is one. -/
def tellHandler (core : Core) (signal : String) (value : Value) : Work Bool := do
  let table ← global ⟨'%', "SIG"⟩
  match ← entryPlace? table signal.toList with
  | none => return false
  | some address =>
    match ← valueAt address with
    | .reference code =>
      match ← cellAt code with
      | .code _ =>
        let arguments ← newList [value]
        let _ ← core.callRoutine .nothing code arguments
        return true
      | _ => return false
    | value => return (← textOf value) = "IGNORE".toList

end KDispatch.Shell.Sigil.Core
