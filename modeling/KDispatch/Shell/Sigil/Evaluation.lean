import KDispatch.Shell.Sigil.Operation
import KDispatch.Shell.Sigil.Parser

/-!
What expressions give and what statements do. An expression is asked for one value, for a list of values, or
for the place that a value is kept at.
-/

namespace KDispatch.Shell.Sigil

namespace Work

/-- Whether what is assigned to an expression is a list. -/
def isListTarget : Expr → Bool
  | .named name => name.sigil = '@' || name.sigil = '%'
  | .declared _ isList names => isList || names.any fun name => name.sigil = '@' || name.sigil = '%'
  | .list _ | .elements _ _ | .entries _ _ => true
  | .target sigil _ => sigil = '@' || sigil = '%'
  | .localized e => isListTarget e
  | _ => false

/-- What a handle in a variable is called in messages. -/
def handleName : Expr → Text
  | .named name | .declared _ _ [name] => name.sigil :: name.text.toList
  | .word name => name.toList
  | _ => "__ANONIO__".toList

/-- Catches what ends a loop or goes on with its next round: tells whether the loop goes on. -/
def inLoop (label : Option String) (work : Work Unit) : Work Bool := fun s =>
  match work s with
  | .ok () s => .ok true s
  | .error (.loop kind wanted) s =>
    if wanted.isNone || wanted = label then .ok (kind ≠ .last) s
    else .error (.loop kind wanted) s
  | .error jump s => .error jump s

/-- Catches the values that a function gives. -/
def untilGiven (work : Work (List Value)) : Work (List Value) := fun s =>
  match work s with
  | .error (.give values) s => .ok values s
  | result => result

/-- Catches a failure: what the work gives, or the value that tells about the failure. -/
def attempted (work : Work (List Value)) : Work (Except Value (List Value)) := fun s =>
  match work s with
  | .ok values s => .ok (.ok values) s
  | .error (.give values) s => .ok (.ok values) s
  | .error (.die value) s => .ok (.error value) s
  | .error jump s => .error jump s

/-- Merges two lists by a comparison. -/
def merged (compare : Value → Value → Work Int) : (fuel : Nat) → List Value → List Value →
    Work (List Value)
  | 0, a, b => return a ++ b
  | _ + 1, [], b => return b
  | _ + 1, a, [] => return a
  | fuel + 1, x :: xs, y :: ys => do
    if (← compare x y) ≤ 0 then return x :: (← merged compare fuel xs (y :: ys))
    else return y :: (← merged compare fuel (x :: xs) ys)

/-- Sorts values by a comparison; equal ones keep their order. -/
def sortedBy (compare : Value → Value → Work Int) : (fuel : Nat) → List Value → Work (List Value)
  | 0, values => return values
  | fuel + 1, values => do
    if values.length ≤ 1 then return values
    else
      let half := values.length / 2
      let a ← sortedBy compare fuel (values.take half)
      let b ← sortedBy compare fuel (values.drop half)
      merged compare (values.length + 1) a b

/-- Does work with a name of the whole program bound to other places. -/
def withGlobal {α : Type} (name : Name) (work : Work α) : Work α := do
  let old := (← get).globals.lookup name
  leavingWith work (restore (.global name old))

def topicName : Name := ⟨'$', "_"⟩

/-- The value that a list has where one value is asked for. -/
def lastValue (values : List Value) : Value := values.getLast?.getD .missing

/-- What is said about a method that is not found; an unknown class may not have been loaded. -/
def notFoundMethod (name className : String) (isKnown : Bool) : Text :=
  "Can't locate object method \"".toList ++ name.toList ++ "\" via package \"".toList ++
    className.toList ++ ['"'] ++
    (if isKnown then []
      else " (perhaps you forgot to load \"".toList ++ className.toList ++ "\"?)".toList)

/-- Makes an expression that reads lines keep what it reads, as conditions of loops do. -/
def readingCondition (condition : Expr) : Expr :=
  let defined (e : Expr) : Expr := .function "defined" [e]
  match condition with
  | .readLine _ | .files _ => defined (.assign Reader.topic condition)
  | .function "readline" _ | .function "readdir" _ => defined (.assign Reader.topic condition)
  | .assign target (.readLine h) =>
    if isListTarget target then condition else defined (.assign target (.readLine h))
  | .assign target (.files p) =>
    if isListTarget target then condition else defined (.assign target (.files p))
  | .assign target (.function name arguments) =>
    let assigned : Expr := .assign target (.function name arguments)
    if !isListTarget target && ["readline", "readdir", "each"].contains name then defined assigned
    else assigned
  | condition => condition

/-- Whether a place holds nothing. -/
def isEmptyAt (address : Nat) : Work Bool := do
  match ← cellAt address with
  | .scalar .missing _ => return true
  | _ => return false

/-- The place behind a reference that something with a sign is asked for. -/
def dereferenced (sigil : Char) (value : Value) : Work Nat := do
  let wanted := match sigil with
    | '@' => "an ARRAY"
    | '%' => "a HASH"
    | '&' => "a CODE"
    | '*' => "a GLOB"
    | _ => "a SCALAR"
  match value with
  | .reference address =>
    let isRight := match sigil, ← cellAt address with
      | '@', .list _ | '%', .table _ _ | '&', .code _ | '*', .handle _ | '$', .scalar _ _ => true
      | _, _ => false
    if isRight then return address
    else fail ("Not ".toList ++ wanted.toList ++ " reference".toList)
  | .missing => fail ("Can't use an undefined value as ".toList ++ wanted.toList ++ " reference".toList)
  | value =>
    let text ← textOf value
    fail ("Can't use string (\"".toList ++ text.take 32 ++
      (if 32 < text.length then "\"...".toList else ['"']) ++ ") as ".toList ++ wanted.toList ++
      " ref while \"strict refs\" in use".toList)

/-- Puts the handle of the chosen output in its place; gives the one before. -/
def chooseOutput (address : Nat) : Work Nat :=
  modifyGet fun s => (s.selected, { s with selected := address })

/-- The text in which something is looked for, with the flags of the search. -/
structure Search where
  pattern : Scan.Pattern
  place : Nat
  text : Text
  flags : String

def Search.has (s : Search) (flag : Char) : Bool := s.flags.toList.contains flag

/-- Looks for a pattern once from the place where the last search has ended; the place keeps where this one
ends. -/
def searchOn (s : Search) : Work Bool := do
  let (value, position) ← match ← cellAt s.place with
    | .scalar value position => pure (value, position)
    | _ => pure (.missing, none)
  let subject := s.text.toArray
  let start := position.getD 0
  -- Behind an empty match an empty one is refused.
  let refused := match position, (← get).finding with
    | some p, some f => if f.start = f.stop && f.stop = p then some p else none
    | _, _ => none
  match s.pattern.searchNext subject refused start with
  | some found =>
    let _ ← putFinding s.pattern subject found
    putCell s.place (.scalar value (some found.stop))
    return true
  | none =>
    if !s.has 'c' then putCell s.place (.scalar value none)
    return false

/-- Looks for a pattern everywhere: what the groups match, or all that is matched if there are none. -/
def searchAll (s : Search) : Work (List Value) := do
  let (value, position) ← match ← cellAt s.place with
    | .scalar value position => pure (value, position)
    | _ => pure (.missing, none)
  let subject := s.text.toArray
  let all := s.pattern.searchAll subject (2 * subject.size + 2) none (position.getD 0)
  match all.getLast? with
  | some found =>
    let _ ← putFinding s.pattern subject found
  | none => pure ()
  putCell s.place (.scalar value none)
  return all.flatMap fun found =>
    let f : Finding := ⟨subject, found.groups, []⟩
    if s.pattern.groups = 0 then [.text (f.part f.start f.stop)] else f.captures

/-- Looks for a pattern once. -/
def searchOnce (s : Search) : Work (Option Finding) := do
  let subject := s.text.toArray
  match s.pattern.search subject 0 with
  | some found => return some (← putFinding s.pattern subject found)
  | none => return none

/-- The entries that a special table or list has, which tell about what has been found last. -/
def findingCell? (name : Name) : Work (Option Cell) := do
  match (← get).finding, name.sigil, name.text with
  | some f, '%', "+" =>
    let named ← f.names.filterMapM fun (name, number) => do
      match f.group? number with
      | some text =>
        let address ← newScalar (.text text)
        return some (name.toList, address)
      | none => return none
    return some (.table named.toArray 0)
  | some f, '@', "-" | some f, '@', "+" =>
    let places ← f.groups.toList.mapM fun group =>
      newScalar (match group with
        | some (first, last) => .ofNat (if name.text = "-" then first else last)
        | none => .missing)
    return some (.list places.toArray)
  | _, _, _ => return none

/-- The place of a name, with the special ones. -/
def namedPlace (name : Name) : Work Nat := do
  if name.sigil = '*' then handleNamed name.text
  else if name.sigil = '&' then
    match ← routine? (qualified (← get).package name.text) with
    | some address => return address
    | none => fail ("Undefined subroutine &main::".toList ++ name.text.toList ++ " called".toList)
  else
    match ← (if name.sigil ≠ '$' then findingCell? name else pure none) with
    | some cell => alloc cell
    | none =>
      match ← (if name.sigil = '$' then findingValue? name.text else pure none) with
      | some value => newScalar value
      | none => placeOf name

/-- The value of a name. -/
def namedValue (name : Name) : Work Value := do
  match name.sigil, name.text with
  | '$', "$" => return .ofNat (← get).machine.process
  | '*', _ | '&', _ => return .reference (← namedPlace name)
  | '$', _ =>
    match ← findingValue? name.text with
    | some value => return value
    | none => valueAt (← placeOf name)
  | _, _ => valueAt (← namedPlace name)

/-- Functions that look at the topic if they are given nothing. -/
def topicFunctions : List String :=
  ["lc", "uc", "lcfirst", "ucfirst", "fc", "length", "chr", "ord", "int", "abs", "sqrt", "sin", "cos", "exp",
    "log", "hex", "oct", "quotemeta", "unlink", "rmdir", "readlink", "stat", "lstat", "glob", "ref", "mkdir"]

/-- Functions that ask each argument for one value. -/
def eachOneFunctions : List String :=
  ["index", "rindex", "atan2", "rename", "mkdir", "bless", "symlink", "link"]

/-- Whether an expression has a place of its own, which may come into being. -/
def hasPlace : Expr → Bool
  | .named name => name.sigil = '$'
  | .element _ _ | .entry _ _ | .declared _ _ _ => true
  | .target sigil _ => sigil = '$'
  | _ => false

def setLine (line : Nat) : Work Unit := modify fun s => { s with line }

/-- Keeps what a global name leads to, to be put back at the end of the block, and gives it a new place. -/
def localizeName (name : Name) : Work Nat := do
  let s ← get
  let name : Name := ⟨name.sigil, qualified s.package name.text⟩
  set { s with restorations := .global name (s.globals.lookup name) :: s.restorations }
  let address ← alloc (if name.sigil = '*' then .handle (Handle.closed name.text.toList)
    else emptyCell name.sigil)
  bindGlobal name address
  return address

/-- Binds a declared name to its place. -/
def declare (kind : Declaration) (name : Name) : Work Nat := do
  match kind with
  | .my =>
    let address ← alloc (emptyCell name.sigil)
    bind name address
    return address
  | .our =>
    let address ← global ⟨name.sigil, qualified (← get).package name.text⟩
    bind name address
    return address
  | .state =>
    let line := (← get).line
    let address ← global ⟨name.sigil, "main::state " ++ name.text ++ " " ++ toString line⟩
    bind name address
    return address

/-- Defines a function. -/
def define (name : String) (body : List Statement) (scope : Option Scope) : Work Unit := do
  let package := (← get).package
  let name := qualified package name
  let address ← alloc (.code ⟨name, package, body, scope⟩)
  bindGlobal ⟨'&', name⟩ address

/-- Defines the functions of statements, and what else is known before a program runs. -/
def defineAll : (fuel : Nat) → List Statement → Work Unit
  | 0, _ => return
  | fuel + 1, statements => do
    let outer := (← get).package
    for s in statements do
      match s with
      | .sub _ name body => define name body none
      | .package name none => modify fun s => { s with package := name }
      | .package name (some body) =>
        let before := (← get).package
        modify fun s => { s with package := name }
        defineAll fuel body
        modify fun s => { s with package := before }
      | .block _ body => defineAll fuel body
      | .special false body => defineAll fuel body
      | .special true body =>
        modify fun s => { s with finals := ⟨"END", s.package, body, none⟩ :: s.finals }
      | .parents (.list items) =>
        let list ← global ⟨'@', qualified (← get).package "ISA"⟩
        for item in items do
          match item with
          | .text name =>
            if name ≠ "-norequire".toList then
              let fresh ← newScalar (.text name)
              changeItems list fun items => items.push fresh
          | .list names =>
            for item in names do
              match item with
              | .text name =>
                let fresh ← newScalar (.text name)
                changeItems list fun items => items.push fresh
              | _ => pure ()
          | _ => pure ()
      | _ => pure ()
    modify fun s => { s with package := outer }

/-- The body of the first branch whose condition holds. -/
def branchFor (holds : Expr → Work Bool) : List (Expr × List Statement) → Work (Option (List Statement))
  | [] => return none
  | (condition, body) :: rest => do
    if ← holds condition then return some body else branchFor holds rest

/-- How much work a program may be. -/
def plenty : Nat := 1000000000000

end Work

/-!
What the evaluation of a part of a program asks of the evaluation of its own parts, and the values and
places of several expressions.
-/

/-- What parts of a program are asked for the work of the parts inside them. -/
structure Core where
  execute : Utility.Execute
  /-- The value of an expression. -/
  scalar : Expr → Work Value
  /-- What an expression gives in a context. -/
  evaluate : Context → Expr → Work (List Value)
  /-- The place of the value that an expression stands for. -/
  place : Expr → Work Nat
  /-- The list or table that an expression with a sign stands for. -/
  container : (sigil : Char) → Expr → Work Nat
  /-- The places of all values that an expression stands for. -/
  places : Expr → Work (List Nat)
  /-- Gives something a new place until the end of the block. -/
  localize : Expr → Work Nat
  /-- Assigns values to what a list stands for; gives the places. -/
  assignList : Expr → List Value → Work (List Nat)
  /-- References to what an expression stands for. -/
  references : Expr → Work (List Value)
  /-- The place of a handle that an expression stands for. -/
  handleOf : Expr → Work Nat
  /-- Calls the function at a place with the list of arguments at another one. -/
  callRoutine : Context → (address arguments : Nat) → Work (List Value)
  /-- Does statements; what the last one gives is the value of them all. -/
  bodyValues : Context → List Statement → Work (List Value)
  /-- Does statements one after the other. -/
  run : List Statement → Work Unit

end KDispatch.Shell.Sigil

namespace KDispatch.Shell.Sigil.Core

open Work

/-- The values of expressions, one after the other. -/
def listOf (core : Core) (items : List Expr) : Work (List Value) := do
  match items with
  | [item] => core.evaluate .many item
  | items =>
    let values ← items.mapM fun item => core.evaluate .many item
    return values.flatten

def placesOfAll (core : Core) (items : List Expr) : Work (List Nat) := do
  let found ← items.mapM fun item => core.places item
  return found.flatten

/-- The key that an expression between braces is. -/
def keyText (core : Core) (key : Expr) : Work Text := do
  match key with
  | .list (first :: second :: rest) =>
    let texts ← (← core.listOf (first :: second :: rest)).mapM textOf
    return (← textOf (← globalValue ";")).intercalate texts
  | .word name => return name.toList
  | key => textOf (← core.scalar key)

end KDispatch.Shell.Sigil.Core
