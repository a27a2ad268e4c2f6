import KDispatch.Shell.Indented.Syntax
import KDispatch.Shell.Machine
import KDispatch.Shell.Utility.Records.State
import KDispatch.Text.Utf8

/-!
The state of a program that runs: objects, the names of functions that run, open files, and failures with the
places that they have come from; and the kinds that values are of.
-/

namespace KDispatch.Shell.Indented

inductive Value where
  | nothing
  | ellipsis
  /-- What an operator gives that does not know its operand. -/
  | refused
  | boolean (b : Bool)
  | integer (n : Int)
  | real (x : Float)
  | text (t : Text)
  | bytes (t : Text)
  | tuple (items : List Value)
  | range (first last step : Int)
  | slice (first last step : Value)
  /-- A kind of values that the language has, or a kind of failures. -/
  | kind (name : String)
  /-- A function that the language or one of its modules has. -/
  | builtin (name : String)
  /-- A function that belongs to a value. -/
  | method (receiver : Value) (name : String)
  /-- A function of the program that belongs to an object. -/
  | bound (receiver : Value) (function : Nat)
  | module (name : String)
  /-- The object with a number. -/
  | object (address : Nat)
  deriving Inhabited

/-- A function of the program. -/
structure Routine where
  name : String
  /-- The name with those of what the function has been defined in. -/
  fullName : String
  parameters : List Parameter
  /-- The values of parameters that need no argument. -/
  usual : List (String × Value)
  body : List Statement
  /-- The scopes around the function, from the inmost on. -/
  scopes : List Nat
  /-- The names that belong to a call. -/
  locals : List String
  globals : List String
  outers : List String
  /-- Whether it gives values one by one. -/
  givesSteps : Bool
  note : Option Text

/-- A file, or a text that is read or written like one. -/
structure File where
  name : Text
  mode : Text
  description : Option Nat
  isOpen : Bool
  reads : Bool
  writes : Bool
  isBinary : Bool
  /-- What has been read and not been used, as bytes. -/
  held : Text
  ended : Bool
  /-- What has not been written yet, as bytes in reverse. -/
  unwritten : Text
  unwrittenCount : Nat
  /-- Whether what is written stays in the file itself. -/
  keeps : Bool

inductive Object where
  | list (kind : String) (items : Array Value)
  | table (kind : String) (usual : Value) (entries : Array (Value × Value))
  | set (kind : String) (items : Array Value)
  | record (kind : Value) (members : List (String × Value))
  | classes (name : String) (bases : List Value) (members : List (String × Value))
  | function (routine : Routine)
  | scope (names : List (String × Value))
  | file (file : File)
  /-- Values that are still to be walked over. -/
  | steps (kind : String) (items : List Value)

instance : Inhabited Object := ⟨.scope []⟩

/-- A call that runs. -/
structure Frame where
  name : String
  span : Span
  /-- The scopes in which names are looked up, from the inmost on. -/
  scopes : List Nat
  /-- The scopes that functions know which are made here. -/
  known : List Nat
  locals : List String
  globals : List String
  outers : List String

/-- How work is left other than by coming to its end. -/
inductive Jump where
  | halt (halt : Halt)
  | failure (value : Value)
  | stop
  | again
  | give (value : Value)

structure State where
  machine : Machine
  file : Text
  lines : Array Text
  heap : Array Object
  frames : List Frame
  /-- The names of the whole program. -/
  top : Nat
  /-- The failures that are being handled, from the inmost on. -/
  handling : List Value
  /-- Where failures have come from, by their numbers. -/
  traces : List (Nat × List (String × Span))
  /-- What functions that give values one by one have given, in reverse. -/
  given : List (List Value)
  /-- What goes with modules: values that programs may change. -/
  members : List (String × Value)
  finals : List (Value × List Value)
  random : UInt64

abbrev Work := EStateM Jump State

namespace Work

/-- Does work of a process. -/
def task {α : Type} (work : Task α) : Work α := fun s =>
  let machine := s.machine
  let s := { s with machine := Machine.blank }
  match work machine with
  | .ok value machine => .ok value { s with machine }
  | .error halt machine => .error (.halt halt) { s with machine }

def alloc (object : Object) : Work Nat :=
  modifyGet fun s => (s.heap.size, { s with heap := s.heap.push object })

def new (object : Object) : Work Value := do return .object (← alloc object)

def objectAt (address : Nat) : Work Object := return (← get).heap.getD address default

def putObject (address : Nat) (object : Object) : Work Unit :=
  modify fun s => { s with heap := s.heap.setIfInBounds address object }

def newList (items : List Value) : Work Value := new (.list "list" items.toArray)

def newTable (entries : List (Value × Value)) : Work Value := new (.table "dict" .nothing entries.toArray)

def replaceEntry (name : String) (value : Value) : List (String × Value) → List (String × Value)
  | [] => [(name, value)]
  | (n, v) :: rest => if n = name then (name, value) :: rest else (n, v) :: replaceEntry name value rest

/-- Takes note of the place of the program in the call that runs. -/
def setSpan (span : Span) : Work Unit :=
  modify fun s =>
    match s.frames with
    | frame :: rest => { s with frames := { frame with span } :: rest }
    | [] => s

/-- The places of all calls that run, from the outmost on. -/
def placesNow : Work (List (String × Span)) :=
  return ((← get).frames.map fun frame => (frame.name, frame.span)).reverse

/-- Fails with a value, of which it is kept where it has come from. -/
def raise {α : Type} (value : Value) : Work α := do
  match value with
  | .object address =>
    let places ← placesNow
    let s ← get
    let trace := match s.traces.lookup address with
      | none => places
      | some old => places ++ old
    let handled := s.handling.head?
    modify fun s =>
      { s with traces := ((address, trace) :: s.traces.filter (·.1 ≠ address)).take 100 }
    match ← objectAt address, handled with
    | .record kind members, some (.object cause) =>
      if cause ≠ address && (members.lookup "__context__").isNone then
        putObject address (.record kind (members ++ [("__context__", .object cause)]))
    | _, _ => pure ()
    throw (.failure value)
  | value => throw (.failure value)

/-- A failure of a kind. -/
def newFailure (kind : String) (arguments : List Value) : Work Value :=
  new (.record (.kind kind) [("args", .tuple arguments)])

/-- Fails with a message. -/
def fail {α : Type} (kind : String) (message : Text) : Work α := do
  raise (← newFailure kind [.text message])

/-- The kind of failure that an error of the system is. -/
def kindOfError (e : SystemError) : String :=
  match e with
  | .notFound => "FileNotFoundError"
  | .permissionDenied | .notPermitted => "PermissionError"
  | .alreadyExists => "FileExistsError"
  | .isADirectory => "IsADirectoryError"
  | .notADirectory => "NotADirectoryError"
  | _ => "OSError"

/-- Fails as the system has failed. -/
def failSystem {α : Type} (e : SystemError) (file : Option Text) : Work α := do
  let number : Value := .integer ((e.number?.getD 5 : Nat) : Int)
  let arguments := [number, .text e.reason.toList]
  let named := match file with
    | some path => [("filename", Value.text path)]
    | none => []
  raise (← new (.record (.kind (kindOfError e))
    ([("args", .tuple arguments), ("errno", number), ("strerror", .text e.reason.toList)] ++ named)))

/-- The names that a scope binds. -/
def namesAt (address : Nat) : Work (List (String × Value)) := do
  match ← objectAt address with
  | .scope names => return names
  | _ => return []

def bindIn (scope : Nat) (name : String) (value : Value) : Work Unit := do
  putObject scope (.scope (replaceEntry name value (← namesAt scope)))

/-- The first of some scopes that binds a name. -/
def scopeOf? (name : String) : List Nat → Work (Option (Nat × Value))
  | [] => return none
  | scope :: rest => do
    match (← namesAt scope).lookup name with
    | some value => return some (scope, value)
    | none => scopeOf? name rest

/-- Binds a name where the call that runs keeps it. -/
def assignName (name : String) (value : Value) : Work Unit := do
  let s ← get
  match s.frames with
  | frame :: _ =>
    if frame.globals.contains name then bindIn s.top name value
    else if frame.outers.contains name then
      match ← scopeOf? name (frame.scopes.drop 1) with
      | some (scope, _) => bindIn scope name value
      | none => bindIn (frame.scopes.headD s.top) name value
    else bindIn (frame.scopes.headD s.top) name value
  | [] => bindIn s.top name value

/-- Takes a name away from where it is bound. -/
def forgetName (name : String) : Work Unit := do
  let s ← get
  let scopes := match s.frames with
    | frame :: _ => if frame.globals.contains name then [s.top] else frame.scopes
    | [] => [s.top]
  match ← scopeOf? name scopes with
  | some (scope, _) => putObject scope (.scope ((← namesAt scope).filter (·.1 ≠ name)))
  | none => return

/-- Does something at the end of work, however the work is left. -/
def leavingWith {α : Type} (work : Work α) (finish : Work Unit) : Work α := fun s =>
  match work s with
  | .ok value s =>
    match finish s with
    | .ok () s => .ok value s
    | .error jump s => .error jump s
  | .error jump s =>
    match finish s with
    | .ok () s => .error jump s
    | .error jump s => .error jump s

/-- Does work in a call of its own. -/
def inFrame {α : Type} (frame : Frame) (work : Work α) : Work α := do
  modify fun s => { s with frames := frame :: s.frames }
  leavingWith work (modify fun s => { s with frames := s.frames.drop 1 })

/-- Catches failures: what the work gives, or the failure, which has come from the call that runs. -/
def attempted {α : Type} (work : Work α) : Work (Except Value α) := fun s =>
  let depth := s.frames.length
  match work s with
  | .ok value s => .ok (.ok value) s
  | .error (.failure value) s =>
    let traces := s.traces.map fun (address, trace) =>
      match value with
      | .object failed => (address, if address = failed then trace.drop (depth - 1) else trace)
      | _ => (address, trace)
    .ok (.error value) { s with traces }
  | .error jump s => .error jump s

/-- The bytes of a text that is written. -/
def encoded (text : Text) : Text := ByteText.ofBytes (Utf8.encode text)

/-- The text that bytes are. -/
def decoded (bytes : Text) : Text := Utf8.decodeLossy (ByteText.toBytes bytes)

/-- A path as a byte text. -/
def pathOf (text : Text) : Text := encoded text

end Work

/-!
Kinds of values and how they stand to each other: what a kind takes over from others, and where the members of
objects are found.
-/

namespace Kind

/-- The kind that a kind of the language takes over from. -/
def parent? (name : String) : Option String :=
  match name with
  | "object" => none
  | "bool" => some "int"
  | "OrderedDict" | "defaultdict" | "Counter" => some "dict"
  | "BaseException" => some "object"
  | "Exception" | "SystemExit" | "KeyboardInterrupt" | "GeneratorExit" => some "BaseException"
  | "ArithmeticError" | "LookupError" | "ValueError" | "TypeError" | "NameError" | "AttributeError"
  | "RuntimeError" | "OSError" | "ImportError" | "AssertionError" | "StopIteration" | "EOFError"
  | "SyntaxError" | "SystemError" | "MemoryError" | "BufferError" | "ReferenceError" | "Warning"
  | "SubprocessError" => some "Exception"
  | "ZeroDivisionError" | "OverflowError" | "FloatingPointError" => some "ArithmeticError"
  | "IndexError" | "KeyError" => some "LookupError"
  | "UnicodeError" | "JSONDecodeError" | "UnsupportedOperation" => some "ValueError"
  | "UnicodeDecodeError" | "UnicodeEncodeError" => some "UnicodeError"
  | "UnboundLocalError" => some "NameError"
  | "NotImplementedError" | "RecursionError" => some "RuntimeError"
  | "FileNotFoundError" | "PermissionError" | "FileExistsError" | "IsADirectoryError" | "NotADirectoryError"
  | "BrokenPipeError" | "ConnectionError" | "TimeoutError" | "ProcessLookupError" | "ChildProcessError"
  | "InterruptedError" | "BlockingIOError" => some "OSError"
  | "ModuleNotFoundError" => some "ImportError"
  | "IndentationError" => some "SyntaxError"
  | "UserWarning" | "DeprecationWarning" | "RuntimeWarning" => some "Warning"
  | "CalledProcessError" | "TimeoutExpired" => some "SubprocessError"
  | "error" => some "Exception"
  | _ => some "object"

/-- A kind and all that it takes over from. -/
def ancestors : (fuel : Nat) → String → List String
  | 0, _ => []
  | fuel + 1, name =>
    match parent? name with
    | some parent => name :: ancestors fuel parent
    | none => [name]

def isKindOf (name ancestor : String) : Bool := (ancestors 20 name).contains ancestor

def isFailure (name : String) : Bool := isKindOf name "BaseException"

/-- The kinds of values that the language has. -/
def usual : List String :=
  ["object", "int", "float", "bool", "str", "bytes", "list", "tuple", "dict", "set", "frozenset", "type", "range",
    "bytearray", "slice", "property", "staticmethod", "classmethod", "super", "complex"]

/-- The kinds of failures that have a name everywhere. -/
def failures : List String :=
  ["BaseException", "Exception", "SystemExit", "KeyboardInterrupt", "GeneratorExit", "ArithmeticError",
    "LookupError", "ValueError", "TypeError", "NameError", "AttributeError", "RuntimeError", "OSError",
    "ImportError", "AssertionError", "StopIteration", "EOFError", "SyntaxError", "SystemError", "MemoryError",
    "ZeroDivisionError", "OverflowError", "FloatingPointError", "IndexError", "KeyError", "UnicodeError",
    "UnicodeDecodeError", "UnicodeEncodeError", "UnboundLocalError", "NotImplementedError", "RecursionError",
    "FileNotFoundError", "PermissionError", "FileExistsError", "IsADirectoryError", "NotADirectoryError",
    "BrokenPipeError", "ConnectionError", "TimeoutError", "ProcessLookupError", "ChildProcessError",
    "InterruptedError", "BlockingIOError", "ModuleNotFoundError", "IndentationError", "Warning", "UserWarning",
    "DeprecationWarning", "RuntimeWarning", "BufferError", "ReferenceError"]

end Kind

namespace Work

/-- The kind of a value. -/
def kindOf (value : Value) : Work Value := do
  match value with
  | .nothing => return .kind "NoneType"
  | .ellipsis => return .kind "ellipsis"
  | .refused => return .kind "NotImplementedType"
  | .boolean _ => return .kind "bool"
  | .integer _ => return .kind "int"
  | .real _ => return .kind "float"
  | .text _ => return .kind "str"
  | .bytes _ => return .kind "bytes"
  | .tuple _ => return .kind "tuple"
  | .range _ _ _ => return .kind "range"
  | .slice _ _ _ => return .kind "slice"
  | .kind _ => return .kind "type"
  | .builtin _ => return .kind "builtin_function_or_method"
  | .method _ _ => return .kind "builtin_function_or_method"
  | .bound _ _ => return .kind "method"
  | .module _ => return .kind "module"
  | .object address =>
    match ← objectAt address with
    | .list kind _ | .table kind _ _ | .set kind _ | .steps kind _ => return .kind kind
    | .record kind _ => return kind
    | .classes _ _ _ => return .kind "type"
    | .function _ => return .kind "function"
    | .scope _ => return .kind "module"
    | .file f =>
      return .kind (if f.isBinary then (if f.reads then "_io.BufferedReader" else "_io.BufferedWriter")
        else if f.keeps then "_io.StringIO" else "_io.TextIOWrapper")

/-- The name of a kind. -/
def kindName (kind : Value) : Work String := do
  match kind with
  | .kind name => return name
  | .object address =>
    match ← objectAt address with
    | .classes name _ _ => return name
    | _ => return "object"
  | _ => return "object"

/-- The name of the kind of a value. -/
def kindNameOf (value : Value) : Work String := do kindName (← kindOf value)

/-- A kind with all that it takes over from, in the order in which members are looked for. -/
def lineage : (fuel : Nat) → Value → Work (List Value)
  | 0, _ => return []
  | fuel + 1, kind => do
    match kind with
    | .kind name => return (Kind.ancestors 20 name).map .kind
    | .object address =>
      match ← objectAt address with
      | .classes _ bases _ =>
        let found ← bases.mapM fun base => lineage fuel base
        let rec merged : List Value → List Value
          | [] => []
          | v :: rest =>
            let isSame : Value → Bool := fun w =>
              match v, w with
              | .kind a, .kind b => a = b
              | .object a, .object b => a = b
              | _, _ => false
            if rest.any isSame then merged rest else v :: merged rest
        let rest := merged found.flatten
        return kind :: (if rest.isEmpty then [.kind "object"] else rest)
      | _ => return []
    | _ => return []

def isSameKind : Value → Value → Bool
  | .kind a, .kind b => a = b
  | .object a, .object b => a = b
  | _, _ => false

/-- Whether a kind is another one, or takes over from it. -/
def isSubkind (kind ancestor : Value) : Work Bool := do
  return (← lineage 50 kind).any (isSameKind ancestor)

/-- Whether a value is of a kind, or of one of several. -/
def isInstance (value : Value) : (fuel : Nat) → (kinds : Value) → Work Bool
  | 0, _ => return false
  | fuel + 1, kinds => do
    match kinds with
    | .tuple items => items.anyM fun item => isInstance value fuel item
    | kind => isSubkind (← kindOf value) kind

/-- A member of one of some kinds. -/
def memberIn? (name : String) : List Value → Work (Option Value)
  | [] => return none
  | .object address :: rest => do
    match ← objectAt address with
    | .classes _ _ members =>
      match members.lookup name with
      | some value => return some value
      | none => memberIn? name rest
    | _ => memberIn? name rest
  | _ :: rest => memberIn? name rest

/-- A member of a kind of the program. -/
def memberOf? (kind : Value) (name : String) : Work (Option Value) := do
  memberIn? name (← lineage 50 kind)

/-- A function of an object's kind, which may be called with the object. -/
def special? (value : Value) (name : String) : Work (Option Value) := do
  match value with
  | .object address =>
    match ← objectAt address with
    | .record kind _ =>
      match ← memberOf? kind name with
      | some (.object function) =>
        match ← objectAt function with
        | .function _ => return some (.bound value function)
        | _ => return none
      | _ => return none
    | _ => return none
  | _ => return none

end Work

end KDispatch.Shell.Indented
