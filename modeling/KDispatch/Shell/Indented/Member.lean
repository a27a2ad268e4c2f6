import KDispatch.Shell.Indented.System

/-!
Members of values: what belongs to objects and their kinds, and what modules hold.
-/

namespace KDispatch.Shell.Indented

namespace Module

/-- The functions of a module. -/
def functions (name : String) : List String :=
  match name with
  | "os" => ["getcwd", "chdir", "listdir", "mkdir", "makedirs", "remove", "unlink", "rmdir", "removedirs", "rename",
    "replace", "renames", "symlink", "readlink", "chmod", "stat", "lstat", "access", "walk", "getenv", "putenv",
    "getpid", "getppid", "getuid", "geteuid", "getgid", "getegid", "cpu_count", "umask", "fspath", "urandom",
    "_exit", "write", "kill", "system", "popen", "abort", "execv", "execvp", "execve", "execvpe", "execl", "execlp",
    "fsencode", "fsdecode", "isatty", "uname", "read", "close", "getlogin", "getpgrp", "get_terminal_size"]
  | "os.path" => ["join", "basename", "dirname", "split", "splitext", "normpath", "abspath", "realpath", "isabs",
    "exists", "lexists", "isfile", "isdir", "islink", "getsize", "getmtime", "getctime", "getatime", "expanduser",
    "expandvars", "relpath", "samefile", "commonprefix"]
  | "shutil" => ["copy", "copyfile", "copy2", "move", "rmtree", "which"]
  | "subprocess" => ["run", "call", "check_call", "check_output", "getoutput", "getstatusoutput", "Popen"]
  | "json" => ["dumps", "dump", "loads", "load"]
  | "re" => ["compile", "match", "search", "fullmatch", "findall", "finditer", "sub", "subn", "split", "escape",
    "purge"]
  | "math" => ["sqrt", "floor", "ceil", "log", "log2", "log10", "exp", "pow", "sin", "cos", "tan", "atan", "atan2",
    "asin", "acos", "fabs", "gcd", "lcm", "factorial", "isnan", "isinf", "isfinite", "hypot", "isqrt", "prod",
    "comb", "perm", "trunc", "degrees", "radians", "fmod", "copysign", "isclose", "fsum"]
  | "time" => ["time", "sleep", "perf_counter", "monotonic", "time_ns", "process_time", "strftime", "ctime"]
  | "sys" => ["exit", "getrecursionlimit", "setrecursionlimit", "exc_info", "getdefaultencoding",
    "getfilesystemencoding", "intern"]
  | "itertools" => ["chain", "product", "permutations", "combinations", "count", "cycle", "islice", "groupby",
    "zip_longest", "accumulate", "takewhile", "dropwhile", "starmap", "filterfalse", "pairwise",
    "combinations_with_replacement"]
  | "functools" => ["reduce", "lru_cache", "cache", "wraps", "partial", "total_ordering"]
  | "collections" => ["namedtuple"]
  | "operator" => ["itemgetter", "attrgetter", "add", "sub", "mul", "eq", "lt", "gt", "not_", "neg"]
  | "random" => ["random", "randint", "choice", "shuffle", "seed", "randrange", "uniform", "sample"]
  | "copy" => ["copy", "deepcopy"]
  | "glob" => ["glob", "iglob"]
  | "fnmatch" => ["fnmatch", "fnmatchcase", "filter"]
  | "textwrap" => ["dedent", "indent"]
  | "shlex" => ["split", "quote", "join"]
  | "traceback" => ["print_exc", "format_exc"]
  | "dataclasses" => ["dataclass", "field"]
  | "platform" => ["system", "machine", "node", "python_version"]
  | "signal" => ["signal"]
  | "heapq" => ["heappush", "heappop", "heapify", "nsmallest", "nlargest"]
  | "bisect" => ["bisect", "bisect_left", "bisect_right", "insort"]
  | "atexit" => ["register"]
  | "typing" => ["NamedTuple", "cast"]
  | "contextlib" => ["suppress"]
  | "getpass" => ["getuser"]
  | "socket" => ["gethostname"]
  | _ => []

/-- The kinds that a module holds. -/
def kinds (name : String) : List (String × String) :=
  let same (names : List String) : List (String × String) := names.map fun n => (n, n)
  match name with
  | "collections" => same ["OrderedDict", "defaultdict", "Counter", "deque"]
  | "io" => same ["StringIO", "BytesIO"]
  | "pathlib" => [("Path", "PosixPath"), ("PurePath", "PosixPath"), ("PosixPath", "PosixPath"),
    ("PurePosixPath", "PosixPath")]
  | "subprocess" => same ["CalledProcessError", "TimeoutExpired", "SubprocessError", "CompletedProcess"]
  | "json" => same ["JSONDecodeError"]
  | "json.decoder" => same ["JSONDecodeError"]
  | "re" => [("error", "error"), ("Pattern", "re.Pattern"), ("Match", "re.Match")]
  | "os" => [("PathLike", "object"), ("error", "OSError")]
  | "shutil" => [("Error", "OSError")]
  | "queue" => [("Queue", "Queue"), ("LifoQueue", "list")]
  | "typing" => (["Any", "List", "Dict", "Set", "Tuple", "Optional", "Union", "Callable", "Iterable", "Iterator",
      "Sequence", "Mapping", "Type", "Generic", "TypeVar", "Literal", "Final", "IO", "TextIO", "Generator",
      "NoReturn", "FrozenSet", "Protocol"]).map fun n => (n, "object")
  | "abc" => [("ABC", "object")]
  | "collections.abc" => (["Iterable", "Mapping", "Sequence", "Callable", "Iterator"]).map fun n => (n, "object")
  | _ => []

/-- The modules inside a module. -/
def modules (name : String) : List String :=
  match name with
  | "os" => ["path"]
  | "json" => ["decoder"]
  | "collections" => ["abc"]
  | _ => []

/-- All modules. -/
def all : List String :=
  ["os", "os.path", "sys", "shutil", "subprocess", "json", "json.decoder", "re", "math", "time", "itertools",
    "functools", "collections", "collections.abc", "operator", "random", "copy", "glob", "fnmatch", "textwrap",
    "shlex", "traceback", "dataclasses", "platform", "signal", "heapq", "bisect", "atexit", "typing", "contextlib",
    "getpass", "socket", "io", "pathlib", "queue", "abc", "string", "errno", "stat", "__future__", "builtins"] ++
    empty
where
  /-- Modules of which nothing is used here. -/
  empty : List String :=
    ["argparse", "array", "ast", "asyncio", "base64", "binascii", "calendar", "codecs", "concurrent", "csv", "ctypes",
      "datetime", "decimal", "difflib", "dis", "enum", "fcntl", "filecmp", "fileinput", "fractions", "gc", "getopt",
      "gzip", "hashlib", "hmac", "html", "http", "importlib", "inspect", "linecache", "locale", "logging", "mmap",
      "multiprocessing", "numbers", "optparse", "pickle", "pprint", "pwd", "readline", "resource", "sched", "secrets",
      "select", "shelve", "sqlite3", "ssl", "statistics", "struct", "tarfile", "tempfile", "threading", "timeit",
      "token", "tokenize", "types", "unicodedata", "unittest", "urllib", "uuid", "warnings", "weakref", "xml",
      "zipfile", "zlib"]

def letters : List (String × String) :=
  let lower := "abcdefghijklmnopqrstuvwxyz"
  let upper := "ABCDEFGHIJKLMNOPQRSTUVWXYZ"
  let marks := String.ofList (((List.range 127).drop 33).map Char.ofNat |>.filter fun c => !c.isAlphanum)
  let blanks := String.ofList ([' ', '\t', '\n', '\r'] ++ [Char.ofNat 11, Char.ofNat 12])
  [("ascii_lowercase", lower), ("ascii_uppercase", upper), ("ascii_letters", lower ++ upper),
    ("digits", "0123456789"), ("hexdigits", "0123456789abcdefABCDEF"), ("octdigits", "01234567"),
    ("punctuation", marks), ("whitespace", blanks),
    ("printable", "0123456789" ++ lower ++ upper ++ marks ++ blanks)]

/-- A value that a module always holds. -/
def constant? (module name : String) : Option Value :=
  let number (table : List (String × Int)) : Option Value := (table.lookup name).map .integer
  let text (table : List (String × String)) : Option Value := (table.lookup name).map fun t => .text t.toList
  match module with
  | "math" =>
    (match name with
      | "pi" => some 3.141592653589793
      | "e" => some 2.718281828459045
      | "tau" => some 6.283185307179586
      | "inf" => some (1.0 / 0.0)
      | "nan" => some (0.0 / 0.0)
      | _ => none).map .real
  | "string" => text letters
  | "re" => number Core.flagNumbers
  | "os" =>
    (text [("sep", "/"), ("linesep", "\n"), ("name", "posix"), ("devnull", "/dev/null"), ("curdir", "."),
      ("pardir", ".."), ("pathsep", ":"), ("extsep", ".")]).or
      (number [("F_OK", 0), ("R_OK", 4), ("W_OK", 2), ("X_OK", 1), ("O_RDONLY", 0), ("O_WRONLY", 1), ("O_CREAT", 64)])
  | "os.path" => text [("sep", "/"), ("pathsep", ":"), ("curdir", "."), ("pardir", "..")]
  | "subprocess" => number [("PIPE", -1), ("STDOUT", -2), ("DEVNULL", -3)]
  | "sys" =>
    (text [("platform", "linux"), ("byteorder", "little"), ("executable", "/usr/bin/python3"),
      ("version", "3.11.2 (main, Nov 30 2024, 21:22:50) [GCC 12.2.0]"), ("prefix", "/usr"),
      ("exec_prefix", "/usr")]).or
      ((number [("maxsize", 9223372036854775807), ("maxunicode", 1114111), ("hexversion", 51053296)]).or
        (if name = "version_info" then
          some (.tuple [.integer 3, .integer 11, .integer 2, .text "final".toList, .integer 0])
        else none))
  | "signal" =>
    number [("SIGHUP", 1), ("SIGINT", 2), ("SIGQUIT", 3), ("SIGKILL", 9), ("SIGUSR1", 10), ("SIGUSR2", 12),
      ("SIGPIPE", 13), ("SIGALRM", 14), ("SIGTERM", 15), ("SIGCHLD", 17), ("SIG_DFL", 0), ("SIG_IGN", 1)]
  | "errno" =>
    number [("EPERM", 1), ("ENOENT", 2), ("EINTR", 4), ("EIO", 5), ("EBADF", 9), ("EAGAIN", 11), ("ENOMEM", 12),
      ("EACCES", 13), ("EEXIST", 17), ("ENOTDIR", 20), ("EISDIR", 21), ("EINVAL", 22), ("ENOSPC", 28),
      ("EPIPE", 32), ("ENOTEMPTY", 39)]
  | "typing" => if name = "TYPE_CHECKING" then some (.boolean false) else none
  | "abc" => if name = "abstractmethod" then some (.builtin "identity") else none
  | "typing.decorators" => none
  | _ => none

end Module

namespace Core

open Work

/-- A function of an object as it is reached through the object. -/
def reached (core : Core) (receiver owner value : Value) : Work Value := do
  match value with
  | .object address =>
    match ← objectAt address with
    | .function _ =>
      match receiver with
      | .nothing => return value
      | receiver => return .bound receiver address
    | .record (.kind "property") members =>
      match receiver with
      | .nothing => return value
      | receiver => core.call ((members.lookup "fget").getD .nothing) [receiver] []
    | .record (.kind "staticmethod") members => return (members.lookup "__func__").getD .nothing
    | .record (.kind "classmethod") members =>
      match members.lookup "__func__" with
      | some (.object function) => return .bound owner function
      | _ => return .nothing
    | _ => return value
  | value => return value

/-- The methods of failures and other objects that their kinds have by themselves. -/
def recordMethods (kind : String) : List String :=
  match kind with
  | "re.Match" => ["group", "groups", "groupdict", "start", "end", "span", "expand"]
  | "re.Pattern" => ["match", "search", "fullmatch", "findall", "finditer", "sub", "subn", "split"]
  | "Popen" => ["communicate", "wait", "poll", "kill", "terminate", "send_signal", "__enter__", "__exit__"]
  | "property" => ["setter", "getter", "deleter"]
  | "CompletedProcess" => ["check_returncode"]
  | "PosixPath" => ["exists", "is_file", "is_dir", "is_symlink", "read_text", "write_text", "read_bytes",
    "write_bytes", "mkdir", "unlink", "rmdir", "rename", "iterdir", "glob", "resolve", "absolute", "joinpath",
    "with_suffix", "with_name", "open", "stat", "as_posix", "touch", "is_absolute", "relative_to", "expanduser",
    "chmod", "__truediv__", "rglob", "replace", "cwd", "home"]
  | "suppress" => ["__enter__", "__exit__"]
  | "partial" | "cached" => []
  | _ => []

/-- A part of a path that an object stands for. -/
def pathMember? (path : Text) (name : String) : Option Value :=
  let base := Paths.base path
  let (stem, ending) := Paths.extension base
  match name with
  | "name" => some (.text base)
  | "stem" => some (.text stem)
  | "suffix" => some (.text ending)
  | _ => none

def newPath (path : Text) : Work Value := do
  let t := if path.head? = some '/' || path.isEmpty then Paths.plain path else Paths.plain path
  new (.record (.kind "PosixPath") [("__path__", .text t)])

/-- The path around another one. -/
def outerPath (path : Text) : Text :=
  let t := Paths.directory path
  if t.isEmpty then ['.'] else t

/-- A member of an object of a kind. -/
def recordMember? (core : Core) (value : Value) (address : Nat) (kind : Value) (members : List (String × Value))
    (name : String) : Work (Option Value) := do
  let fromKind ← memberOf? kind name
  let isProperty ← match fromKind with
    | some (.object found) =>
      match ← objectAt found with
      | .record (.kind "property") _ => pure true
      | _ => pure false
    | _ => pure false
  match isProperty, members.lookup name, fromKind with
  | false, some v, _ => return some v
  | _, _, some v => return some (← core.reached value kind v)
  | _, _, none =>
    match name with
    | "__class__" => return some kind
    | "__dict__" =>
      return some (← newTable ((members.filter fun (n, _) => n ≠ "args" && !n.startsWith "__").map
        fun (n, v) => (.text n.toList, v)))
    | "__cause__" | "__context__" | "__traceback__" => return some .nothing
    | _ =>
      let own ← kindName (← (do
        match (← lineage 50 kind).find? fun k =>
            match k with
            | .kind _ => true
            | _ => false with
        | some k => return k
        | none => return kind))
      if (recordMethods own).contains name then return some (.method value name)
      else if Kind.isFailure own then
        match name with
        | "__init__" | "with_traceback" | "__str__" | "__repr__" | "add_note" => return some (.method value name)
        | "errno" | "strerror" | "filename" | "code" | "value" | "msg" | "reason" | "__notes__" =>
          let arguments := failureArguments members
          return some (match name with
            | "strerror" => arguments.getD 1 .nothing
            | "filename" => arguments.getD 2 .nothing
            | "errno" => if arguments.length < 2 then .nothing else arguments.headD .nothing
            | _ => arguments.headD .nothing)
        | _ => return none
      else
        match own, members.lookup "__path__" with
        | "PosixPath", some (.text t) =>
          match name with
          | "parent" => return some (← newPath (outerPath t))
          | "parts" =>
            let start : List Value := if t.head? = some '/' then [.text ['/']] else []
            return some (.tuple (start ++ ((t.splitOn '/').filter (!·.isEmpty)).map .text))
          | "parents" => do
            let rec go : (fuel : Nat) → Text → Work (List Value)
              | 0, _ => return []
              | fuel + 1, t => do
                let outer := outerPath t
                if outer = t then return []
                else return (← newPath outer) :: (← go fuel outer)
            return some (.tuple (← go (t.length + 1) t))
          | name => return pathMember? t name
        | _, _ =>
          match name with
          | "__init__" | "__str__" | "__repr__" | "__eq__" | "__hash__" | "__setattr__" | "__init_subclass__" =>
            return some (.method value name)
          | "_asdict" | "_replace" =>
            return if (members.lookup "__items__").isSome then some (.method value name) else none
          | "_fields" => return members.lookup "__fields__"
          | _ =>
            match ← Work.special? value "__getattr__" with
            | some function =>
              let _ := address
              return some (← core.call function [.text name.toList] [])
            | none => return none

/-- What a module holds under a name. -/
def moduleMember? (module name : String) : Work (Option Value) := do
  match ← memberOfModule? module name with
  | some v => return some v
  | none =>
    let full := module ++ "." ++ name
    if (Module.functions module).contains name then return some (.builtin full)
    else if (Module.modules module).contains name then return some (.module full)
    else
      match (Module.kinds module).lookup name, Module.constant? module name with
      | some kind, _ => return some (.kind kind)
      | none, some v => return some v
      | none, none =>
        match module, name with
        | "json", "JSONDecodeError" => return some (.kind "JSONDecodeError")
        | "typing", "overload" | "typing", "runtime_checkable" => return some (.builtin "identity")
        | _, "__name__" => return some (.text module.toList)
        | _, _ => return none

/-- The member of a value with a name. -/
def member? (core : Core) (value : Value) (name : String) : Work (Option Value) := do
  let plain : Work (Option Value) := do
    let kind ← kindNameOf value
    match name with
    | "__class__" => return some (← kindOf value)
    | "__doc__" => return some .nothing
    | _ => return if (methodsOf kind).contains name then some (.method value name) else none
  match value with
  | .integer n =>
    match name with
    | "real" | "numerator" => return some (.integer n)
    | "imag" => return some (.integer 0)
    | "denominator" => return some (.integer 1)
    | _ => plain
  | .real x =>
    match name with
    | "real" => return some (.real x)
    | "imag" => return some (.real 0)
    | _ => plain
  | .tuple items =>
    -- The parts of the version have names too.
    match name, items with
    | "major", a :: _ => return some a
    | "minor", _ :: b :: _ => return some b
    | "micro", _ :: _ :: c :: _ => return some c
    | _, _ => plain
  | .range first last step =>
    match name with
    | "start" => return some (.integer first)
    | "stop" => return some (.integer last)
    | "step" => return some (.integer step)
    | _ => plain
  | .slice first last step =>
    match name with
    | "start" => return some first
    | "stop" => return some last
    | "step" => return some step
    | _ => plain
  | .kind kind =>
    match name with
    | "__name__" | "__qualname__" => return some (.text kind.toList)
    | "__module__" => return some (.text "builtins".toList)
    | "__class__" => return some (.kind "type")
    | "__doc__" => return some .nothing
    | _ =>
      let special := ["__init__", "__new__", "__str__", "__repr__", "__eq__", "__setattr__", "__getattribute__",
        "fromhex", "cwd", "home"]
      return if (methodsOf kind).contains name || (recordMethods kind).contains name || special.contains name then
        some (.method value name) else none
  | .module module => moduleMember? module name
  | .builtin full =>
    match name, full with
    | "from_iterable", "itertools.chain" => return some (.builtin "itertools.chain.from_iterable")
    | "__name__", _ | "__qualname__", _ =>
      return some (.text ((full.toList.reverse.takeWhile (· ≠ '.')).reverse))
    | _, _ => return none
  | .bound receiver function =>
    match name with
    | "__self__" => return some receiver
    | "__func__" => return some (.object function)
    | _ =>
      match ← objectAt function with
      | .function r => return if name = "__name__" then some (.text r.name.toList) else none
      | _ => return none
  | .object address =>
    match ← objectAt address with
    | .record (.kind "super") members =>
      match members.lookup "__self__", members.lookup "__after__" with
      | some receiver, some owner => do
        let kind ← match receiver with
          | .object own =>
            match ← objectAt own with
            | .classes _ _ _ => pure receiver
            | _ => kindOf receiver
          | receiver => kindOf receiver
        let rest := ((← lineage 50 kind).dropWhile fun k => !isSameKind owner k).drop 1
        match ← memberIn? name rest with
        | some v => return some (← core.reached receiver kind v)
        | none => return some (.method receiver name)
      | _, _ => return none
    | .record kind members => core.recordMember? value address kind members name
    | .classes own bases _ =>
      match ← memberOf? value name with
      | some v => return some (← core.reached .nothing value v)
      | none =>
        match name with
        | "__name__" | "__qualname__" => return some (.text own.toList)
        | "__module__" => return some (.text "__main__".toList)
        | "__bases__" => return some (.tuple bases)
        | "__mro__" => return some (.tuple (← lineage 50 value))
        | "__class__" => return some (.kind "type")
        | "__doc__" => return some .nothing
        | "__init__" | "__new__" | "__str__" | "__repr__" | "__eq__" | "__setattr__" | "__init_subclass__" =>
          return some (.method (.kind "object") name)
        | "fromkeys" => return some (.method (.kind "dict") name)
        | _ => return none
    | .function r =>
      match name with
      | "__name__" | "__qualname__" => return some (.text r.name.toList)
      | "__doc__" => return some ((r.note.map Value.text).getD .nothing)
      | "__module__" => return some (.text "__main__".toList)
      | "__class__" => return some (.kind "function")
      | name => memberOfModule? ("function" ++ toString address) name
    | .file f =>
      match name with
      | "name" => return some (.text f.name)
      | "mode" => return some (.text f.mode)
      | "closed" => return some (.boolean (!f.isOpen))
      | "encoding" => return some (.text "utf-8".toList)
      | "buffer" => return some (← (do
          let full := fileKey address
          match ← memberOfModule? full "buffer" with
          | some v => return v
          | none => do
            flush address
            let made ← new (.file { f with isBinary := true, unwritten := [], unwrittenCount := 0 })
            putMember full "buffer" made
            return made))
      | _ => return if (methodsOf "file").contains name then some (.method value name) else none
    | .steps _ _ =>
      return if ["__next__", "send", "close", "__iter__", "throw"].contains name then some (.method value name)
        else none
    | .table "defaultdict" usual _ => if name = "default_factory" then return some usual else plain
    | _ => plain
  | _ => plain

/-- The member of a value with a name, which has to be there. -/
def member (core : Core) (value : Value) (name : String) : Work Value := do
  match ← core.member? value name with
  | some v => return v
  | none => refuseMember value name

/-- Changes a member of a value. -/
def putMemberOf (core : Core) (value : Value) (name : String) (new : Value) : Work Unit := do
  let refused : Work Unit := do
    fail "AttributeError" ("'".toList ++ (← kindNameOf value).toList ++ "' object has no attribute '".toList ++
      name.toList ++ ['\''])
  match value with
  | .module module => putMember module name new
  | .object address =>
    match ← objectAt address with
    | .record kind members =>
      let setter ← match ← memberOf? kind name with
        | some (.object found) =>
          match ← objectAt found with
          | .record (.kind "property") parts => pure (some (parts.lookup "fset"))
          | _ => pure none
        | _ => pure none
      match setter with
      | some (some function) =>
        let _ ← core.call function [value, new] []
        return
      | some none =>
        fail "AttributeError" ("property '".toList ++ name.toList ++ "' of '".toList ++
          (← kindNameOf value).toList ++ "' object has no setter".toList)
      | none =>
        if (members.lookup "__frozen__").isSome then
          fail "AttributeError" ("cannot assign to field '".toList ++ name.toList ++ ['\''])
        else
          match ← core.special? value "__setattr__" [.text name.toList, new] with
          | some _ => return
          | none => putObject address (.record kind (replaceEntry name new members))
    | .classes own bases members => putObject address (.classes own bases (replaceEntry name new members))
    | .function _ => putMember ("function" ++ toString address) name new
    | _ => refused
  | _ => refused

/-- Takes a member away from a value. -/
def eraseMember (value : Value) (name : String) : Work Unit := do
  let refused : Work Unit := refuseMember value name
  match value with
  | .object address =>
    match ← objectAt address with
    | .record kind members =>
      if (members.lookup name).isSome then
        putObject address (.record kind (members.filter (·.1 ≠ name)))
      else fail "AttributeError" name.toList
    | .classes own bases members => putObject address (.classes own bases (members.filter (·.1 ≠ name)))
    | _ => refused
  | _ => refused

end Core

end KDispatch.Shell.Indented
