import KDispatch.Shell.Extended.State

/-!
Work of builtin commands of the extended shell: how they read their options, and how they end early with a
status after a mistake of use.
-/

namespace KDispatch.Shell.Extended.Builtin

/-- Work of a builtin, which can end early with a status. -/
abbrev Work := ExceptT Nat Command

/-- Ends the builtin with a status. -/
def finish {α : Type} (status : Nat) : Work α := throw status

/-- The status of a builtin. -/
def Work.status (work : Work Nat) : Command Nat := do
  match ← work.run with
  | .ok status => return status
  | .error status => return status

/-- The words that each builtin can be given. -/
def usages : List (String × String) :=
  [(".", "filename [arguments]"), ("[", "[ arg... ]"), ("alias", "[-p] [name[=value] ... ]"),
    ("bg", "[job_spec ...]"),
    ("bind", "[-lpsvPSVX] [-m keymap] [-f filename] [-q name] [-u name] [-r keyseq] " ++
      "[-x keyseq:shell-command] [keyseq:readline-function or readline-command]"),
    ("break", "[n]"), ("builtin", "[shell-builtin [arg ...]]"), ("caller", "[expr]"),
    ("cd", "[-L|[-P [-e]] [-@]] [dir]"), ("command", "[-pVv] command [arg ...]"),
    ("compgen", "[-abcdefgjksuv] [-o option] [-A action] [-G globpat] [-W wordlist] [-F function] " ++
      "[-C command] [-X filterpat] [-P prefix] [-S suffix] [word]"),
    ("complete", "[-abcdefgjksuv] [-pr] [-DEI] [-o option] [-A action] [-G globpat] [-W wordlist] " ++
      "[-F function] [-C command] [-X filterpat] [-P prefix] [-S suffix] [name ...]"),
    ("compopt", "[-o|+o option] [-DEI] [name ...]"), ("continue", "[n]"),
    ("declare", "[-aAfFgiIlnrtux] [name[=value] ...] or declare -p [-aAfFilnrtux] [name ...]"),
    ("dirs", "[-clpv] [+N] [-N]"), ("disown", "[-h] [-ar] [jobspec ... | pid ...]"),
    ("enable", "[-a] [-dnps] [-f filename] [name ...]"), ("eval", "[arg ...]"),
    ("exec", "[-cl] [-a name] [command [argument ...]] [redirection ...]"), ("exit", "[n]"),
    ("export", "[-fn] [name[=value] ...] or export -p"),
    ("fc", "[-e ename] [-lnr] [first] [last] or fc -s [pat=rep] [command]"), ("fg", "[job_spec]"),
    ("getopts", "optstring name [arg ...]"), ("hash", "[-lr] [-p pathname] [-dt] [name ...]"),
    ("help", "[-dms] [pattern ...]"),
    ("history", "[-c] [-d offset] [n] or history -anrw [filename] or history -ps arg [arg...]"),
    ("jobs", "[-lnprs] [jobspec ...] or jobs -x command [args]"),
    ("kill", "[-s sigspec | -n signum | -sigspec] pid | jobspec ... or kill -l [sigspec]"),
    ("let", "arg [arg ...]"), ("local", "[option] name[=value] ..."), ("logout", "[n]"),
    ("mapfile", "[-d delim] [-n count] [-O origin] [-s count] [-t] [-u fd] [-C callback] " ++
      "[-c quantum] [array]"),
    ("popd", "[-n] [+N | -N]"), ("printf", "[-v var] format [arguments]"),
    ("pushd", "[-n] [+N | -N | dir]"), ("pwd", "[-LP]"),
    ("read", "[-ers] [-a array] [-d delim] [-i text] [-n nchars] [-N nchars] [-p prompt] " ++
      "[-t timeout] [-u fd] [name ...]"),
    ("readarray", "[-d delim] [-n count] [-O origin] [-s count] [-t] [-u fd] [-C callback] " ++
      "[-c quantum] [array]"),
    ("readonly", "[-aAf] [name[=value] ...] or readonly -p"), ("return", "[n]"),
    ("set", "[-abefhkmnptuvxBCEHPT] [-o option-name] [--] [-] [arg ...]"), ("shift", "[n]"),
    ("shopt", "[-pqsu] [-o] [optname ...]"), ("source", "filename [arguments]"), ("suspend", "[-f]"),
    ("test", "[expr]"), ("trap", "[-lp] [[arg] signal_spec ...]"),
    ("type", "[-afptP] name [name ...]"),
    ("typeset", "[-aAfFgiIlnrtux] name[=value] ... or typeset -p [-aAfFilnrtux] [name ...]"),
    ("ulimit", "[-SHabcdefiklmnpqrstuvxPRT] [limit]"), ("umask", "[-p] [-S] [mode]"),
    ("unalias", "[-a] name [name ...]"), ("unset", "[-f] [-v] [-n] [name ...]"),
    ("wait", "[-fn] [-p var] [id ...]")]

/-- Shows how the running builtin is used. -/
def showUsage : Command Unit := do
  let name := ((← get).command).getD []
  let words := (usages.lookup (String.ofList name)).getD ""
  let _ ← Command.task
    (Task.write 2 (name ++ ": usage: ".toList ++ name ++ ' ' :: words.toList ++ ['\n']))

/-- Shows how the running builtin is used, and ends it. -/
def misused {α : Type} : Work α := do
  showUsage
  finish 2

/-- Reports a mistake and ends the builtin with status 1. -/
def refuse {α : Type} (message : Text) : Work α := do
  Command.warn message
  finish 1

/-- An option, which a plus sign takes back. -/
structure Choice where
  isOn : Bool
  letter : Char
  argument : Text

/-- The kind of an option: none, one without an argument, or one with an argument. -/
def choiceKind (known : String) (letter : Char) : Option Bool :=
  let rec find : List Char → Option Bool
    | [] => none
    | c :: ':' :: rest => if c = letter then some true else find rest
    | c :: rest => if c = letter then some false else find rest
  if letter = ':' then none else find known.toList

/-- The options in a word after its sign, and the words after it. -/
def choicesIn (known : String) (sign : Char) : Text → List Text → Work (List Choice × List Text)
  | [], words => return ([], words)
  | letter :: rest, words => do
    match choiceKind known letter with
    | none =>
      Command.warn (sign :: letter :: ": invalid option".toList)
      misused
    | some false =>
      let (more, words) ← choicesIn known sign rest words
      return (⟨sign = '-', letter, []⟩ :: more, words)
    | some true =>
      if !rest.isEmpty then return ([⟨sign = '-', letter, rest⟩], words)
      else
        match words with
        | argument :: words => return ([⟨sign = '-', letter, argument⟩], words)
        | [] =>
          Command.warn (sign :: letter :: ": option requires an argument".toList)
          misused

/-- The options at the start of the words, and the words after them. -/
def choices (known : String) (plus : Bool) : (fuel : Nat) → List Text →
    Work (List Choice × List Text)
  | 0, words => return ([], words)
  | fuel + 1, words => do
    match words with
    | ['-', '-'] :: rest => return ([], rest)
    | (sign :: c :: letters) :: rest =>
      if sign = '-' || (plus && sign = '+') then
        let (found, rest) ← choicesIn known sign (c :: letters) rest
        let (more, rest) ← choices known plus fuel rest
        return (found ++ more, rest)
      else return ([], words)
    | words => return ([], words)

/-- The options of a builtin whose options have no arguments with a plus sign. -/
def options (known : String) (words : List Text) : Work (List Choice × List Text) :=
  choices known false (words.length + 1) words

/-- Whether an option has been given. -/
def has (found : List Choice) (letter : Char) : Bool := found.any (·.letter = letter)

/-- The argument of the last option with a letter. -/
def argument? (found : List Choice) (letter : Char) : Option Text :=
  (found.filter (·.letter = letter)).getLast?.map (·.argument)

/-- The words after the options of a builtin that has none. -/
def withoutOptions (words : List Text) : Work (List Text) := do return (← options "" words).2

/-- Whether a text is a whole number. -/
def integer? (text : Text) : Option Int := Number.integer? (some 10) text

/-- A text between the marks that messages quote with. -/
def marked (text : Text) : Text := Reader.marked text

def invalidName (text : Text) : Text := marked text ++ ": not a valid identifier".toList

end KDispatch.Shell.Extended.Builtin
