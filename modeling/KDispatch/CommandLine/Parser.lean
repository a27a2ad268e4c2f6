import KDispatch.CommandLine.Basic

/-!
Reading a command line. Options and the command word may stand in any order; the first word after the
command ends the options, and it and everything after it is passed on to the tool. `--` ends the
options earlier.

An option without an attached value takes the next word that is not an option. A value is checked
when the word or option after it is reached, or at the end.
-/

namespace KDispatch

inductive UsageError where
  | invalidValue
  | unknownArgument
  | missingArgument
  | repeatedArgument
  /-- A value is attached to an option that takes none. -/
  | unexpectedValue
  /-- Help was asked for. -/
  | help
  deriving DecidableEq

/-- Asking for help is not a failure. -/
def UsageError.exitCode : UsageError → Nat
  | .help => 0
  | _ => 2

inductive OptionName where
  | definition
  | input
  | output
  | inputFormat
  | outputFormat
  | coverageFile
  | release
  deriving DecidableEq

namespace OptionName

def long : OptionName → String
  | .definition => "definition"
  | .input => "input"
  | .output => "output"
  | .inputFormat => "from"
  | .outputFormat => "to"
  | .coverageFile => "coverage-file"
  | .release => "k-release"

def short? : OptionName → Option Char
  | .definition => some 'd'
  | .input => some 'i'
  | .output => some 'o'
  | .inputFormat => some 'f'
  | .outputFormat => some 't'
  | .coverageFile => none
  | .release => none

def all : List OptionName :=
  [.definition, .input, .output, .inputFormat, .outputFormat, .coverageFile, .release]

/-- Formats have to be known, and paths not to be empty. -/
def accepts (option : OptionName) (value : String) : Bool :=
  match option with
  | .input | .output => true
  | .inputFormat | .outputFormat => (TermFormat.ofName? value).isSome
  | .definition | .coverageFile | .release => value ≠ ""

end OptionName

/-- What a word that starts with a hyphen stands for. -/
inductive Flag where
  | option (name : OptionName) (value : Option String)
  | help
  /-- Help with a value attached to it. -/
  | helpWithValue
  | endOfOptions
  | unknown
  deriving DecidableEq

namespace Flag

/-- The flag of a long name, with a value if one is attached. -/
def ofLong (name : String) (value : Option String) : Flag :=
  match OptionName.all.find? (·.long = name) with
  | some o => .option o value
  | none =>
    if name = "help" then (if value.isSome then .helpWithValue else .help) else .unknown

/-- The value attached to a short name: all that follows, without an equals sign before it. -/
def attached? : Text → Option String
  | [] => none
  | '=' :: value => some (String.ofList value)
  | value => some (String.ofList value)

/-- The flag of a short name and the characters that follow it. -/
def ofShort (name : Char) (rest : Text) : Flag :=
  match OptionName.all.find? (·.short? = some name) with
  | some o => .option o (attached? rest)
  | none => if name = 'h' then .help else .unknown

/-- The value after the first equals sign. -/
def valueAfterEquals? (text : Text) : Option String :=
  match text.dropWhile (· ≠ '=') with
  | [] => none
  | _ :: value => some (String.ofList value)

/-- The flag that a word is; a word that does not start with a hyphen and a hyphen alone are none. -/
def ofWord? (word : String) : Option Flag :=
  match word.toList with
  | ['-', '-'] => some .endOfOptions
  | '-' :: '-' :: rest =>
    some (ofLong (String.ofList (rest.takeWhile (· ≠ '='))) (valueAfterEquals? rest))
  | '-' :: name :: rest => some (ofShort name rest)
  | _ => none

end Flag

/-- What has been reached but not checked yet. -/
inductive Pending where
  | nothing
  | option (name : OptionName) (value : Option String)
  | command (word : String)
  deriving DecidableEq

/-- What has been read of a command line. -/
structure Reading where
  command : Option Command
  options : List (OptionName × String)
  pending : Pending
  toolArguments : List String

namespace Reading

def empty : Reading := ⟨none, [], .nothing, []⟩

/-- Gives an option its value, once. -/
def assign (reading : Reading) (name : OptionName) (value : String) :
    Except UsageError Reading :=
  if (reading.options.lookup name).isSome then .error .repeatedArgument
  else if name.accepts value then
    .ok { reading with options := reading.options ++ [(name, value)], pending := .nothing }
  else .error .invalidValue

/-- Checks what is pending. -/
def settle (reading : Reading) : Except UsageError Reading :=
  match reading.pending with
  | .nothing => .ok reading
  | .option _ none => .error .invalidValue
  | .option name (some value) => reading.assign name value
  | .command word =>
    match Command.ofName? word with
    | some command => .ok { reading with command := some command, pending := .nothing }
    | none => .error .invalidValue

/-- Whether a command word has been read already. -/
def hasCommand (reading : Reading) : Bool :=
  reading.command.isSome ||
    match reading.pending with
    | .command _ => true
    | _ => false

/-- Takes an option; a value attached to it is checked at once. -/
def takeOption (reading : Reading) (name : OptionName) (value : Option String) :
    Except UsageError Reading :=
  match reading.settle with
  | .error e => .error e
  | .ok reading =>
    match value with
    | some value => reading.assign name value
    | none => .ok { reading with pending := .option name none }

/-- Takes a word that is no option, which `rest` follows; the flag tells whether reading goes on. -/
def takeWord (reading : Reading) (word : String) (rest : List String) :
    Except UsageError (Reading × Bool) :=
  match reading.settle with
  | .error e => .error e
  | .ok settled =>
    if settled.hasCommand then .ok ({ settled with toolArguments := word :: rest }, false)
    else .ok ({ settled with pending := .command word }, true)

/-- Reads words; `plain` tells whether the options have ended. -/
def readWords (plain : Bool) (reading : Reading) : List String → Except UsageError Reading
  | [] => reading.settle
  | word :: rest =>
    match if plain then none else Flag.ofWord? word with
    | some .endOfOptions => readWords true reading rest
    | some .unknown => .error .unknownArgument
    | some .helpWithValue => .error .unexpectedValue
    | some .help =>
      match reading.settle with
      | .error e => .error e
      | .ok _ => .error .help
    | some (.option name value) =>
      match reading.takeOption name value with
      | .error e => .error e
      | .ok reading => readWords plain reading rest
    | none =>
      match plain, reading.pending with
      | false, .option name none =>
        readWords plain { reading with pending := .option name (some word) } rest
      | _, _ =>
        match reading.takeWord word rest with
        | .error e => .error e
        | .ok (reading, true) => readWords plain reading rest
        | .ok (reading, false) => .ok reading

/-- The release from the environment, unless an option gives one. -/
def withRelease (reading : Reading) (environment : Option String) : Except UsageError Reading :=
  match environment, reading.options.lookup .release with
  | some value, none => reading.assign .release value
  | _, _ => .ok reading

def formatOf (reading : Reading) (name : OptionName) : TermFormat :=
  ((reading.options.lookup name).bind TermFormat.ofName?).getD .pretty

def placeOf (reading : Reading) (name : OptionName) : Place :=
  ((reading.options.lookup name).map Place.ofString).getD .standard

/-- The request, if the command is there and has the coverage file it may need. -/
def request (reading : Reading) : Except UsageError Request :=
  match reading.command with
  | none => .error .missingArgument
  | some command =>
    let coverageFile := reading.options.lookup .coverageFile
    if command = .coverageLog ∧ coverageFile = none then .error .missingArgument
    else
      .ok {
        command
        definition := reading.options.lookup .definition
        input := reading.placeOf .input
        output := reading.placeOf .output
        inputFormat := reading.formatOf .inputFormat
        outputFormat := reading.formatOf .outputFormat
        coverageFile
        release := reading.options.lookup .release
        toolArguments := reading.toolArguments }

end Reading

/-- The environment variable that names a release. -/
def releaseVariable : String := "K_RELEASE"

/-- The request of a command line, with the value of the release variable if it is set. -/
def Request.ofWords (release : Option String) (words : List String) : Except UsageError Request :=
  match Reading.empty.readWords false words with
  | .error e => .error e
  | .ok reading =>
    match reading.withRelease release with
    | .error e => .error e
    | .ok reading => reading.request

end KDispatch
