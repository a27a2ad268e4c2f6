import KDispatch.FileSystem.Access
import KDispatch.FileSystem.Basic
import KDispatch.Ordered
import KDispatch.Shell.Number
import KDispatch.Text.Utf8

/-!
Conditions on texts, numbers and files, as lists of words. Conditions of up to four words are told apart
by their number, and longer ones are read with operators of different ranks.
-/

namespace KDispatch.Shell.Condition

/-- What operators do to conditions and values. -/
inductive Sign where
  | unary (name : String)
  | binary (name : String)
  | not
  | and
  | or
  | opening
  | closing
  deriving DecidableEq

def unaryNames : List String :=
  ["-r", "-w", "-x", "-e", "-f", "-d", "-c", "-b", "-p", "-u", "-g", "-k", "-s", "-t", "-z", "-n",
    "-h", "-O", "-G", "-L", "-S"]

def binaryNames : List String :=
  ["=", "!=", "<", ">", "-eq", "-ne", "-ge", "-gt", "-le", "-lt", "-nt", "-ot", "-ef"]

def Sign.ofWord? (word : Text) : Option Sign :=
  let name := String.ofList word
  if unaryNames.contains name then some (.unary name)
  else if binaryNames.contains name then some (.binary name)
  else
    match name with
    | "!" => some .not
    | "-a" => some .and
    | "-o" => some .or
    | "(" => some .opening
    | ")" => some .closing
    | _ => none

def Sign.isBinary : Option Sign → Bool
  | some (.binary _) => true
  | _ => false

/-- What the next word is. -/
inductive Token where
  | finish
  | sign (sign : Sign)
  | operand

/-- The token at the start of the words. An operator where only an operand can stand is one. -/
def token : List Text → Token
  | [] => .finish
  | word :: rest =>
    match Sign.ofWord? word with
    | none => .operand
    | some (.unary name) =>
      match rest with
      | [] => .operand
      | [_] => .sign (.unary name)
      | next :: _ => if Sign.isBinary (Sign.ofWord? next) then .operand else .sign (.unary name)
    | some .opening => if rest.isEmpty then .operand else .sign .opening
    | some sign => .sign sign

/-- What a file is asked for. -/
structure Facts where
  files : FileSystem
  /-- Whether a missing file is older than any other one. -/
  missingIsOldest : Bool

namespace Facts

def location? (facts : Facts) (path : Text) : Option Location :=
  (facts.files.openToRead (ByteText.toString (String.ofList path))).toOption

def node? (facts : Facts) (path : Text) : Option Node :=
  (facts.location? path).bind facts.files.node?

/-- When what stands at a path was changed last. -/
def time? (facts : Facts) (path : Text) : Option Int := (facts.location? path).map facts.files.timeOf

/-- The rights of what stands at a path. -/
def mode (facts : Facts) (path : Text) : Nat := ((facts.location? path).map facts.files.modeOf).getD 0

/-- Whether a path names a symbolic link. -/
def isLink (facts : Facts) (path : Text) : Bool :=
  match facts.files.locateEntry (ByteText.toString (String.ofList path)) with
  | .ok location =>
    match facts.files.node? location with
    | some (.link _) => true
    | _ => false
  | .error _ => false

/-- Whether a file has what an operator asks for. -/
def holds (facts : Facts) (name : String) (path : Text) : Bool :=
  if name = "-L" || name = "-h" then facts.isLink path
  else
    match facts.node? path, name with
    | none, _ => false
    | some _, "-e" | some _, "-r" | some _, "-w" | some _, "-O" | some _, "-G" => true
    | some (.file _ executable), "-x" => executable
    | some .directory, "-x" => true
    | some (.file _ _), "-f" | some (.device (.report _)), "-f" => true
    | some .directory, "-d" => true
    | some (.file content _), "-s" => !content.isEmpty
    | some .directory, "-s" => true
    | some (.device (.report _)), "-c" => false
    | some (.device _), "-c" => true
    | some .fifo, "-p" => true
    | some _, "-u" => facts.mode path &&& 0o4000 ≠ 0
    | some _, "-g" => facts.mode path &&& 0o2000 ≠ 0
    | some _, "-k" => facts.mode path &&& 0o1000 ≠ 0
    | some _, _ => false

/-- Whether two paths lead to the same file. -/
def areSame (facts : Facts) (a b : Text) : Bool :=
  match facts.location? a, facts.location? b with
  | some x, some y => (facts.files.namesOf x).contains y
  | _, _ => false

/-- Whether the file at the first path is newer than the one at the second. -/
def isNewer (facts : Facts) (a b : Text) : Bool :=
  match facts.time? a, facts.time? b with
  | some x, some y => y < x
  | some _, none => facts.missingIsOldest
  | none, _ => false

end Facts

/-- A number in a condition. -/
def number (text : Text) : Except Text Int :=
  match Number.integer? (some 10) text with
  | some n => .ok n
  | none => .error ("Illegal number: ".toList ++ text)

def compare (facts : Facts) (name : String) (a b : Text) : Except Text Bool := do
  match name with
  | "=" => return a = b
  | "!=" => return a ≠ b
  | "<" => return Ordered.precedes a b
  | ">" => return Ordered.precedes b a
  | "-eq" => return (← number a) = (← number b)
  | "-ne" => return (← number a) ≠ (← number b)
  | "-ge" => return (← number a) ≥ (← number b)
  | "-gt" => return (← number a) > (← number b)
  | "-le" => return (← number a) ≤ (← number b)
  | "-lt" => return (← number a) < (← number b)
  | "-ef" => return facts.areSame a b
  | "-nt" => return facts.isNewer a b
  | "-ot" => return facts.isNewer b a
  | _ => return false

/-- What is said about an operator. -/
def complaint {α : Type} (operator message : Text) : Except Text α :=
  .error (if operator.isEmpty then message else operator ++ ": ".toList ++ message)

mutual

/-- Conditions with `-o` between them; the words that are left begin with the last one used. -/
def anyOf (facts : Facts) : (fuel : Nat) → Token → List Text → Except Text (Bool × List Text)
  | 0, _, words => .ok (false, words)
  | fuel + 1, first, words => do
    let (a, words) ← allOf facts fuel first words
    match token (words.drop 1) with
    | .sign .or =>
      let words := words.drop 2
      let (b, words) ← anyOf facts fuel (token words) words
      return (a || b, words)
    | _ => return (a, words)

/-- Conditions with `-a` between them. -/
def allOf (facts : Facts) : (fuel : Nat) → Token → List Text → Except Text (Bool × List Text)
  | 0, _, words => .ok (false, words)
  | fuel + 1, first, words => do
    let (a, words) ← negated facts fuel first words
    match token (words.drop 1) with
    | .sign .and =>
      let words := words.drop 2
      let (b, words) ← allOf facts fuel (token words) words
      return (a && b, words)
    | _ => return (a, words)

def negated (facts : Facts) : (fuel : Nat) → Token → List Text → Except Text (Bool × List Text)
  | 0, _, words => .ok (false, words)
  | fuel + 1, .sign .not, words => do
    let next := token (words.drop 1)
    let words := match next with
      | .finish => words
      | _ => words.drop 1
    let (a, words) ← negated facts fuel next words
    return (!a, words)
  | fuel + 1, first, words => simple facts fuel first words

/-- A condition without operators between conditions. -/
def simple (facts : Facts) : (fuel : Nat) → Token → List Text → Except Text (Bool × List Text)
  | 0, _, words => .ok (false, words)
  | _ + 1, .finish, words => .ok (false, words)
  | fuel + 1, .sign .opening, words => do
    let words := words.drop 1
    match token words with
    | .sign .closing => return (false, words)
    | first =>
      let (a, words) ← anyOf facts fuel first words
      let words := words.drop 1
      match token words with
      | .sign .closing => return (a, words)
      | _ => complaint [] "closing paren expected".toList
  | _ + 1, .sign (.unary name), words => do
    match words.drop 1 with
    | [] => complaint name.toList "argument expected".toList
    | operand :: rest =>
      let words := operand :: rest
      match name with
      | "-z" => return (operand.isEmpty, words)
      | "-n" => return (!operand.isEmpty, words)
      | "-t" =>
        let _ ← number operand
        return (false, words)
      | _ => return (facts.holds name operand, words)
  | _ + 1, _, words => do
    match token (words.drop 1) with
    | .sign (.binary name) =>
      match words.drop 2 with
      | [] => complaint name.toList "argument expected".toList
      | b :: rest => return (← compare facts name (words.headD []) b, b :: rest)
    | _ => return (!(words.headD []).isEmpty, words)

end

/-- The value of a condition in which every word has to be used. -/
def whole (facts : Facts) (first : Token) (words : List Text) : Except Text Bool := do
  let (value, left) ← anyOf facts (8 * words.length + 8) first words
  match left with
  | used :: _ :: _ => complaint used "unexpected operator".toList
  | _ => return value

/-- The value of a condition. -/
def evaluate (facts : Facts) : List Text → Except Text Bool
  | [] => .ok false
  | words@(first :: rest) =>
    let binary := words.length = 3 && Sign.isBinary (rest.head?.bind Sign.ofWord?)
    if binary then whole facts .operand words
    else if words.length = 3 || words.length = 4 then
      if first = ['('] && words.getLast? = some [')'] then
        let inner := rest.dropLast
        whole facts (token inner) inner
      else if first = ['!'] then (evaluate facts rest).map (!·)
      else whole facts (token words) words
    else whole facts (token words) words

end KDispatch.Shell.Condition
