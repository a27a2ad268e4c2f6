import KDispatch.Ordered
import KDispatch.Shell.Number
import KDispatch.Shell.Syntax
import KDispatch.Text.Utf8

/-!
Variables of the extended shell: single values, lists with numbers, and tables with keys. Tables are gone
through in the order of the chains that their keys fall into. Values are shown in ways that the shell reads
again as the same values.
-/

namespace KDispatch.Shell.Extended.Quoting

/-- Whether a character shows on paper. -/
def isPrintable (c : Char) : Bool := 32 ≤ c.toNat && c.toNat < 127

/-- Whether a text has characters that do not show. -/
def hasControl (text : Text) : Bool := text.any (!isPrintable ·)

/-- The characters that have a meaning to the shell wherever they stand. -/
def isSpecial (c : Char) : Bool :=
  c.toNat = 0x60 || " \t\n'\"\\|&;()<>!\x7b\x7d*[?]^$".toList.contains c

/-- Whether a text has characters with a meaning to the shell. -/
def hasSpecial (text : Text) : Bool :=
  text.any isSpecial || text.head? = some '#' ||
    (text.zip (':' :: text)).any fun (c, before) => c = '~' && (before = ':' || before = '=')

/-- Between single quotes. -/
def single (text : Text) : Text :=
  if text = ['\''] then ['\\', '\'']
  else
    '\'' :: text.flatMap (fun c => if c = '\'' then "'\\''".toList else [c]) ++ ['\'']

/-- Between double quotes. -/
def double (text : Text) : Text :=
  '"' :: text.flatMap (fun c =>
    if c = '$' || c.toNat = 0x60 || c = '"' || c = '\\' then ['\\', c] else [c]) ++ ['"']

/-- The character that follows a backslash for a character that does not show. -/
def letter? (c : Char) : Option Char :=
  match c.toNat with
  | 7 => some 'a'
  | 8 => some 'b'
  | 9 => some 't'
  | 10 => some 'n'
  | 11 => some 'v'
  | 12 => some 'f'
  | 13 => some 'r'
  | 27 => some 'E'
  | _ => none

/-- Between single quotes after a dollar sign, where backslashes begin escapes. -/
def escaped (text : Text) : Text :=
  "$'".toList ++ text.flatMap (fun c =>
    match letter? c with
    | some letter => ['\\', letter]
    | none =>
      if c = '\\' || c = '\'' then ['\\', c]
      else if isPrintable c then [c]
      else '\\' :: [64, 8, 1].map fun n => Nat.digitChar (c.toNat / n % 8)) ++ ['\'']

/-- With backslashes before special characters. -/
def slashed (text : Text) : Text :=
  if text.isEmpty then ['\'', '\'']
  else if hasControl text then escaped text
  else
    match text with
    | [] => []
    | first :: rest =>
      let plain (c : Char) : Text :=
        if c.toNat = 0x60 || " \t!\"$&'()*,;<>?[\\]^\x7b|\x7d".toList.contains c then ['\\', c] else [c]
      (if first = '#' || first = '~' then ['\\', first] else plain first) ++ rest.flatMap plain

/-- As the value of a variable is shown that could be set again. -/
def reusable (text : Text) : Text :=
  if text.isEmpty then ['\'', '\'']
  else if hasControl text then escaped text
  else single text

/-- With as few quotes as possible. -/
def ifNeeded (text : Text) : Text :=
  if hasControl text then escaped text
  else if hasSpecial text then single text
  else text

/-- As a command that runs shows its words. -/
def traced (text : Text) : Text :=
  if text.isEmpty then ['\'', '\'']
  else if hasSpecial text then single text
  else if hasControl text then escaped text
  else text

/-- As a declaration shows a value. -/
def declared (text : Text) : Text := if hasControl text then escaped text else double text

/-- As a declaration shows the key of an element. -/
def key (text : Text) : Text :=
  if hasControl text then escaped text
  else if hasSpecial text || text = ['@'] || text = ['*'] then double text
  else text

end KDispatch.Shell.Extended.Quoting

/-!
Variables of the extended shell: single values, lists with numbers, and tables with keys. Tables are gone
through in the order of the chains that their keys fall into.
-/

namespace KDispatch.Shell.Extended

structure Attributes where
  exported : Bool
  readOnly : Bool
  /-- Values are arithmetic expressions. -/
  integer : Bool
  lower : Bool
  upper : Bool
  /-- The value is the name of another variable. -/
  reference : Bool
  traced : Bool
  deriving DecidableEq

def Attributes.none : Attributes := ⟨false, false, false, false, false, false, false⟩

/-- The values of a list or a table; `given` tells whether it has been set to something. -/
inductive Content where
  | single (value : Option Text)
  /-- In the order of the numbers. -/
  | indexed (given : Bool) (elements : List (Nat × Text))
  /-- From the first key that has been added on. -/
  | keyed (given : Bool) (elements : List (Text × Text))
  deriving DecidableEq

structure Variable where
  content : Content
  attributes : Attributes
  deriving DecidableEq

def Variable.unset : Variable := ⟨.single none, .none⟩

def Variable.ofText (value : Text) : Variable := ⟨.single (some value), .none⟩

/-- The place of an element. -/
inductive Key where
  | index (n : Nat)
  | name (text : Text)
  deriving DecidableEq

/-- The number by which tables sort a key into a chain. -/
def hashOf (key : Text) : UInt32 :=
  key.foldl (fun hash c =>
    let byte : UInt32 := UInt32.ofNat (if c.toNat < 128 then c.toNat else c.toNat + 4294967040)
    (hash * 16777619) ^^^ byte) 2166136261

/-- The number of chains of a table with a number of entries. -/
def chainCount : (fuel : Nat) → (chains entries : Nat) → Nat
  | 0, chains, _ => chains
  | fuel + 1, chains, entries =>
    if 2 * chains ≤ entries then chainCount fuel (4 * chains) entries else chains

/-- Entries in the order of their chains; in a chain the last one that was added comes first. -/
def inChainOrder {α : Type} (key : α → Text) (entries : List α) : List α :=
  let chains := chainCount 20 1024 entries.length
  (entries.reverse.map fun entry => ((hashOf (key entry)).toNat % chains, entry)).mergeSort
    (fun a b => a.1 ≤ b.1) |>.map (·.2)

namespace Content

/-- Puts an element of a list in its place. -/
def putIndex (index : Nat) (value : Text) : List (Nat × Text) → List (Nat × Text)
  | [] => [(index, value)]
  | (n, old) :: rest =>
    if n < index then (n, old) :: putIndex index value rest
    else if n = index then (index, value) :: rest
    else (index, value) :: (n, old) :: rest

/-- Puts an element into a table. -/
def putKey (key value : Text) : List (Text × Text) → List (Text × Text)
  | [] => [(key, value)]
  | (k, old) :: rest => if k = key then (k, value) :: rest else (k, old) :: putKey key value rest

def isList : Content → Bool
  | .indexed _ _ => true
  | _ => false

def isTable : Content → Bool
  | .keyed _ _ => true
  | _ => false

/-- The number after the last one of a list. -/
def nextIndex : Content → Nat
  | .indexed _ elements => (elements.getLast?.map fun e => e.1 + 1).getD 0
  | .single (some _) => 1
  | _ => 0

/-- The value of an element. -/
def get? (content : Content) (key : Key) : Option Text :=
  match content, key with
  | .single value, .index 0 => value
  | .single _, _ => none
  | .indexed _ elements, .index n => elements.lookup n
  | .indexed _ _, .name _ => none
  | .keyed _ elements, .name text => elements.lookup text
  | .keyed _ elements, .index n => elements.lookup (Number.decimal n)

/-- The value that stands for all of it. -/
def value? : Content → Option Text
  | .single value => value
  | .indexed _ elements => elements.lookup 0
  | .keyed _ elements => elements.lookup ['0']

/-- Sets an element; a single value becomes the first one of a list. -/
def put (content : Content) (key : Key) (value : Text) : Content :=
  match content, key with
  | .single old, .index n =>
    .indexed true (putIndex n value (match old with
      | some text => [(0, text)]
      | none => []))
  | .single _, .name _ => .single (some value)
  | .indexed _ elements, .index n => .indexed true (putIndex n value elements)
  | .indexed given elements, .name _ => .indexed given elements
  | .keyed _ elements, .name text => .keyed true (putKey text value elements)
  | .keyed _ elements, .index n => .keyed true (putKey (Number.decimal n) value elements)

/-- Sets the value that stands for all of it. -/
def putValue (content : Content) (value : Text) : Content :=
  match content with
  | .single _ => .single (some value)
  | .indexed _ elements => .indexed true (putIndex 0 value elements)
  | .keyed _ elements => .keyed true (putKey ['0'] value elements)

/-- Takes an element away. -/
def erase (content : Content) (key : Key) : Content :=
  match content, key with
  | .single _, .index 0 => .single none
  | .indexed given elements, .index n => .indexed given (elements.filter (·.1 ≠ n))
  | .keyed given elements, .name text => .keyed given (elements.filter (·.1 ≠ text))
  | content, _ => content

/-- The keys and values in the order in which they are gone through. -/
def entries : Content → List (Key × Text)
  | .single (some value) => [(.index 0, value)]
  | .single none => []
  | .indexed _ elements => elements.map fun (n, value) => (.index n, value)
  | .keyed _ elements => (inChainOrder (·.1) elements).map fun (k, value) => (.name k, value)

def values (content : Content) : List Text := content.entries.map (·.2)

/-- Whether anything has been set. -/
def isGiven : Content → Bool
  | .single value => value.isSome
  | .indexed given _ | .keyed given _ => given

end Content

def Key.text : Key → Text
  | .index n => Number.decimal n
  | .name text => text

namespace Variable

/-- The letters of the attributes, as declarations have them. -/
def letters (v : Variable) : Text :=
  let a := v.attributes
  let flags : List (Bool × Char) :=
    [(v.content.isList, 'a'), (v.content.isTable, 'A'), (a.integer, 'i'), (a.reference, 'n'),
      (a.readOnly, 'r'), (a.traced, 't'), (a.exported, 'x'), (a.lower, 'l'), (a.upper, 'u')]
  flags.filterMap fun (on, letter) => if on then some letter else none

/-- The elements as a declaration shows them. -/
def elementsText (content : Content) : Text :=
  let one (key value : Text) : Text := '[' :: key ++ "]=".toList ++ Quoting.declared value
  match content with
  | .keyed _ _ =>
    '(' :: content.entries.flatMap (fun (k, value) => one (Quoting.key k.text) value ++ [' ']) ++ [')']
  | _ =>
    '(' :: [' '].intercalate (content.entries.map fun (k, value) => one k.text value) ++ [')']

/-- A declaration that makes the variable again. -/
def declaration (name : String) (v : Variable) : Text :=
  let letters := v.letters
  let start := "declare -".toList ++ (if letters.isEmpty then ['-'] else letters) ++ ' ' :: name.toList
  match v.content with
  | .single (some value) => start ++ '=' :: Quoting.declared value
  | .single none => start
  | content => if content.isGiven then start ++ '=' :: elementsText content else start

/-- An assignment that sets the variable again. -/
def assignment (name : String) (v : Variable) : Option Text :=
  match v.content with
  | .single (some value) => some (name.toList ++ '=' :: Quoting.ifNeeded value)
  | .single none => none
  | content =>
    if content.isGiven then some (name.toList ++ '=' :: elementsText content) else none

/-- A value as the attributes change it. -/
def recased (a : Attributes) (value : Text) : Text :=
  if a.lower then value.map Char.toLower else if a.upper then value.map Char.toUpper else value

end Variable

end KDispatch.Shell.Extended
