import KDispatch.Shell.Pattern
import KDispatch.Shell.Printf
import KDispatch.Shell.Utility.Basic

/-! Utilities that replace characters. -/

/-! ## Sets of characters

Replacing and deleting characters. The two sets are lists of characters, written with ranges, classes
and repetitions; the second is made as long as the first by repeating its last character.
-/

namespace KDispatch.Shell.Utility

namespace CharSet

/-- A part of a set. -/
inductive Item where
  | char (c : Char)
  | range (first last : Char)
  | kind (name : String)
  /-- Repeated so many times, or as often as needed for none. -/
  | repeated (c : Char) (count : Nat)

/-- A character, which may be written as an escape, and the text after it. -/
def unescaped : Text → Option (Char × Text)
  | [] => none
  | '\\' :: rest =>
    match rest with
    | [] => some ('\\', [])
    | c :: after =>
      match Escape.ofLetter? c with
      | some d => if c = 'e' then some (c, after) else some (d, after)
      | none => if '0' ≤ c ∧ c ≤ '7' then some (Escape.octal 3 rest) else some (c, after)
  | c :: rest => some (c, rest)

/-- What stands in a text before a sign with a closing bracket behind it, and the text after them. -/
def upTo? (sign : Char) : Text → Option (Text × Text)
  | c :: d :: rest =>
    if c = sign && d = ']' then some ([], rest)
    else (upTo? sign (d :: rest)).map fun (inside, after) => (c :: inside, after)
  | _ => none

/-- The class of the given name. -/
def kind (name : Text) : Except Text Item :=
  if name.isEmpty then .error "missing character class name '[::]'".toList
  else if Pattern.kindNames.contains (String.ofList name) then .ok (.kind (String.ofList name))
  else .error ("invalid character class ".toList ++ cited name)

/-- The characters that count as the same as the given one, which is only the character itself. -/
def equivalent : Text → Except Text Item
  | [] => .error "missing equivalence class character '[==]'".toList
  | [c] => .ok (.char c)
  | name => .error (name ++ ": equivalence class operand must be a single character".toList)

/-- The repetition of a character, given what stands between the asterisk and the closing bracket. -/
def repetition (c : Char) (count : Text) : Except Text Item :=
  let base := if count.head? = some '0' then 8 else 10
  match Number.digits base count 0 0 with
  | (n, _, []) => .ok (.repeated c n)
  | _ => .error ("invalid repeat count ".toList ++ cited count ++ " in [c*n] construct".toList)

/-- A bracket expression at the start of a text. -/
def bracketed? (text : Text) : Option (Except Text Item × Text) :=
  match text with
  | '[' :: ':' :: rest => (upTo? ':' rest).map fun (name, after) => (kind name, after)
  | '[' :: '=' :: rest => (upTo? '=' rest).map fun (name, after) => (equivalent name, after)
  | '[' :: rest =>
    match unescaped rest with
    | some (c, '*' :: after) =>
      let count := after.takeWhile (· ≠ ']')
      match after.drop count.length with
      | ']' :: last => some (repetition c count, last)
      | _ => none
    | _ => none
  | _ => none

/-- The parts of a set. -/
def items : (fuel : Nat) → Text → Except Text (List Item)
  | 0, _ => .ok []
  | fuel + 1, text =>
    match bracketed? text with
    | some (item, rest) => do return (← item) :: (← items fuel rest)
    | none =>
      match unescaped text with
      | none => .ok []
      | some (first, '-' :: rest) =>
        match rest with
        | [] => .ok [.char first, .char '-']
        | _ =>
          match unescaped rest with
          | some (last, after) => do return .range first last :: (← items fuel after)
          | none => .ok [.char first]
      | some (c, rest) => do return .char c :: (← items fuel rest)

def allBytes : Text := (List.range 256).map Char.ofNat

/-- The characters of a part; `length` is how many characters the whole set should have. -/
def Item.chars : Item → (missing : Nat) → Text
  | .char c, _ => [c]
  | .range first last, _ =>
    (List.range (last.toNat + 1 - first.toNat)).map fun n => Char.ofNat (first.toNat + n)
  | .kind name, _ => allBytes.filter (Pattern.isOfKind name)
  | .repeated c 0, missing => List.replicate missing c
  | .repeated c count, _ => List.replicate count c

/-- The characters of a set that should have `length` of them. -/
def chars (length : Nat) (set : List Item) : Text :=
  let fixed := (set.flatMap (Item.chars · 0)).length
  set.flatMap (Item.chars · (length - fixed))

/-- Whether a range is written the wrong way round. -/
def wrongRange? (set : List Item) : Option (Char × Char) :=
  set.findSome? fun
    | .range first last => if last < first then some (first, last) else none
    | _ => none

end CharSet

/-- Whether a part is the class of the upper or of the lower letters. -/
def isCase : CharSet.Item → Bool
  | .kind name => name = "upper" || name = "lower"
  | _ => false

def isOtherKind (item : CharSet.Item) : Bool :=
  match item with
  | .kind _ => !isCase item
  | _ => false

/-- The places of the classes of letters among the characters of a set. -/
def casePlaces : List CharSet.Item → (place : Nat) → List Nat
  | [], _ => []
  | item :: items, place =>
    let rest := casePlaces items (place + (item.chars 0).length)
    if isCase item then place :: rest else rest

/-- What is wrong with two sets of which one replaces the other. -/
def wrongSets? (first second : List CharSet.Item) : Option String :=
  let isOpen : CharSet.Item → Bool
    | .repeated _ 0 => true
    | _ => false
  if first.any isOpen then some "the [c*] repeat construct may not appear in string1"
  else if second.any isOtherKind then
    some ("when translating, the only character classes that may appear in\n" ++
      "string2 are 'upper' and 'lower'")
  else if (casePlaces second 0).any fun place => !(casePlaces first 0).contains place then
    some "misaligned [:upper:] and/or [:lower:] construct"
  else none

/-- Keeps one of neighbours that are the same and in the set. -/
def squeeze (set : Text) : Text → (last : Option Char) → Text
  | [], _ => []
  | c :: rest, last =>
    if last = some c && set.contains c then squeeze set rest last else c :: squeeze set rest (some c)

def tr : Utility := fun name words => do
  let known : List Flag :=
    [⟨'c', "complement", false⟩, ⟨'C', "", false⟩, ⟨'d', "delete", false⟩,
      ⟨'s', "squeeze-repeats", false⟩, ⟨'t', "truncate-set1", false⟩]
  let found ← match scan known false (words.length + 1) words with
    | .ok found => pure found
    | .error message => usage name message.toList 1
  let deletes := found.has 'd'
  let squeezes := found.has 's'
  let sets := found.operands
  let missing (text : Text) (last : String) : Task Unit := do
    complain name ("missing operand".toList ++ (if text.isEmpty then [] else " after ".toList ++ cited text))
    if last ≠ "" then
      let _ ← Task.write 2 (last ++ "\n").toList
    let _ ← Task.write 2 ("Try '".toList ++ name ++ " --help' for more information.\n".toList)
    Task.exit 1
  match sets with
  | [] => missing [] ""
  | [first] =>
    if deletes && squeezes then
      missing first "Two strings must be given when both deleting and squeezing repeats."
    else if !deletes && !squeezes then missing first "Two strings must be given when translating."
  | first :: second :: more =>
    let extra := if deletes && !squeezes then some second else more.head?
    match extra with
    | some operand =>
      complain name ("extra operand ".toList ++ cited operand)
      if deletes && !squeezes && more.isEmpty then
        let _ ← Task.write 2
          "Only one string may be given when deleting without squeezing repeats.\n".toList
      let _ ← Task.write 2 ("Try '".toList ++ name ++ " --help' for more information.\n".toList)
      Task.exit 1
    | none =>
      if second.isEmpty && !deletes && !first.isEmpty then
        complain name "when not truncating set1, string2 must be non-empty".toList
        Task.exit 1
  let itemsOf (text : Text) : Task (List CharSet.Item) := do
    match CharSet.items (text.length + 1) text with
    | .ok items => return items
    | .error message =>
      complain name message
      Task.exit 1
  let first ← itemsOf (sets.headD [])
  let second ← itemsOf (sets.getD 1 [])
  match CharSet.wrongRange? (first ++ second) with
  | some (a, b) =>
    complain name
      ("range-endpoints of '".toList ++ a :: '-' :: b ::
        "' are in reverse collating sequence order".toList)
    Task.exit 1
  | none => pure ()
  match wrongSets? first (if deletes then [] else second) with
  | some message =>
    complain name message.toList
    Task.exit 1
  | none => pure ()
  let plain := CharSet.chars 0 first
  let complements := found.has 'c' || found.has 'C'
  let source := if complements then CharSet.allBytes.filter (!plain.contains ·) else plain
  match ← Task.readAll 0 with
  | .error e =>
    complain name ("read error: ".toList ++ e.reason.toList)
    return 1
  | .ok text =>
    if deletes then
      let kept := text.filter (!source.contains ·)
      emit name (if squeezes then squeeze (CharSet.chars 0 second) kept none else kept)
    else if sets.length = 1 then emit name (squeeze source text none)
    else
      let target := CharSet.chars source.length second
      let pairs := if found.has 't' then source.zip target else pad source target
      let reversed := pairs.reverse
      let translated := text.map fun c => (reversed.lookup c).getD c
      emit name (if squeezes then squeeze target translated none else translated)
    return 0
where
  pad (source target : Text) : List (Char × Char) :=
    match target.getLast? with
    | some last => source.zip (target ++ List.replicate (source.length - target.length) last)
    | none => []

/-! ## Letters and digits for bytes

Bytes written in letters and digits: each stands for some bits of the bytes, and equals signs fill up the
last group.
-/

/-- A way to write bytes in letters and digits. -/
structure Alphabet where
  letters : Text
  /-- How many bits a letter stands for. -/
  bits : Nat
  /-- How many letters make a group. -/
  group : Nat

namespace Alphabet

def base64 : Alphabet :=
  ⟨"ABCDEFGHIJKLMNOPQRSTUVWXYZabcdefghijklmnopqrstuvwxyz0123456789+/".toList, 6, 4⟩

def base32 : Alphabet := ⟨"ABCDEFGHIJKLMNOPQRSTUVWXYZ234567".toList, 5, 8⟩

/-- How many bytes a group holds. -/
def size (a : Alphabet) : Nat := a.bits * a.group / 8

/-- The letters for the bytes of one group. -/
def groupOf (a : Alphabet) (bytes : Text) : Text :=
  let value := bytes.foldl (fun n c => n * 256 + c.toNat) 0 * Nat.pow 256 (a.size - bytes.length)
  let used := (8 * bytes.length + a.bits - 1) / a.bits
  (List.range a.group).map fun i =>
    if used ≤ i then '='
    else a.letters.getD (value / Nat.pow 2 (a.bits * (a.group - 1 - i)) % Nat.pow 2 a.bits) '='

/-- Bytes in letters. -/
def encode (a : Alphabet) : (fuel : Nat) → Text → Text
  | 0, _ => []
  | _ + 1, [] => []
  | fuel + 1, bytes => a.groupOf (bytes.take a.size) ++ encode a fuel (bytes.drop a.size)

/-- The value of a letter. -/
def value? (a : Alphabet) (c : Char) : Option Nat := a.letters.findIdx? (· = c)

/-- The bytes of one group of letters, and whether the group is complete. -/
def bytesOf (a : Alphabet) (letters : Text) : Text × Bool :=
  let values := (letters.takeWhile fun c => (a.value? c).isSome).filterMap a.value?
  let count := values.length * a.bits / 8
  let value := (values.foldl (fun n v => n * Nat.pow 2 a.bits + v) 0) *
    Nat.pow 2 (a.bits * (a.group - values.length))
  let bytes := (List.range count).map fun i =>
    Char.ofNat (value * 2 / Nat.pow 2 (a.bits * a.group + 1 - 8 * (i + 1)) % 256)
  let isFull := letters.length = a.group && (letters.drop values.length).all (· = '=')
  let fits := 0 < count && (8 * count + a.bits - 1) / a.bits = values.length
  (bytes, isFull && fits)

/-- The bytes that letters stand for, and whether all groups are complete. -/
def decode (a : Alphabet) : (fuel : Nat) → Text → Text × Bool
  | 0, _ => ([], true)
  | _ + 1, [] => ([], true)
  | fuel + 1, letters =>
    match a.bytesOf (letters.take a.group) with
    | (bytes, false) => (bytes, false)
    | (bytes, true) =>
      let (more, complete) := decode a fuel (letters.drop a.group)
      (bytes ++ more, complete)

end Alphabet

/-- A text in lines of a width; nothing is broken if the width is zero. -/
def wrapped (width : Nat) : (fuel : Nat) → Text → Text
  | 0, text => text
  | _ + 1, [] => []
  | fuel + 1, text =>
    if width = 0 then text else text.take width ++ '\n' :: wrapped width fuel (text.drop width)

/-- Writes bytes in letters, or reads them again. -/
def coding (alphabet : Alphabet) : Utility := fun name words => do
  let known : List Flag :=
    [⟨'d', "decode", false⟩, ⟨'i', "ignore-garbage", false⟩, ⟨'w', "wrap", true⟩]
  let found ← parse name known 1 words
  let width ← match found.last? 'w' with
    | none => pure 76
    | some text =>
      match Number.integer? (some 10) text with
      | some n =>
        if 0 ≤ n then pure n.toNat
        else
          complain name ("invalid wrap size: ".toList ++ cited text)
          Task.exit 1
      | none =>
        complain name ("invalid wrap size: ".toList ++ cited text)
        Task.exit 1
  if let _ :: extra :: _ := found.operands then usage name ("extra operand ".toList ++ cited extra) 1
  let file := found.operands.headD ['-']
  match ← content file with
  | .error .isADirectory =>
    complain name ("read error: ".toList ++ SystemError.isADirectory.reason.toList)
    return 1
  | .error e =>
    complainOf name [] file e
    return 1
  | .ok text =>
    if found.has 'd' then
      let isKept (c : Char) : Bool :=
        if found.has 'i' then c = '=' || (alphabet.value? c).isSome else c ≠ '\n'
      let letters := text.filter isKept
      let (bytes, complete) := alphabet.decode (letters.length + 1) letters
      emit name bytes
      if complete then return 0
      complain name "invalid input".toList
      return 1
    else
      emit name (wrapped width (2 * text.length + 2) (alphabet.encode (text.length + 1) text))
      return 0

end KDispatch.Shell.Utility
