import KDispatch.Shell.Utility.Basic
import KDispatch.Shell.Utility.Fields

/-! Utilities that compare and sort. -/

/-! ## Comparing

Utilities that compare files byte by byte, or sorted files line by line.
-/

namespace KDispatch.Shell.Utility

/-- A byte as it is told next to its octal digits. -/
def shownByte (c : Char) : Text :=
  let n := c.toNat
  let high := if n < 128 then [] else "M-".toList
  let n := n % 128
  high ++ (if n < 32 then ['^', Char.ofNat (n + 64)] else if n = 127 then ['^', '?'] else [Char.ofNat n])

/-- Compares two files byte by byte. -/
def cmp : Utility := fun name words => do
  let known : List Flag :=
    [⟨'s', "silent", false⟩, ⟨'s', "quiet", false⟩, ⟨'l', "verbose", false⟩, ⟨'b', "print-bytes", false⟩,
      ⟨'n', "bytes", true⟩, ⟨'i', "ignore-initial", true⟩]
  let found ← parse name known 2 words
  let quiet := found.has 's'
  match found.operands with
  | [] =>
    complain name "missing operand after 'cmp'".toList
    complain name ("Try '".toList ++ name ++ " --help' for more information.".toList)
    return 2
  | first :: rest =>
    let second := rest.headD ['-']
    let count (text : Text) : Nat := (Number.digits 10 text 0 0).1
    let skips : Nat × Nat :=
      match (found.last? 'i').map (·.splitOn ':') with
      | some [a] => (count a, count a)
      | some (a :: b :: _) => (count a, count b)
      | _ => match rest.drop 1 with
        | [a] => (count a, 0)
        | a :: b :: _ => (count a, count b)
        | [] => (0, 0)
    let cut (text : Text) : Text := match found.last? 'n' with
      | some n => text.take (count n)
      | none => text
    match ← content first, ← content second with
    | .error e, _ =>
      if !quiet then complain name (first ++ ": ".toList ++ e.reason.toList)
      return 2
    | _, .error e =>
      if !quiet then complain name (second ++ ": ".toList ++ e.reason.toList)
      return 2
    | .ok a, .ok b =>
      let a := cut (a.drop skips.1)
      let b := cut (b.drop skips.2)
      if a = b then return 0
      else
        let same := ((a.zip b).takeWhile fun (x, y) => x = y).length
        let octal (c : Char) : Text := padLeft 3 (Nat.toDigits 8 c.toNat)
        if found.has 'l' then
          let width := (decimal (max a.length b.length)).length
          for ((x, y), n) in (a.zip b).zipIdx do
            if x ≠ y then
              if found.has 'b' then
                let left := shownByte x
                emit name (padLeft width (decimal (n + 1)) ++ ' ' :: octal x ++ ' ' ::
                  left ++ List.replicate (4 - left.length) ' ' ++ ' ' :: octal y ++ ' ' :: shownByte y ++
                  ['\n'])
              else
                emit name (padLeft width (decimal (n + 1)) ++ ' ' :: octal x ++ ' ' :: octal y ++ ['\n'])
        else if !quiet && same < min a.length b.length then
          let line := (a.take same).count '\n' + 1
          let bytes := match found.has 'b', a[same]?, b[same]? with
            | true, some x, some y =>
              " is ".toList ++ octal x ++ ' ' :: shownByte x ++ ' ' :: octal y ++ ' ' :: shownByte y
            | _, _, _ => []
          emit name (first ++ ' ' :: second ++
            (if found.has 'b' then " differ: byte " else " differ: char ").toList ++
            decimal (same + 1) ++ ", line ".toList ++ decimal line ++ bytes ++ ['\n'])
        if !quiet && (found.has 'l' && a.length ≠ b.length || same = min a.length b.length) then
          let (shorter, text) := if a.length < b.length then (first, a) else (second, b)
          if text.isEmpty then complain name ("EOF on ".toList ++ shorter ++ " which is empty".toList)
          else
            let line := text.count '\n'
            let place :=
              if found.has 'l' then []
              else if text.getLast? = some '\n' then ", line ".toList ++ decimal line
              else ", in line ".toList ++ decimal (line + 1)
            complain name ("EOF on ".toList ++ shorter ++ " after byte ".toList ++
              decimal text.length ++ place)
        return 1

/-- Whether lines are in order. -/
def isSorted : List Text → Bool
  | a :: b :: rest => !Ordered.precedes b a && isSorted (b :: rest)
  | _ => true

/-- The lines of two sorted lists, with the number of the column that each belongs to. -/
def columns : (fuel : Nat) → List Text → List Text → List (Nat × Text)
  | 0, _, _ => []
  | _ + 1, as, [] => as.map ((1, ·))
  | _ + 1, [], bs => bs.map ((2, ·))
  | fuel + 1, a :: as, b :: bs =>
    if a = b then (3, a) :: columns fuel as bs
    else if Ordered.precedes a b then (1, a) :: columns fuel as (b :: bs)
    else (2, b) :: columns fuel (a :: as) bs

/-- Tells which lines two sorted files have in common. -/
def comm : Utility := fun name words => do
  let known : List Flag :=
    [⟨'1', "", false⟩, ⟨'2', "", false⟩, ⟨'3', "", false⟩, ⟨'z', "zero-terminated", false⟩,
      ⟨'\x01', "check-order", false⟩, ⟨'\x02', "nocheck-order", false⟩,
      ⟨'\x03', "output-delimiter", true⟩, ⟨'\x04', "total", false⟩]
  let found ← parse name known 1 words
  match found.operands with
  | [] => usage name "missing operand".toList 1
  | [only] => usage name ("missing operand after ".toList ++ cited only) 1
  | [first, second] =>
    let read (file : Text) : Task Text := do
      match ← content file with
      | .ok text => return text
      | .error e =>
        complainOf name [] file e
        Task.exit 1
    let separator := if found.has 'z' then '\x00' else '\n'
    let as := partsOf separator (← read first)
    let bs := partsOf separator (← read second)
    let delimiter := (found.last? '\x03').getD ['\t']
    let rows := columns (as.length + bs.length + 1) as bs
    let shows (column : Nat) : Bool := !found.has (Char.ofNat ('0'.toNat + column))
    let before (column : Nat) : Text :=
      ((List.range column).filter fun c => 0 < c && shows c).flatMap fun _ => delimiter
    for (column, line) in rows do
      if shows column then emit name (before column ++ line ++ [separator])
    let count (column : Nat) : Text := decimal (rows.filter (·.1 = column)).length
    if found.has '\x04' then
      emit name (count 1 ++ delimiter ++ count 2 ++ delimiter ++ count 3 ++ delimiter ++
        "total".toList ++ [separator])
    let mut status := 0
    if !found.has '\x02' then
      let hasUnpaired := rows.any (·.1 ≠ 3)
      for (number, lines) in [(1, as), (2, bs)] do
        if (hasUnpaired || found.has '\x01') && !isSorted lines then
          complain name ("file ".toList ++ decimal number ++ " is not in sorted order".toList)
          status := 1
      if status = 1 then complain name "input is not in sorted order".toList
    return status
  | _ :: _ :: extra :: _ => usage name ("extra operand ".toList ++ cited extra) 1

/-! ## Sorting

Sorting lines by themselves or by keys in them.
-/

namespace Sorting

/-- What keys are compared as. -/
inductive Measure where
  | text
  | number
  /-- A number that may have an exponent. -/
  | scientific
  /-- A number that may have a letter for a power of 1024 behind it. -/
  | size
  /-- A text in which numbers count as numbers. -/
  | version
  | month
  deriving DecidableEq

def Measure.ofLetters (letters : Text) : Measure :=
  if letters.contains 'n' then .number
  else if letters.contains 'g' then .scientific
  else if letters.contains 'h' then .size
  else if letters.contains 'M' then .month
  else if letters.contains 'V' then .version
  else .text

/-- How keys are compared. -/
structure Order where
  measure : Measure
  reverse : Bool
  ignoresCase : Bool
  skipsBlanks : Bool
  dictionary : Bool

def Order.ofLetters (letters : Text) : Order :=
  { measure := .ofLetters letters
    reverse := letters.contains 'r'
    ignoresCase := letters.contains 'f'
    skipsBlanks := letters.contains 'b'
    dictionary := letters.contains 'd' }

def Order.isPlain (o : Order) : Bool :=
  o.measure = .text && !o.reverse && !o.ignoresCase && !o.skipsBlanks && !o.dictionary

/-- Where a key begins or ends: a field, and a character in it. -/
structure Place where
  field : Nat
  char : Nat

structure Key where
  first : Place
  last : Option Place
  order : Order

/-- A place and the letters after it. -/
def place? (text : Text) : Option (Place × Text) :=
  match Number.digits 10 text 0 0 with
  | (_, 0, _) => none
  | (field, _, '.' :: rest) =>
    match Number.digits 10 rest 0 0 with
    | (_, 0, _) => none
    | (char, _, rest) => some (⟨field, char⟩, rest)
  | (field, _, rest) => some (⟨field, 0⟩, rest)

/-- What is said about a number that is missing. -/
def missingNumber (place : String) (text : Text) : Text :=
  ("invalid number " ++ place ++ ": invalid count at start of ").toList ++ cited text

/-- What is said about a key with something wrong in it. -/
def wrongKey (reason : String) (text : Text) : Text :=
  (reason ++ ": invalid field specification ").toList ++ cited text

/-- The letters that may stand behind a place of a key. -/
def orderLetters : Text := "bdfghiMnRrV".toList

def Key.ofText (text : Text) : Except Text Key :=
  match place? text with
  | none => .error (missingNumber "at field start" text)
  | some (first, rest) =>
    if first.field = 0 then .error (wrongKey "field number is zero" text)
    else
      let letters := rest.takeWhile orderLetters.contains
      match rest.drop letters.length with
      | [] => .ok ⟨first, none, Order.ofLetters letters⟩
      | ',' :: after =>
        match place? after with
        | none => .error (missingNumber "after ','" after)
        | some (last, more) =>
          if last.field = 0 then .error (wrongKey "field number is zero" text)
          else if !more.all orderLetters.contains then
            .error (wrongKey "stray character in field spec" text)
          else .ok ⟨first, some last, Order.ofLetters (letters ++ more)⟩
      | _ => .error (wrongKey "stray character in field spec" text)

def isBlank (c : Char) : Bool := c = ' ' || c = '\t' || c = '\n'

/-- The fields of a line; without a separator, blanks belong to the field after them. -/
def fields (separator : Option Char) (line : Text) : List Text :=
  match separator with
  | some c => line.splitOn c
  | none =>
    let rec go : (fuel : Nat) → Text → List Text
      | 0, _ => []
      | _ + 1, [] => []
      | fuel + 1, rest =>
        let blanks := rest.takeWhile isBlank
        let word := (rest.drop blanks.length).takeWhile (!isBlank ·)
        (blanks ++ word) :: go fuel (rest.drop (blanks.length + word.length))
    go (line.length + 1) line

/-- The offset of the start of a field, and of its end. -/
def fieldStart (separator : Option Char) (fields : List Text) (n : Nat) : Nat :=
  ((fields.take (n - 1)).map fun f => f.length + (if separator.isSome then 1 else 0)).foldl (· + ·) 0

/-- The part of a line that a key compares. -/
def Key.part (key : Key) (separator : Option Char) (line : Text) : Text :=
  let all := fields separator line
  let start := min (fieldStart separator all key.first.field) line.length
  let blanks (from_ : Nat) : Nat :=
    if key.order.skipsBlanks then ((line.drop from_).takeWhile isBlank).length else 0
  let start := start + blanks start + (key.first.char - 1)
  let stop :=
    match key.last with
    | none => line.length
    | some place =>
      let begin_ := fieldStart separator all place.field
      if place.char = 0 then begin_ + (all.getD (place.field - 1) []).length
      else begin_ + blanks begin_ + place.char
  (line.drop start).take (stop - start)

/-- The number at the start of a text, as a fraction of a power of ten. -/
def number (text : Text) : Int × Nat :=
  let text := text.dropWhile isBlank
  let (negative, text) := match text with
    | '-' :: rest => (true, rest)
    | rest => (false, rest)
  let (whole, _, rest) := Number.digits 10 text 0 0
  let (value, places) := match rest with
    | '.' :: rest =>
      let (value, count, _) := Number.digits 10 rest whole 0
      (value, count)
    | _ => (whole, 0)
  (if negative then -(value : Int) else value, places)

def compareNumbers (a b : Text) : Ordering :=
  let (m, p) := number a
  let (n, q) := number b
  compare (m * tenTo q) (n * tenTo p)

/-- The rank of the letter behind a number; that of a negative number is negative. -/
def unitRank (text : Text) : Int :=
  let text := text.dropWhile isBlank
  let negative := text.head? = some '-'
  let digits := if negative then text.drop 1 else text
  let rest := digits.dropWhile fun c => c.isDigit || c = '.'
  let rank : Nat := match rest with
    | c :: _ => (("KMGTPEZYRQ".toList.findIdx? (· = (if c = 'k' then 'K' else c))).map (· + 1)).getD 0
    | [] => 0
  if (number text).1 = 0 then 0 else if negative then -(rank : Int) else rank

/-- The number at the start of a text, with an exponent; texts without a number come before all. -/
def compareScientific (a b : Text) : Ordering :=
  let value (t : Text) : Option (Int × Int) :=
    let t := t.dropWhile isBlank
    let (digits, exponent) := (t.takeWhile fun c => c ≠ 'e' && c ≠ 'E',
      (t.dropWhile fun c => c ≠ 'e' && c ≠ 'E').drop 1)
    let starts := (if t.head? = some '-' || t.head? = some '+' then t.drop 1 else t).head?
    if starts.any fun c => c.isDigit || c = '.' then
      let (m, p) := number (if t.head? = some '+' then digits.drop 1 else digits)
      let (e, _) := number (if exponent.head? = some '+' then exponent.drop 1 else exponent)
      some (m, e - p)
    else none
  match value a, value b with
  | none, none => .eq
  | none, some _ => .lt
  | some _, none => .gt
  | some (m, p), some (n, q) =>
    let least := min p q
    if (p - least).toNat ≤ 400 && (q - least).toNat ≤ 400 then
      compare (m * tenTo (p - least).toNat) (n * tenTo (q - least).toNat)
    else compare p q

def compareSizes (a b : Text) : Ordering :=
  match compare (unitRank a) (unitRank b) with
  | .eq => compareNumbers a b
  | order => order

/-- The number of a month, and 0 for other texts. -/
def monthNumber (text : Text) : Nat :=
  let name := String.ofList (((text.dropWhile isBlank).take 3).map Char.toUpper)
  ((["JAN", "FEB", "MAR", "APR", "MAY", "JUN", "JUL", "AUG", "SEP", "OCT", "NOV", "DEC"].findIdx?
    (· = name)).map (· + 1)).getD 0

/-- The rank of a character of a version: a tilde comes before the end, and letters before signs. -/
def versionRank : Option Char → Int
  | none => -1
  | some c =>
    if c.isDigit then 0
    else if c.isAlpha then c.toNat
    else if c = '~' then -2
    else (c.toNat : Int) + 256

/-- Compares versions part by part, as texts and as numbers in turn. -/
def compareVersions : (fuel : Nat) → (a b : Text) → Ordering
  | 0, _, _ => .eq
  | _ + 1, [], [] => .eq
  | fuel + 1, a, b =>
    let isText (t : Text) : Bool := t.head?.any (!·.isDigit)
    if isText a || isText b then
      match compare (versionRank a.head?) (versionRank b.head?) with
      | .eq => compareVersions fuel (a.drop 1) (b.drop 1)
      | order => order
    else
      let (m, _, restA) := Number.digits 10 a 0 0
      let (n, _, restB) := Number.digits 10 b 0 0
      match compare m n with
      | .eq => compareVersions fuel restA restB
      | order => order

def compareTexts (a b : Text) : Ordering :=
  if Ordered.precedes a b then .lt else if Ordered.precedes b a then .gt else .eq

def Order.compare (o : Order) (a b : Text) : Ordering :=
  let prepare (t : Text) : Text :=
    let t := if o.skipsBlanks then t.dropWhile isBlank else t
    let t := if o.dictionary then t.filter fun c => c.isAlphanum || isBlank c else t
    if o.ignoresCase then t.map Char.toUpper else t
  let result :=
    match o.measure with
    | .number => compareNumbers a b
    | .scientific => compareScientific a b
    | .size => compareSizes a b
    | .month => Ord.compare (monthNumber a) (monthNumber b)
    | .version => compareVersions (a.length + b.length + 1) a b
    | .text => compareTexts (prepare a) (prepare b)
  if o.reverse then result.swap else result

/-- The comparison by several keys. -/
def compareBy (separator : Option Char) (keys : List Key) (a b : Text) : Ordering :=
  (keys.map fun k => k.order.compare (k.part separator a) (k.part separator b)).foldl
    (fun found next => if found = .eq then next else found) .eq

end Sorting

def sort : Utility := fun name words => do
  let known : List Flag :=
    [⟨'b', "ignore-leading-blanks", false⟩, ⟨'d', "dictionary-order", false⟩,
      ⟨'f', "ignore-case", false⟩, ⟨'g', "general-numeric-sort", false⟩,
      ⟨'n', "numeric-sort", false⟩, ⟨'r', "reverse", false⟩, ⟨'u', "unique", false⟩,
      ⟨'s', "stable", false⟩, ⟨'c', "check", false⟩, ⟨'C', "", false⟩, ⟨'m', "merge", false⟩,
      ⟨'k', "key", true⟩, ⟨'t', "field-separator", true⟩, ⟨'o', "output", true⟩,
      ⟨'h', "human-numeric-sort", false⟩, ⟨'V', "version-sort", false⟩, ⟨'M', "month-sort", false⟩,
      ⟨'z', "zero-terminated", false⟩]
  let found ← parse name known 2 words
  let general := Sorting.Order.ofLetters (found.options.map (·.1))
  let separator ← match found.last? 't' with
    | none => pure none
    | some ['\\', '0'] => pure (some '\x00')
    | some [c] => pure (some c)
    | some text =>
      complain name ("multi-character tab ".toList ++ cited text)
      Task.exit 2
  let keys ← (found.all 'k').mapM fun text => do
    match Sorting.Key.ofText text with
    | .ok key => pure (if key.order.isPlain then { key with order := general } else key)
    | .error message =>
      complain name message
      Task.exit 2
  let byKeys (a b : Text) : Ordering :=
    if keys.isEmpty then general.compare a b else Sorting.compareBy separator keys a b
  let last (a b : Text) : Ordering :=
    if found.has 's' || found.has 'u' then .eq
    else
      let result := Sorting.compareTexts a b
      if general.reverse then result.swap else result
  let total (a b : Text) : Ordering :=
    match byKeys a b with
    | .eq => last a b
    | order => order
  let lineEnd := if found.has 'z' then '\x00' else '\n'
  let mut parts : List (List Text) := []
  for file in inputs found.operands do
    match ← content file with
    | .ok text => parts := parts ++ [partsOf lineEnd text]
    | .error .isADirectory =>
      complain name ("read failed: ".toList ++ named file ++ ": Is a directory".toList)
      Task.exit 2
    | .error e =>
      complain name ("cannot read: ".toList ++ named file ++ ": ".toList ++ e.reason.toList)
      Task.exit 2
  let all := parts.flatten
  if found.has 'c' || found.has 'C' then
    let wrong := (all.zip (all.drop 1)).zipIdx.find? fun ((a, b), _) =>
      total a b = .gt || (found.has 'u' && byKeys a b = .eq)
    match wrong with
    | some ((_, b), n) =>
      let file := (inputs found.operands).headD []
      if found.has 'c' then
        complain name (file ++ ':' :: decimal (n + 2) ++ ": disorder: ".toList ++ b)
      return 1
    | none => return 0
  else
    let inOrder (a b : Text) : Bool := total a b ≠ .gt
    let sorted :=
      if found.has 'm' then parts.foldl (fun merged part => List.merge merged part inOrder) []
      else all.mergeSort inOrder
    let chosen :=
      if found.has 'u' then (groups (fun a b => byKeys a b = .eq) sorted).map (·.1) else sorted
    match found.last? 'o' with
    | none => emit name (chosen.flatMap (· ++ [lineEnd]))
    | some target =>
      match ← Task.openFile target .write with
      | .ok number => let _ ← Task.writeTo number (chosen.flatMap (· ++ [lineEnd]))
      | .error e =>
        complain name ("open failed: ".toList ++ target ++ ": ".toList ++ e.reason.toList)
        Task.exit 2
    return 0

end KDispatch.Shell.Utility
