import KDispatch.Shell.Indented.Streams
import KDispatch.Shell.Indented.Syntax

/-!
What can be done with texts, and with bytes where they are treated like texts.
-/

namespace KDispatch.Shell.Indented

/-- The arguments of a call. -/
structure Arguments where
  plain : List Value
  named : List (String × Value)

namespace Arguments

/-- The argument at a place or with a name. -/
def at? (arguments : Arguments) (place : Nat) (name : String) : Option Value :=
  match arguments.plain[place]? with
  | some v => some v
  | none => arguments.named.lookup name

def first (arguments : Arguments) : Value := arguments.plain.headD .nothing

def second (arguments : Arguments) : Value := arguments.plain.getD 1 .nothing

/-- A whole number at a place or with a name. -/
def whole (arguments : Arguments) (place : Nat) (name : String) (usual : Int) : Int :=
  ((arguments.at? place name).bind Core.whole?).getD usual

end Arguments

namespace Letters

/-- A letter with a further one that differs from it in its case only. -/
def upper (c : Char) : Char :=
  let n := c.toNat
  if n < 128 then c.toUpper
  else if (0xe0 ≤ n && n ≤ 0xfe && n ≠ 0xf7) || (0x3b1 ≤ n && n ≤ 0x3c9 && n ≠ 0x3c2) ||
      (0x430 ≤ n && n ≤ 0x44f) then Char.ofNat (n - 32)
  else if 0x450 ≤ n && n ≤ 0x45f then Char.ofNat (n - 80)
  else if 0x100 ≤ n && n ≤ 0x137 && n % 2 = 1 then Char.ofNat (n - 1)
  else c

def lower (c : Char) : Char :=
  let n := c.toNat
  if n < 128 then c.toLower
  else if (0xc0 ≤ n && n ≤ 0xde && n ≠ 0xd7) || (0x391 ≤ n && n ≤ 0x3a9) || (0x410 ≤ n && n ≤ 0x42f) then
    Char.ofNat (n + 32)
  else if 0x400 ≤ n && n ≤ 0x40f then Char.ofNat (n + 80)
  else if 0x100 ≤ n && n ≤ 0x137 && n % 2 = 0 then Char.ofNat (n + 1)
  else c

def isAlpha (c : Char) : Bool := c.isAlpha || (0xc0 ≤ c.toNat && c.toNat ≠ 0xd7 && c.toNat ≠ 0xf7 &&
  !(0x2000 ≤ c.toNat && c.toNat ≤ 0x2bff) && c.toNat < 0xe000) || c.toNat = 0xaa || c.toNat = 0xb5 || c.toNat = 0xba

def isUpper (c : Char) : Bool := lower c ≠ c

def isLower (c : Char) : Bool := upper c ≠ c || c.toNat = 0xdf

/-- A text with the first letter of each word in upper case and the others in lower case. -/
def titled : (inWord : Bool) → Text → Text
  | _, [] => []
  | inWord, c :: rest => (if inWord then lower c else upper c) :: titled (isAlpha c) rest

/-- The words of a text, with blanks between them. At most some cuts are made. -/
def words : (fuel : Nat) → (cuts : Option Nat) → Text → List Text
  | 0, _, _ => []
  | fuel + 1, cuts, t =>
    let t := t.dropWhile Numeric.isSpace
    if t.isEmpty then []
    else if cuts = some 0 then [t]
    else
      let word := t.takeWhile fun c => !Numeric.isSpace c
      word :: words fuel (cuts.map (· - 1)) (t.drop word.length)

/-- The parts of a text between separators. -/
def parts (separator : Text) : (fuel : Nat) → (cuts : Option Nat) → (part : Text) → Text → List Text
  | 0, _, part, t => [part.reverse ++ t]
  | fuel + 1, cuts, part, t =>
    if cuts = some 0 then [part.reverse ++ t]
    else
      match t with
      | [] => [part.reverse]
      | c :: rest =>
        if separator.isPrefixOf t then
          part.reverse :: parts separator fuel (cuts.map (· - 1)) [] (t.drop separator.length)
        else parts separator fuel cuts (c :: part) rest

/-- A text with some occurrences of a part replaced. -/
def replaced (old new : Text) (count : Option Nat) (t : Text) : Text :=
  if old.isEmpty then
    let limit := count.getD (t.length + 1)
    let rec go : Nat → Text → Text
      | 0, t => t
      | n + 1, [] => if n + 1 = 0 then [] else new
      | n + 1, c :: rest => new ++ c :: go n rest
    go limit t
  else new.intercalate (parts old (t.length + 1) count [] t)

/-- The lines of a text, without their ends unless these are kept. -/
def lines (keeps : Bool) : (fuel : Nat) → (line : Text) → Text → List Text
  | 0, _, _ => []
  | _ + 1, line, [] => if line.isEmpty then [] else [line.reverse]
  | fuel + 1, line, '\r' :: '\n' :: rest =>
    (line.reverse ++ if keeps then ['\r', '\n'] else []) :: lines keeps fuel [] rest
  | fuel + 1, line, c :: rest =>
    if [10, 11, 12, 13, 28, 29, 30, 0x85, 0x2028, 0x2029].contains c.toNat then
      (line.reverse ++ if keeps then [c] else []) :: lines keeps fuel [] rest
    else lines keeps fuel (c :: line) rest

/-- How often a part stands in a text, without overlaps. -/
def count (part t : Text) : Nat :=
  if part.isEmpty then t.length + 1 else (parts part (t.length + 1) none [] t).length - 1

/-- The last place of a part in a text. -/
def lastPlaceOf? (part t : Text) : Option Nat :=
  ((List.range (t.length + 1)).reverse).find? fun n => part.isPrefixOf (t.drop n)

/-- A text with tabs spread to columns. -/
def spread (size : Nat) : (column : Nat) → Text → Text
  | _, [] => []
  | column, '\t' :: rest =>
    let n := if size = 0 then 0 else size - column % size
    List.replicate n ' ' ++ spread size (column + n) rest
  | column, c :: rest => c :: spread size (if c = '\n' then 0 else column + 1) rest

end Letters

namespace Core

open Work

/-- Whether all characters are of a sort, of which there is at least one. -/
def allOf (holds : Char → Bool) (t : Text) : Bool := !t.isEmpty && t.all holds

/-- The part of a text between two places that arguments may tell. -/
def window (arguments : Arguments) (t : Text) : Nat × Text :=
  let size := t.length
  let place (v : Option Value) (usual : Nat) : Nat :=
    match v.bind whole? with
    | some n => (max 0 (min (size : Int) (if n < 0 then n + size else n))).toNat
    | none => usual
  let low := place arguments.plain[1]? 0
  let high := place arguments.plain[2]? size
  (low, (t.take high).drop low)

/-- The characters at the ends of a text that are taken off. -/
def trimmedBy (value : Value) : Work (Char → Bool) := do
  match value with
  | .nothing => return Numeric.isSpace
  | .text s | .bytes s => return fun c => s.contains c
  | _ => refuse "strip arg must be None or str"

/-- The texts that an argument may be, one or several. -/
def alternatives (method : String) (value : Value) : Work (List Text) := do
  match value with
  | .text s | .bytes s => return [s]
  | .tuple items =>
    items.mapM fun item => do
      match item with
      | .text s | .bytes s => return s
      | _ => refuse ("tuple for " ++ method ++ " must only contain str, not " ++ (← kindNameOf item))
  | value =>
    refuse (method ++ " first arg must be str or a tuple of str, not " ++ (← kindNameOf value))

/-- A text that an argument has to be. -/
def textArgument (what : String) (value : Value) : Work Text := do
  match value with
  | .text s | .bytes s => return s
  | value => refuse (what ++ (← kindNameOf value))

/-- The width that a text is filled up to, and what it is filled with. -/
def filledTo (layout : Char) (arguments : Arguments) (t : Text) : Work Text := do
  let width := (arguments.whole 0 "width" 0).toNat
  let fill : Char := match arguments.plain.getD 1 .nothing with
    | .text [c] | .bytes [c] => c
    | _ => ' '
  let missing := width - t.length
  let some_ (n : Nat) : Text := List.replicate n fill
  match layout with
  | '<' => return t ++ some_ missing
  | '>' => return some_ missing ++ t
  | _ =>
    let left := missing / 2 + (if missing % 2 = 1 && width % 2 = 1 then 1 else 0)
    return some_ left ++ t ++ some_ (missing - left)

/-- The parts of a text, split at blanks or at a separator. -/
def splitText (fromEnd : Bool) (arguments : Arguments) (t : Text) : Work (List Text) := do
  let limit := arguments.whole 1 "maxsplit" (-1)
  let cuts := if limit < 0 then none else some limit.toNat
  let reversed (t : Text) : Text := if fromEnd then t.reverse else t
  let ordered (found : List Text) : List Text :=
    if fromEnd then (found.map List.reverse).reverse else found
  match arguments.at? 0 "sep" with
  | none | some .nothing =>
    let trim (t : Text) : Text := ((t.reverse.dropWhile Numeric.isSpace).reverse)
    let found := Letters.words (t.length + 1) cuts (reversed t)
    let found := if cuts.isSome then
        match found.getLast? with
        | some last => found.dropLast ++ [if found.length ≤ cuts.getD 0 then last else trim last]
        | none => found
      else found
    return ordered found
  | some (.text []) | some (.bytes []) => fail "ValueError" "empty separator".toList
  | some (.text s) | some (.bytes s) =>
    return ordered (Letters.parts (reversed s) (t.length + 1) cuts [] (reversed t))
  | some v => refuse ("must be str or None, not " ++ (← kindNameOf v))

/-- The texts in a value, with a separator between them. -/
def joined (core : Core) (isBytes : Bool) (separator : Text) (value : Value) : Work Text := do
  let items ← core.items value
  let rec go : (place : Nat) → List Value → Work (List Text)
    | _, [] => return []
    | place, item :: rest => do
      match item, isBytes with
      | .text t, false | .bytes t, true => return t :: (← go (place + 1) rest)
      | item, _ =>
        refuse ("sequence item " ++ toString place ++ ": expected " ++
          (if isBytes then "a bytes-like object" else "str instance") ++ ", " ++ (← kindNameOf item) ++ " found")
  return separator.intercalate (← go 0 items)

/-- A text changed by a table from the numbers of characters to what takes their places. -/
def translated (core : Core) (table : Value) : Text → Work Text
  | [] => return []
  | c :: rest => do
    let entries ← match table with
      | .object address => entriesAt address
      | _ => pure #[]
    let new : Text ← match ← core.entryPlace? (.integer c.toNat) entries with
      | some place =>
        match (entries.getD place default).2 with
        | .text t => pure t
        | .integer n => pure [Char.ofNat n.toNat]
        | _ => pure []
      | none => pure [c]
    return new ++ (← translated core table rest)

/-- The name of an encoding without marks. -/
def plainName (t : Text) : String :=
  String.ofList ((t.map Char.toLower).filter fun c => c ≠ '-' && c ≠ '_')

/-- The bytes of a text in an encoding. -/
def encodedAs (encoding : Text) (t : Text) : Work Text := do
  match plainName encoding with
  | "utf8" => return encoded t
  | "ascii" | "latin1" | "iso88591" =>
    let limit := if plainName encoding = "ascii" then 128 else 256
    match t.findIdx? fun c => limit ≤ c.toNat with
    | none => return t
    | some place =>
      let c := t.getD place ' '
      let name := if limit = 128 then "ascii" else "latin-1"
      fail "UnicodeEncodeError" (("'" ++ name ++ "' codec can't encode character '").toList ++
        Spelling.escaped true '\'' c ++ "' in position ".toList ++ (toString place).toList ++
        (": ordinal not in range(" ++ toString limit ++ ")").toList)
  | _ => fail "LookupError" ("unknown encoding: ".toList ++ encoding)

/-- The text that bytes are in an encoding. -/
def decodedFrom (encoding errors : Text) (t : Text) : Work Text := do
  match plainName encoding with
  | "latin1" | "iso88591" => return t
  | "utf8" | "ascii" =>
    match Utf8.decode? (ByteText.toBytes t) with
    | some found => return found
    | none =>
      if errors = "strict".toList then
        match ← valueOf (File.closed []) t with
        | .text found => return found
        | _ => return []
      else
        let found := decoded t
        return if errors = "ignore".toList then found.filter fun c => c.toNat ≠ 0xfffd else found
  | _ => fail "LookupError" ("unknown encoding: ".toList ++ encoding)

def ofTexts (wrap : Text → Value) (texts : List Text) : Work Value := newList (texts.map wrap)

/-- What a method of a text gives. -/
def textMethod (core : Core) (member : Value → String → Work Value) (isBytes : Bool) (t : Text) (name : String)
    (arguments : Arguments) : Work Value := do
  let wrap (t : Text) : Value := if isBytes then .bytes t else .text t
  let bool (b : Bool) : Work Value := return .boolean b
  match name with
  | "upper" => return wrap (t.map Letters.upper)
  | "lower" | "casefold" => return wrap (t.map Letters.lower)
  | "title" => return wrap (Letters.titled false t)
  | "capitalize" =>
    match t with
    | c :: rest => return wrap (Letters.upper c :: rest.map Letters.lower)
    | [] => return wrap []
  | "swapcase" => return wrap (t.map fun c => if Letters.isUpper c then Letters.lower c else Letters.upper c)
  | "strip" | "lstrip" | "rstrip" => do
    let holds ← trimmedBy arguments.first
    let t := if name = "rstrip" then t else t.dropWhile holds
    return wrap (if name = "lstrip" then t else (t.reverse.dropWhile holds).reverse)
  | "split" | "rsplit" => do ofTexts wrap (← splitText (name = "rsplit") arguments t)
  | "splitlines" =>
    let keeps ← core.truth ((arguments.at? 0 "keepends").getD (.boolean false))
    ofTexts wrap (Letters.lines keeps (t.length + 1) [] t)
  | "join" => return wrap (← core.joined isBytes t arguments.first)
  | "replace" => do
    let old ← textArgument "replace() argument 1 must be str, not " arguments.first
    let new ← textArgument "replace() argument 2 must be str, not " arguments.second
    let count := arguments.whole 2 "count" (-1)
    return wrap (Letters.replaced old new (if count < 0 then none else some count.toNat) t)
  | "startswith" | "endswith" => do
    let (_, part) := window arguments t
    let texts ← alternatives name arguments.first
    bool (texts.any fun s => if name = "startswith" then s.isPrefixOf part else s.isSuffixOf part)
  | "find" | "index" | "rfind" | "rindex" => do
    let (low, part) := window arguments t
    let wanted ← match arguments.first with
      | .integer n => pure [Char.ofNat n.toNat]
      | v => textArgument "must be str, not " v
    let found := if name = "find" || name = "index" then placeOf? wanted (part.length + 1) 0 part
      else Letters.lastPlaceOf? wanted part
    match found with
    | some n => return .integer ((low + n : Nat) : Int)
    | none =>
      if name = "find" || name = "rfind" then return .integer (-1)
      else fail "ValueError" (if isBytes then "subsection not found" else "substring not found").toList
  | "count" => do
    let (_, part) := window arguments t
    let wanted ← textArgument "must be str, not " arguments.first
    return .integer (Letters.count wanted part : Int)
  | "format" =>
    return .text (← core.withFields member arguments.plain arguments.named (4 * t.length + 4) 0 t)
  | "format_map" => do
    let entries ← match arguments.first with
      | .object address => entriesAt address
      | _ => pure #[]
    let named := entries.toList.filterMap fun (k, v) =>
      match k with
      | .text name => some (String.ofList name, v)
      | _ => none
    return .text (← core.withFields member [] named (4 * t.length + 4) 0 t)
  | "encode" =>
    let encoding := match arguments.at? 0 "encoding" with
      | some (.text e) => e
      | _ => "utf-8".toList
    return .bytes (← encodedAs encoding t)
  | "decode" =>
    let encoding := match arguments.at? 0 "encoding" with
      | some (.text e) => e
      | _ => "utf-8".toList
    let errors := match arguments.at? 1 "errors" with
      | some (.text e) => e
      | _ => "strict".toList
    return .text (← decodedFrom encoding errors t)
  | "hex" => return .text (t.flatMap fun c => Spelling.hexadecimal 2 c.toNat)
  | "isdigit" | "isdecimal" | "isnumeric" => bool (allOf Char.isDigit t)
  | "isalpha" => bool (allOf Letters.isAlpha t)
  | "isalnum" => bool (allOf (fun c => Letters.isAlpha c || c.isDigit) t)
  | "isspace" => bool (allOf Numeric.isSpace t)
  | "isupper" => bool (t.any Letters.isUpper && !t.any Letters.isLower)
  | "islower" => bool (t.any Letters.isLower && !t.any Letters.isUpper)
  | "istitle" => bool (t.any Letters.isAlpha && Letters.titled false t = t)
  | "isascii" => bool (t.all fun c => c.toNat < 128)
  | "isprintable" => bool (t.all Spelling.isShown)
  | "isidentifier" =>
    bool (!t.isEmpty && t.all Token.isNameChar && (t.head?.map Token.isNameStart).getD false)
  | "zfill" =>
    let width := (arguments.whole 0 "width" 0).toNat
    let (sign, digits) : Text × Text := match t with
      | c :: rest => if c = '-' || c = '+' then ([c], rest) else ([], t)
      | [] => ([], [])
    return wrap (sign ++ List.replicate (width - t.length) '0' ++ digits)
  | "ljust" => return wrap (← filledTo '<' arguments t)
  | "rjust" => return wrap (← filledTo '>' arguments t)
  | "center" => return wrap (← filledTo '^' arguments t)
  | "partition" | "rpartition" => do
    let mark ← textArgument "must be str, not " arguments.first
    if mark.isEmpty then fail "ValueError" "empty separator".toList
    else
      let found := if name = "partition" then placeOf? mark (t.length + 1) 0 t else Letters.lastPlaceOf? mark t
      match found with
      | some n => return .tuple [wrap (t.take n), wrap mark, wrap (t.drop (n + mark.length))]
      | none =>
        if name = "partition" then return .tuple [wrap t, wrap [], wrap []]
        else return .tuple [wrap [], wrap [], wrap t]
  | "removeprefix" => do
    let s ← textArgument "removeprefix() argument must be str, not " arguments.first
    return wrap (if s.isPrefixOf t then t.drop s.length else t)
  | "removesuffix" => do
    let s ← textArgument "removesuffix() argument must be str, not " arguments.first
    return wrap (if s.isSuffixOf t && !s.isEmpty then t.take (t.length - s.length) else t)
  | "expandtabs" => return wrap (Letters.spread (arguments.whole 0 "tabsize" 8).toNat 0 t)
  | "translate" => return wrap (← core.translated arguments.first t)
  | "maketrans" =>
    match arguments.plain with
    | [table] =>
      let entries ← match table with
        | .object address => entriesAt address
        | _ => pure #[]
      newTable (entries.toList.map fun (k, v) =>
        match k with
        | .text [c] => (.integer c.toNat, v)
        | k => (k, v))
    | .text source :: .text target :: rest =>
      let changed := (source.zip target).map fun (c, d) => (Value.integer c.toNat, Value.integer d.toNat)
      let gone := match rest with
        | .text cs :: _ => cs.map fun c => (Value.integer c.toNat, Value.nothing)
        | _ => []
      newTable (changed.reverse ++ gone)
    | _ => refuse "maketrans() arguments must be strings"
  | "__len__" => return .integer (t.length : Int)
  | "__contains__" => return .boolean (← core.isIn arguments.first (wrap t))
  | _ => fail "AttributeError" ("'".toList ++ (if isBytes then "bytes" else "str").toList ++
      "' object has no attribute '".toList ++ name.toList ++ ['\''])

/-- The names of the methods of texts. -/
def textMethods : List String :=
  ["upper", "lower", "casefold", "title", "capitalize", "swapcase", "strip", "lstrip", "rstrip", "split", "rsplit",
    "splitlines", "join", "replace", "startswith", "endswith", "find", "index", "rfind", "rindex", "count",
    "format", "format_map", "encode", "isdigit", "isdecimal", "isnumeric", "isalpha", "isalnum", "isspace",
    "isupper", "islower", "istitle", "isascii", "isprintable", "isidentifier", "zfill", "ljust", "rjust",
    "center", "partition", "rpartition", "removeprefix", "removesuffix", "expandtabs", "translate", "maketrans",
    "__len__", "__contains__"]

end Core

end KDispatch.Shell.Indented
