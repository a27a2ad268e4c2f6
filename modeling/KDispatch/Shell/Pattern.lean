import KDispatch.Text.Utf8

/-!
Patterns for texts: `*` stands for any text, `?` for one character, and brackets for one of several
characters. A pattern is compiled once, and matching follows the compiled list.
-/

namespace KDispatch.Shell

/-- A character of a pattern before it is compiled; a quoted one stands for itself. -/
structure PatternChar where
  char : Char
  quoted : Bool
  deriving DecidableEq

namespace Pattern

/-- What brackets allow. -/
inductive Choice where
  | range (first last : Char)
  | kind (name : String)
  deriving DecidableEq

inductive Element where
  | char (c : Char)
  | one
  | any
  | oneOf (inverted : Bool) (choices : List Choice)
  deriving DecidableEq

/-- Whether a character is of the kind that a name in brackets stands for. -/
def isOfKind (name : String) (c : Char) : Bool :=
  match name with
  | "alnum" => c.isAlphanum
  | "alpha" => c.isAlpha
  | "blank" => c = ' ' || c = '\t'
  | "cntrl" => c.toNat < 32 || c.toNat = 127
  | "digit" => c.isDigit
  | "graph" => 32 < c.toNat && c.toNat < 127
  | "lower" => c.isLower
  | "print" => 32 ≤ c.toNat && c.toNat < 127
  | "punct" => 32 < c.toNat && c.toNat < 127 && !c.isAlphanum
  | "space" => c = ' ' || (9 ≤ c.toNat && c.toNat ≤ 13)
  | "upper" => c.isUpper
  | "xdigit" => c.isDigit || ('a' ≤ c && c ≤ 'f') || ('A' ≤ c && c ≤ 'F')
  | _ => false

def kindNames : List String :=
  ["alnum", "alpha", "blank", "cntrl", "digit", "graph", "lower", "print", "punct", "space",
    "upper", "xdigit"]

def Choice.allows (c : Char) : Choice → Bool
  | .range first last => first ≤ c && c ≤ last
  | .kind name => isOfKind name c

def Element.allows (c : Char) : Element → Bool
  | .char d => c = d
  | .one | .any => true
  | .oneOf inverted choices => choices.any (·.allows c) != inverted

/-- The kind that a name stands for, if a colon, a known name, a colon and a bracket come next. -/
def kindName? (text : List PatternChar) : Option (String × List PatternChar) :=
  match text with
  | ⟨':', _⟩ :: rest =>
    let name := String.ofList ((rest.takeWhile (·.char ≠ ':')).map (·.char))
    match rest.dropWhile (·.char ≠ ':') with
    | ⟨':', _⟩ :: ⟨']', _⟩ :: rest => if kindNames.contains name then some (name, rest) else none
    | _ => none
  | _ => none

/-- The choices up to the closing bracket, which cannot come first. -/
def choices? : (fuel : Nat) → (first : Bool) → List PatternChar →
    Option (List Choice × List PatternChar)
  | 0, _, _ => none
  | _ + 1, _, [] => none
  | fuel + 1, first, c :: rest =>
    if c = ⟨']', false⟩ ∧ !first then some ([], rest)
    else
      match (if c = ⟨'[', false⟩ then kindName? rest else none) with
      | some (name, rest) =>
        (choices? fuel false rest).map fun (more, rest) => (.kind name :: more, rest)
      | none =>
        match (if c = ⟨'\\', false⟩ then rest else c :: rest) with
        | [] => none
        | c :: ⟨'-', false⟩ :: last :: rest =>
          if last = ⟨']', false⟩ then
            (choices? fuel false (⟨'-', false⟩ :: last :: rest)).map fun (more, rest) =>
              (.range c.char c.char :: more, rest)
          else
            match (if last = ⟨'\\', false⟩ then rest else last :: rest) with
            | [] => none
            | last :: rest =>
              (choices? fuel false rest).map fun (more, rest) =>
                (.range c.char last.char :: more, rest)
        | c :: rest =>
          (choices? fuel false rest).map fun (more, rest) => (.range c.char c.char :: more, rest)

/-- Compiles a pattern; brackets that are not closed stand for themselves. -/
def compile : (fuel : Nat) → List PatternChar → List Element
  | 0, _ => []
  | _ + 1, [] => []
  | fuel + 1, c :: rest =>
    if c.quoted then .char c.char :: compile fuel rest
    else
      match c.char with
      | '*' => .any :: compile fuel rest
      | '?' => .one :: compile fuel rest
      | '\\' =>
        match rest with
        | [] => [.char '\\']
        | next :: rest => .char next.char :: compile fuel rest
      | '[' =>
        let (inverted, inside) :=
          match rest with
          | ⟨'!', false⟩ :: inside => (true, inside)
          | _ => (false, rest)
        match choices? (inside.length + 1) true inside with
        | some (choices, after) => .oneOf inverted choices :: compile fuel after
        | none => .char '[' :: compile fuel rest
      | c => .char c :: compile fuel rest

def ofChars (pattern : List PatternChar) : List Element := compile (pattern.length + 1) pattern

/-- A text and all that is left of it when characters are taken off its start. -/
def endings : Text → List Text
  | [] => [[]]
  | c :: text => (c :: text) :: endings text

/-- Whether a pattern matches the whole of a text. -/
def isMatch : List Element → Text → Bool
  | [], text => text.isEmpty
  | .any :: pattern, text => (endings text).any (isMatch pattern)
  | element :: pattern, c :: text => element.allows c && isMatch pattern text
  | _ :: _, [] => false

/-- Whether a pattern can match more than one text. -/
def isSpecial (pattern : List Element) : Bool :=
  pattern.any fun
    | .char _ => false
    | _ => true

/-- Cuts off what a pattern matches at the end of a text. -/
def cutEnd (pattern : List Element) (longest : Bool) (text : Text) : Text :=
  let places := (List.range (text.length + 1)).filter fun n => isMatch pattern (text.drop n)
  match if longest then places.head? else places.getLast? with
  | some n => text.take n
  | none => text

/-- Cuts off what a pattern matches at the start of a text. -/
def cutStart (pattern : List Element) (longest : Bool) (text : Text) : Text :=
  let places := (List.range (text.length + 1)).filter fun n => isMatch pattern (text.take n)
  match if longest then places.getLast? else places.head? with
  | some n => text.drop n
  | none => text

end Pattern

end KDispatch.Shell
