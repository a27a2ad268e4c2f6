import KDispatch.Json.Numeral

/-!
String literals, read one character at a time. Outside an escape a character below U+0020 is
refused; `\u` escapes of surrogates must come in pairs of a high and a low one.
-/

namespace KDispatch.Json

/-- Values are kept, or only passed over: then surrogates, number ranges and nesting depth are not
looked at. -/
inductive Mode where
  | keep
  | skip
  deriving DecidableEq

/-- Where a reader stands inside a string literal. -/
inductive StringState where
  | plain
  /-- After a backslash. -/
  | escape
  /-- Inside the digits of `\u`: after this digit `owed` more follow; `high` is the surrogate before. -/
  | hex (high : Option Nat) (owed : Nat) (value : Nat)
  /-- After a high surrogate, before the backslash of the low one. -/
  | pair (high : Nat)
  /-- After a high surrogate and a backslash. -/
  | pairEscape (high : Nat)
  deriving DecidableEq

inductive StringStep where
  | close
  | go (state : StringState)
  | emit (c : Char) (state : StringState)

def hexValue? (c : Char) : Option Nat :=
  if c.isDigit then some (c.toNat - '0'.toNat)
  else if 'a' ≤ c ∧ c ≤ 'f' then some (c.toNat - 'a'.toNat + 10)
  else if 'A' ≤ c ∧ c ≤ 'F' then some (c.toNat - 'A'.toNat + 10)
  else none

/-- The character that a backslash and `c` stand for. -/
def shortEscape? : Char → Option Char
  | '"' => some '"'
  | '\\' => some '\\'
  | '/' => some '/'
  | 'b' => some '\x08'
  | 'f' => some '\x0c'
  | 'n' => some '\n'
  | 'r' => some '\r'
  | 't' => some '\t'
  | _ => none

/-- A `\u` is complete only if the text goes on for four bytes. -/
def hasFourBytes (text : Text) : Bool :=
  4 ≤ (text.take 4).foldl (fun size c => size + c.utf8Size) 0

def isHighSurrogate (n : Nat) : Bool := 0xD800 ≤ n && n ≤ 0xDBFF

def isLowSurrogate (n : Nat) : Bool := 0xDC00 ≤ n && n ≤ 0xDFFF

/-- The step that the complete value of a `\u` escape makes. -/
def unicodeStep (mode : Mode) : Option Nat → Nat → Except ReadError StringStep
  | none, n =>
    if isHighSurrogate n ∨ isLowSurrogate n then
      if mode = .skip then .ok (.emit '\uFFFD' .plain)
      else if isHighSurrogate n then .ok (.go (.pair n))
      else .error .malformed
    else .ok (.emit (Char.ofNat n) .plain)
  | some high, n =>
    if isLowSurrogate n then
      .ok (.emit (Char.ofNat (0x10000 + (high - 0xD800) * 0x400 + (n - 0xDC00))) .plain)
    else .error .malformed

/-- The step on the character `c`, which `rest` follows. -/
def StringState.next (mode : Mode) (c : Char) (rest : Text) :
    StringState → Except ReadError StringStep
  | .plain =>
    if c = '"' then .ok .close
    else if c = '\\' then .ok (.go .escape)
    else if c.toNat < 0x20 then .error .malformed
    else .ok (.emit c .plain)
  | .escape =>
    if c = 'u' then
      if hasFourBytes rest then .ok (.go (.hex none 3 0)) else .error .ended
    else
      match shortEscape? c with
      | some d => .ok (.emit d .plain)
      | none => .error .malformed
  | .hex high owed value =>
    match hexValue? c, owed with
    | none, _ => .error .malformed
    | some d, 0 => unicodeStep mode high (value * 16 + d)
    | some d, owed + 1 => .ok (.go (.hex high owed (value * 16 + d)))
  | .pair high => if c = '\\' then .ok (.go (.pairEscape high)) else .error .malformed
  | .pairEscape high =>
    if c ≠ 'u' then .error .malformed
    else if hasFourBytes rest then .ok (.go (.hex (some high) 3 0))
    else .error .ended

namespace StringState

variable (mode : Mode) (c : Char) (rest : Text)

theorem next_escape : escape.next mode c rest =
    if c = 'u' then
      if hasFourBytes rest then .ok (.go (.hex none 3 0)) else .error .ended
    else
      match shortEscape? c with
      | some d => .ok (.emit d .plain)
      | none => .error .malformed := rfl

theorem next_hex (high : Option Nat) (owed value : Nat) : (hex high owed value).next mode c rest =
    match hexValue? c, owed with
    | none, _ => .error .malformed
    | some d, 0 => unicodeStep mode high (value * 16 + d)
    | some d, owed + 1 => .ok (.go (.hex high owed (value * 16 + d))) := rfl

end StringState

/-- The rest of a string literal up to its closing quotation mark, and the text after it. -/
def readStringFrom (mode : Mode) : StringState → Text → Except ReadError (Text × Text)
  | _, [] => .error .ended
  | state, c :: rest =>
    match state.next mode c rest with
    | .error e => .error e
    | .ok .close => .ok ([], rest)
    | .ok (.go state) => readStringFrom mode state rest
    | .ok (.emit d state) =>
      (readStringFrom mode state rest).map fun (body, rest) => (d :: body, rest)

theorem readStringFrom_cons (mode : Mode) (state : StringState) (c : Char) (rest : Text) :
    readStringFrom mode state (c :: rest) =
      match state.next mode c rest with
      | .error e => .error e
      | .ok .close => .ok ([], rest)
      | .ok (.go state) => readStringFrom mode state rest
      | .ok (.emit d state) =>
        (readStringFrom mode state rest).map fun (body, rest) => (d :: body, rest) := rfl

/-- A string literal whose opening quotation mark has been read. -/
def readString (mode : Mode) (text : Text) : Except ReadError (String × Text) :=
  (readStringFrom mode .plain text).map fun (body, rest) => (String.ofList body, rest)

end KDispatch.Json
