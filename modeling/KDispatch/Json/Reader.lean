import KDispatch.Json.StringLiteral
import KDispatch.Ordered

/-!
Reading JSON text. The reader goes through the text once, and the first problem decides the error:
`ended` where the text stops, `malformed` where a character does not fit. Containers nest to a given
depth; of equal keys in one object the last one counts.
-/

namespace KDispatch.Json

/-- A reader of one thing at the start of a text, which gives the rest of the text too. -/
abbrev Reader (α : Type) := Text → Except ReadError (α × Text)

def skipBlank (text : Text) : Text :=
  text.dropWhile fun c => c = ' ' || c = '\n' || c = '\t' || c = '\r'

/-- Reads the rest of a literal name. -/
def readWord (value : Json) : Text → Reader Json
  | [], text => .ok (value, text)
  | _ :: _, [] => .error .ended
  | w :: ws, c :: rest => if c = w then readWord value ws rest else .error .malformed

def readNumber (mode : Mode) (text : Text) : Except ReadError (Json × Text) :=
  match mode, Numeral.read text with
  | .keep, .ok (numeral, rest) =>
    match numeral.number? with
    | some n => .ok (.number n, rest)
    | none => .error .malformed
  | .keep, .error e => .error e
  | .skip, .ok (_, rest) => .ok (.null, rest)
  | .skip, .error _ => .error .malformed

/-- Reads items up to the closing bracket; `fuel` bounds their number. -/
def readItems (value : Reader Json) : Nat → Reader (List Json)
  | 0, _ => .error .ended
  | fuel + 1, text => do
    let (item, rest) ← value text
    match skipBlank rest with
    | [] => .error .ended
    | ']' :: rest => return ([item], rest)
    | ',' :: rest =>
      let (items, rest) ← readItems value fuel rest
      return (item :: items, rest)
    | _ :: _ => .error .malformed

def readKey (mode : Mode) (text : Text) : Except ReadError (String × Text) :=
  match skipBlank text with
  | [] => .error .ended
  | '"' :: rest => readString mode rest
  | _ :: _ => .error .malformed

/-- Reads the colon between a key and its value. -/
def readColon (text : Text) : Except ReadError Text :=
  match skipBlank text with
  | [] => .error .ended
  | ':' :: rest => .ok rest
  | _ :: _ => .error .malformed

/-- Reads members up to the closing brace; `fuel` bounds their number. -/
def readMembers (mode : Mode) (value : Reader Json) : Nat → Reader (List (String × Json))
  | 0, _ => .error .ended
  | fuel + 1, text => do
    let (key, rest) ← readKey mode text
    let (item, rest) ← value (← readColon rest)
    match skipBlank rest with
    | [] => .error .ended
    | '}' :: rest => return ([(key, item)], rest)
    | ',' :: rest =>
      let (members, rest) ← readMembers mode value fuel rest
      return ((key, item) :: members, rest)
    | _ :: _ => .error .malformed

/-- Reads the rest of an array after its opening bracket. -/
def readArray (value : Reader Json) (text : Text) : Except ReadError (Json × Text) :=
  match skipBlank text with
  | ']' :: rest => .ok (.array [], rest)
  | rest => (readItems value rest.length rest).map fun (items, rest) => (.array items, rest)

/-- Reads the rest of an object after its opening brace. -/
def readObject (mode : Mode) (value : Reader Json) (text : Text) : Except ReadError (Json × Text) :=
  match skipBlank text with
  | '}' :: rest => .ok (.object [], rest)
  | rest =>
    (readMembers mode value rest.length rest).map fun (members, rest) =>
      (.object (KeyMap.ofList members).entries, rest)

/-- Reads a value whose containers hold values that `inner` reads; without `inner` containers are
refused. -/
def readWith (mode : Mode) (inner : Option (Reader Json)) (text : Text) :
    Except ReadError (Json × Text) :=
  match skipBlank text with
  | [] => .error .ended
  | 'n' :: rest => readWord .null "ull".toList rest
  | 't' :: rest => readWord (.bool true) "rue".toList rest
  | 'f' :: rest => readWord (.bool false) "alse".toList rest
  | '"' :: rest => (readString mode rest).map fun (s, rest) => (.string s, rest)
  | '[' :: rest =>
    match inner with
    | some value => readArray value rest
    | none => .error .malformed
  | '{' :: rest =>
    match inner with
    | some value => readObject mode value rest
    | none => .error .malformed
  | c :: rest => if c = '-' ∨ c.isDigit then readNumber mode (c :: rest) else .error .malformed

/-- Reads a value whose containers nest at most `depth` deep. -/
def readValue (mode : Mode) : (depth : Nat) → Reader Json
  | 0 => readWith mode none
  | depth + 1 => readWith mode (some (readValue mode depth))

/-- Passes over a value of any depth. -/
def skipValue (text : Text) : Except ReadError Text :=
  (readValue .skip text.length text).map (·.2)

/-- Accepts blanks only. -/
def readEnd (text : Text) : Except ReadError Unit :=
  if (skipBlank text).isEmpty then .ok () else .error .malformed

/-- How deep the containers of a document may nest. -/
def maxDepth : Nat := 127

/-- The value that a whole text denotes. -/
def ofText (text : Text) : Except ReadError Json := do
  let (value, rest) ← readValue .keep maxDepth text
  readEnd rest
  return value

end KDispatch.Json
