import KDispatch.Definition.Decode
import KDispatch.FileSystem.Access
import KDispatch.FileSystem.Basic
import KDispatch.Json.Numeral
import KDispatch.Json.Printer
import KDispatch.Json.Reader

/-!
KAST documents: why one cannot be used, its envelope, and reading and writing it.
-/

/-! ## Errors

Why a KAST document cannot be used. Each error has a stable code and a message, and may have a cause
of its own.
-/

namespace KDispatch

/-- The node that a document has to hold to be read as a definition. -/
def definitionNode : String := "KDefinition"

def Json.ReadError.message : Json.ReadError → String
  | .ended => "unexpected end of text"
  | .malformed => "malformed text"
  | .mismatch => "unexpected kind of value"

inductive KastError where
  | inaccessible (path : String) (cause : SystemError)
  | invalid (path : String) (cause : Json.ReadError)
  /-- The document holds a term of another kind than a definition. -/
  | unexpectedNode (path : String) (found : String)
  | ruleNotFound (id : String)
  deriving DecidableEq

namespace KastError

def code : KastError → String
  | .inaccessible _ _ => "KAST_IO"
  | .invalid _ _ => "KAST_INVALID_JSON"
  | .unexpectedNode _ _ => "KAST_UNEXPECTED_NODE"
  | .ruleNotFound _ => "KAST_RULE_NOT_FOUND"

/-- The text of the underlying error. -/
def cause? : KastError → Option String
  | .inaccessible _ cause => some cause.message
  | .invalid _ cause => some cause.message
  | .unexpectedNode _ _ => none
  | .ruleNotFound _ => none

def message : KastError → String
  | .inaccessible path cause => "failed to access `" ++ path ++ "`: " ++ cause.message
  | .invalid path cause => "`" ++ path ++ "` is not valid KAST JSON: " ++ cause.message
  | .unexpectedNode path found =>
    "`" ++ path ++ "` holds a `" ++ found ++ "` term where a `" ++ definitionNode ++
      "` was expected"
  | .ruleNotFound id => "no rule with id `" ++ id ++ "` in definition"

end KastError

/-! ## Envelopes

The envelope of a KAST document: a term with a format and a version, which are optional. It is an
object with these members and possibly others, which are passed over, or an array of the three. It is
read in one pass, so that the first problem decides the error.
-/

structure Envelope where
  format : Option String
  version : Option Nat
  term : Json

namespace Envelope

open Json

/-- The error for a value that is not of the kind asked for: a scalar is read to its end first. -/
def mismatchAt (text : Text) : ReadError :=
  match skipBlank text with
  | [] => .ended
  | '[' :: _ => .mismatch
  | '{' :: _ => .mismatch
  | rest =>
    match readWith .keep none rest with
    | .ok _ => .mismatch
    | .error e => e

def readFormat (text : Text) : Except ReadError (String × Text) :=
  match skipBlank text with
  | '"' :: rest => readString .keep rest
  | rest => .error (mismatchAt rest)

def readVersion (text : Text) : Except ReadError (Nat × Text) :=
  match readWith .keep none text with
  | .ok (.number (.integer n), rest) => if 0 ≤ n then .ok (n.toNat, rest) else .error .mismatch
  | _ => .error (mismatchAt text)

/-- Reads a value or null. -/
def readOptional {α : Type} (value : Reader α) (text : Text) :
    Except ReadError (Option α × Text) :=
  match skipBlank text with
  | 'n' :: rest => (readWord .null "ull".toList rest).map fun (_, rest) => (none, rest)
  | rest => (value rest).map fun (v, rest) => (some v, rest)

/-- The envelope counts as one container. -/
def readTerm (text : Text) : Except ReadError (Json × Text) := readValue .keep (maxDepth - 1) text

/-- The members seen so far. -/
structure Parts where
  format : Option (Option String)
  version : Option (Option Nat)
  term : Option Json

/-- Reads the value of a member; a member that has been seen already is refused before its value. -/
def readPart (parts : Parts) (key : String) (text : Text) : Except ReadError (Parts × Text) := do
  if key = "format" then
    if parts.format.isSome then throw .mismatch
    let (format, rest) ← readOptional readFormat (← readColon text)
    return ({ parts with format := some format }, rest)
  else if key = "version" then
    if parts.version.isSome then throw .mismatch
    let (version, rest) ← readOptional readVersion (← readColon text)
    return ({ parts with version := some version }, rest)
  else if key = "term" then
    if parts.term.isSome then throw .mismatch
    let (term, rest) ← readTerm (← readColon text)
    return ({ parts with term := some term }, rest)
  else
    let rest ← skipValue (← readColon text)
    return (parts, rest)

/-- Reads members up to the closing brace; `fuel` bounds their number. -/
def readParts : Nat → Parts → Text → Except ReadError (Parts × Text)
  | 0, _, _ => .error .ended
  | fuel + 1, parts, text => do
    let (key, rest) ← readKey .keep text
    let (parts, rest) ← readPart parts key rest
    match skipBlank rest with
    | [] => .error .ended
    | '}' :: rest => return (parts, rest)
    | ',' :: rest => readParts fuel parts rest
    | _ :: _ => .error .malformed

def ofParts (parts : Parts) : Except ReadError Envelope :=
  match parts.term with
  | some term => .ok ⟨parts.format.join, parts.version.join, term⟩
  | none => .error .mismatch

/-- Reads the rest of an envelope after its opening brace. -/
def readObject (text : Text) : Except ReadError (Envelope × Text) :=
  match skipBlank text with
  | '}' :: _ => .error .mismatch
  | rest => do
    let (parts, rest) ← readParts rest.length ⟨none, none, none⟩ rest
    return (← ofParts parts, rest)

/-- Reads the comma before a further element; an array that ends here is too short. -/
def readComma (text : Text) : Except ReadError Text :=
  match skipBlank text with
  | [] => .error .ended
  | ']' :: _ => .error .mismatch
  | ',' :: rest => .ok rest
  | _ :: _ => .error .malformed

/-- Reads the closing bracket; an array that goes on here is malformed. -/
def readClose (text : Text) : Except ReadError Text :=
  match skipBlank text with
  | [] => .error .ended
  | ']' :: rest => .ok rest
  | _ :: _ => .error .malformed

/-- Reads the rest of an envelope after its opening bracket. -/
def readArray (text : Text) : Except ReadError (Envelope × Text) :=
  match skipBlank text with
  | ']' :: _ => .error .mismatch
  | rest => do
    let (format, rest) ← readOptional readFormat rest
    let (version, rest) ← readOptional readVersion (← readComma rest)
    let (term, rest) ← readTerm (← readComma rest)
    return (⟨format, version, term⟩, ← readClose rest)

def read (text : Text) : Except ReadError (Envelope × Text) :=
  match skipBlank text with
  | '{' :: rest => readObject rest
  | '[' :: rest => readArray rest
  | rest => .error (mismatchAt rest)

/-- The envelope that a whole text denotes. -/
def ofText (text : Text) : Except ReadError Envelope := do
  let (envelope, rest) ← read text
  readEnd rest
  return envelope

/-- The envelope that documents are written with. -/
def ofTerm (term : Json) : Json :=
  .object [("format", .string "KAST"), ("term", term), ("version", .number (.integer 2))]

end Envelope

end KDispatch

/-! ## Documents

KAST documents in files: reading their term or the definition they hold, and writing a term.
-/

namespace KDispatch.Document

/-- The envelope of the document at a path. -/
def read (fs : FileSystem) (path : String) : Except KastError Envelope :=
  match fs.readText path with
  | .error cause => .error (.inaccessible path cause)
  | .ok text =>
    match Envelope.ofText text with
    | .error cause => .error (.invalid path cause)
    | .ok envelope => .ok envelope

/-- The node name of a term, for which an object with a string `node` is needed. -/
def nodeName (term : Json) : String := ((term.member? "node").bind Json.string?).getD "<none>"

/-- The definition that the term of the document at `path` is. -/
def definition (path : String) (term : Json) : Except KastError Definition :=
  if nodeName term = definitionNode then
    match Definition.ofJson? term with
    | some definition => .ok definition
    | none => .error (.invalid path .mismatch)
  else .error (.unexpectedNode path (nodeName term))

/-- The definition in the document at a path. -/
def readDefinition (fs : FileSystem) (path : String) : Except KastError Definition :=
  match read fs path with
  | .error e => .error e
  | .ok envelope => definition path envelope.term

/-- Writes a term in its envelope. -/
def write (fs : FileSystem) (path : String) (term : Json) : Except SystemError FileSystem :=
  fs.write path (Utf8.encode (Envelope.ofTerm term).text)

end KDispatch.Document
