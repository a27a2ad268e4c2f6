import KDispatch.Json.Printer
import KDispatch.Ordered
import KDispatch.Text.Invisible
import KDispatch.Text.Lines

/-!
Log records: a level, a message and named fields, written as a line of text or as a JSON object.
-/

namespace KDispatch

namespace Log

inductive Level where
  | error
  | warn
  | info
  | debug
  deriving DecidableEq

def Level.name : Level → String
  | .error => "ERROR"
  | .warn => "WARN"
  | .info => "INFO"
  | .debug => "DEBUG"

/-- Whether a record comes from the main program or from a step of its work. -/
inductive Origin where
  | program
  | step
  deriving DecidableEq

inductive Value where
  | text (value : String)
  /-- Text that stands in quotation marks in a line. -/
  | quoted (value : String)
  | number (value : Int)
  deriving DecidableEq

structure Record where
  origin : Origin
  level : Level
  message : Option String
  fields : List (String × Value)
  deriving DecidableEq

namespace Value

def toJson : Value → Json
  | .text value => .string value
  | .quoted value => .string value
  | .number value => .number (.integer value)

def toText : Value → Text
  | .text value => value.toList
  | .quoted value => '"' :: (value.toList ++ ['"'])
  | .number value => Number.integerText value

end Value

namespace Record

/-- The message and the fields as one object. -/
def fieldsJson (record : Record) : Json :=
  .object (KeyMap.ofList ((match record.message with
      | some message => [("message", Json.string message)]
      | none => []) ++ record.fields.map fun (name, value) => (name, value.toJson))).entries

/-- The record as a JSON object. -/
def toJson (record : Record) : Json :=
  .object [("fields", record.fieldsJson), ("level", .string record.level.name),
    ("target", .string "krelay")]

/-- A character of a message in a line; those that could steer a terminal are spelled out. -/
def messageChar (c : Char) : Text :=
  if c = '\x07' then "\\x07".toList
  else if c = '\x08' then "\\x08".toList
  else if c = '\x0c' then "\\x0c".toList
  else if c = '\x1b' then "\\x1b".toList
  else if c = '\x7f' then "\\x7f".toList
  else if 0x80 ≤ c.toNat ∧ c.toNat ≤ 0x9F then
    '\\' :: 'u' :: '{' :: (Nat.toDigits 16 c.toNat ++ ['}'])
  else [c]

/-- The record as a line of text: level, message, and fields in their order. -/
def toText (record : Record) : Text :=
  Text.join [' '] (record.level.name.toList ::
    ((record.message.map fun message => message.toList.flatMap messageChar).toList ++
      record.fields.map fun (name, value) => name.toList ++ '=' :: value.toText))

end Record

/-- How records are written. -/
inductive Format where
  | human
  | json
  deriving DecidableEq

/-- The environment variable that selects the format. -/
def formatVariable : String := "KRELAY_LOG_FORMAT"

inductive FormatError where
  /-- The name of no format. -/
  | unsupported (name : String)
  /-- Bytes that are not UTF-8. -/
  | invalidText (bytes : Bytes)
  deriving DecidableEq

/-- ASCII capitals in lower case. -/
def lowercase (text : Text) : Text := text.map Char.toLower

/-- The format that the variable selects; blanks around the name and its case do not matter. -/
def Format.ofVariable : Option Bytes → Except FormatError Format
  | none => .ok .human
  | some bytes =>
    match Utf8.decode? bytes with
    | none => .error (.invalidText bytes)
    | some text =>
      let name := String.ofList (lowercase (Text.trim text))
      if name = "human" then .ok .human
      else if name = "json" then .ok .json
      else .error (.unsupported name)

/-- A character as it is written between quotation marks in a diagnostic. -/
def debugChar (c : Char) : Text :=
  if c = '\x00' then ['\\', '0']
  else if c = '\t' then ['\\', 't']
  else if c = '\n' then ['\\', 'n']
  else if c = '\r' then ['\\', 'r']
  else if c = '\\' ∨ c = '"' ∨ c = '\'' then ['\\', c]
  else if Text.isInvisible c ∨ Text.isExtending c then
    '\\' :: 'u' :: '{' :: (Nat.toDigits 16 c.toNat ++ ['}'])
  else [c]

/-- A byte that belongs to no character, in two hexadecimal digits. -/
def debugByte (b : UInt8) : Text :=
  ['\\', 'x', (Nat.digitChar (b.toNat / 16)).toUpper, (Nat.digitChar (b.toNat % 16)).toUpper]

def debugPiece : Utf8.Piece → Text
  | .ok c => debugChar c
  | .error bytes => bytes.flatMap debugByte

/-- Bytes between quotation marks. -/
def debugBytes (bytes : Bytes) : Text :=
  '"' :: ((Utf8.pieces bytes).flatMap debugPiece ++ ['"'])

def FormatError.message : FormatError → String
  | .unsupported name =>
    "unsupported log format `" ++ name ++ "`; expected `human` or `json`"
  | .invalidText bytes =>
    "environment variable `" ++ formatVariable ++ "` contained invalid UTF-8: " ++
      "environment variable was not valid unicode: " ++ String.ofList (debugBytes bytes)

end Log

end KDispatch
