import KDispatch.Shell.Extended.Arithmetic
import KDispatch.Shell.Extended.Pattern

/-!
The values that expansions begin with, and what can be done with them without expanding further words.
-/

namespace KDispatch.Shell.Extended

/-- What holds the value of an expansion, with subscripts expanded. -/
inductive Holder where
  | parameter (name : String)
  | element (name : String) (subscript : Text)
  | all (name : String) (joined : Bool)

/-- The value of an expansion. -/
inductive Value where
  | missing
  | one (text : Text)
  | many (joined : Bool) (values : List Text)

namespace Value

/-- Changes every text of a value. -/
def map (f : Text → Text) : Value → Value
  | .missing => .missing
  | .one text => .one (f text)
  | .many joined values => .many joined (values.map f)

/-- Whether the value counts as missing. -/
def isMissing (orEmpty : Bool) : Value → Bool
  | .missing => true
  | .one text => orEmpty && text.isEmpty
  | .many _ [] => true
  | .many _ values => orEmpty && ([' '].intercalate values).isEmpty

/-- All of it as one text. -/
def text : Value → Text
  | .missing => []
  | .one text => text
  | .many _ values => [' '].intercalate values

end Value

namespace Holder

/-- The name of a holder, as messages show it. -/
def shown : Holder → Text
  | .parameter name => name.toList
  | .element name subscript => name.toList ++ '[' :: subscript ++ [']']
  | .all "@" joined => if joined then ['*'] else ['@']
  | .all name joined => name.toList ++ (if joined then "[*]" else "[@]").toList

/-- The holder that a text names. -/
def ofText? (text : Text) : Option Holder :=
  let name := text.takeWhile isNameChar
  match text with
  | [] => none
  | ['@'] => some (.all "@" false)
  | ['*'] => some (.all "@" true)
  | [c] => if isSpecialName c || isNameStart c then some (.parameter (String.ofList [c])) else none
  | _ =>
    if text.all Char.isDigit then some (.parameter (String.ofList text))
    else if !isName name then none
    else
      match text.drop name.length with
      | [] => some (.parameter (String.ofList name))
      | '[' :: rest =>
        match Arithmetic.subscript? rest 0 with
        | some (['@'], []) => some (.all (String.ofList name) false)
        | some (['*'], []) => some (.all (String.ofList name) true)
        | some (subscript, []) => some (.element (String.ofList name) subscript)
        | _ => none
      | _ => none

/-- The holder after references have been followed. -/
def resolved (holder : Holder) : Command Holder := do
  match holder with
  | .parameter name =>
    let target ← Command.target name
    if target = name then return holder
    else return (ofText? target.toList).getD holder
  | .element name subscript => return .element (← Command.target name) subscript
  | .all name joined =>
    if name = "@" then return holder else return .all (← Command.target name) joined

/-- The value of a parameter that is not a variable. -/
def special? (s : Shell) (name : String) : Option (Option Text) :=
  match name with
  | "?" => some (some (Number.decimal s.status))
  | "#" => some (some (Number.decimal s.arguments.length))
  | "$" => some (some (Number.decimal s.root))
  | "!" => some (s.lastJob.map fun (n : Nat) => Number.decimal n)
  | "-" => some (some (Command.letters s))
  | _ =>
    match name.toList with
    | c :: _ =>
      if c.isDigit then
        match Number.integer? (some 10) name.toList with
        | some n => some (if n = 0 then some s.name else s.arguments[n.toNat - 1]?)
        | none => some none
      else none
    | [] => some none

/-- The key of an element that is read; a wrong one has been reported. -/
def readKey? (name : String) (content : Content) (subscript : Text) : Command (Option Key) := do
  match content with
  | .keyed _ _ => return some (.name subscript)
  | _ =>
    let n ← Arithmetic.evaluate subscript
    let index := if n < 0 then (content.nextIndex : Int) + n else n
    if index < 0 then
      Command.complain (name.toList ++ ": bad array subscript".toList)
      return none
    else return some (.index index.toNat)

/-- The value that is held. -/
def value (holder : Holder) : Command Value := do
  match ← holder.resolved with
  | .parameter name =>
    match special? (← get) name with
    | some (some text) => return .one text
    | some none => return .missing
    | none =>
      match (← Command.binding? name).bind (·.content.value?) with
      | some text => return .one text
      | none => return .missing
  | .element name subscript =>
    let content := ((← Command.binding? name).map (·.content)).getD (.single none)
    match ← readKey? name content subscript with
    | none => return .missing
    | some key =>
      match content.get? key with
      | some text => return .one text
      | none => return .missing
  | .all "@" joined => return .many joined (← get).arguments
  | .all name joined =>
    match ← Command.binding? name with
    | some entry => return .many joined entry.content.values
    | none => return .many joined []

/-- The variable that holds the value, if one does. -/
def holding? (holder : Holder) : Command (Option (String × Variable)) := do
  let name := match ← holder.resolved with
    | .parameter name | .element name _ | .all name _ => name
  return (← Command.binding? name).map fun entry => (name, entry)

end Holder

namespace Value

/-- The part of a text from an offset on, of a length; a negative one counts from the end. -/
def slice (text : Text) (offset : Int) (length : Option Int) : Except Int Text :=
  let size : Int := text.length
  let start := if offset < 0 then size + offset else offset
  if start < 0 ∨ size < start then .ok []
  else
    match length with
    | none => .ok (text.drop start.toNat)
    | some length =>
      if length < 0 then
        let stop := size + length
        if stop < start then .error length
        else .ok ((text.take stop.toNat).drop start.toNat)
      else .ok ((text.drop start.toNat).take length.toNat)

/-- Some values of a list from a place on. -/
def sliceList (values : List Text) (length : Option Int) : Except Int (List Text) :=
  match length with
  | none => .ok values
  | some length => if length < 0 then .error length else .ok (values.take length.toNat)

/-- The values that are held from an offset on. -/
def sliced (holder : Holder) (values : List Text) (offset : Int) (length : Option Int) :
    Command (Except Int (List Text)) := do
  match holder with
  | .all "@" _ =>
    let all := (← get).name :: values
    let start := if offset < 0 then (all.length : Int) + offset else offset
    if start < 0 then return .ok []
    else if start = 0 then return sliceList all length
    else return sliceList (values.drop (start.toNat - 1)) length
  | _ =>
    match ← holder.holding? with
    | some (_, ⟨.indexed given elements, _⟩) =>
      let start := if offset < 0 then ((Content.indexed given elements).nextIndex : Int) + offset else offset
      if start < 0 then return .ok []
      else return sliceList ((elements.filter fun e => start ≤ e.1).map (·.2)) length
    | _ =>
      let start := if offset < 0 then (values.length : Int) + offset else offset
      if start < 0 then return .ok []
      else return sliceList (values.drop start.toNat) length

/-- A text whose first letter or whose letters are changed if a pattern matches them. -/
def recase (casing : Casing) (all : Bool) (pattern : Option TextPattern) (text : Text) : Text :=
  let change (c : Char) : Char :=
    if (pattern.map (·.isMatch [c])).getD true then
      match casing with
      | .upper => c.toUpper
      | .lower => c.toLower
      | .toggled => if c.isUpper then c.toLower else c.toUpper
    else c
  match text with
  | [] => []
  | c :: rest => change c :: (if all then rest.map change else rest)

/-- An assignment that makes a variable again with the given value. -/
def assignmentText (name : String) (entry : Variable) (value : Option Text) : Text :=
  let letters := entry.letters
  let start := if letters.isEmpty then [] else "declare -".toList ++ letters ++ [' ']
  match value with
  | some text => start ++ name.toList ++ '=' :: Quoting.reusable text
  | none => if letters.isEmpty then [] else start ++ name.toList

/-- What a letter after `@` makes of a value. -/
def transform (letter : Char) (holder : Holder) (value : Value) : Command Value := do
  let entry ← holder.holding?
  match letter with
  | 'U' => return value.map (·.map Char.toUpper)
  | 'L' => return value.map (·.map Char.toLower)
  | 'u' => return value.map (recase .upper false none)
  | 'Q' => return value.map Quoting.reusable
  | 'E' => return value.map fun text => unescape (text.length + 1) text
  | 'P' => return value
  | 'a' =>
    match entry, value with
    | some (_, entry), .many joined values => return .many joined (values.map fun _ => entry.letters)
    | some (_, entry), _ => return .one entry.letters
    | none, _ => return .missing
  | 'A' =>
    match entry, value with
    | some (name, entry), .many _ _ =>
      if entry.content.isList || entry.content.isTable then return .one (entry.declaration name)
      else return .one (assignmentText name entry entry.content.value?)
    | some (name, entry), .one text => return .one (assignmentText name entry (some text))
    | some (name, entry), .missing => return .one (assignmentText name entry none)
    | none, .many _ values =>
      return .one ("set -- ".toList ++ [' '].intercalate (values.map Quoting.reusable))
    | none, _ => return .missing
  | 'K' | 'k' =>
    match entry, value with
    | some (_, ⟨content, _⟩), .many joined _ =>
      if letter = 'k' then
        return .many joined (content.entries.flatMap fun (k, value) => [k.text, value])
      else
        let pairs := [' '].intercalate (content.entries.map fun (k, value) =>
          (match k with
            | .index n => Number.decimal n
            | .name text => Quoting.key text) ++ ' ' :: Quoting.declared value)
        return .one (if content.isTable && !pairs.isEmpty then pairs ++ [' '] else pairs)
    | _, value => return value.map Quoting.reusable
  | _ => return value

end Value

end KDispatch.Shell.Extended
