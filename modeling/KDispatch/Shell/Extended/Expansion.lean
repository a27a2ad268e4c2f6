import KDispatch.Shell.Extended.Pattern
import KDispatch.Shell.Extended.Value
import KDispatch.Shell.Extended.Words

/-!
What words become: braces are opened, parameters, the output of commands and arithmetic are put in, what
is not quoted is split into fields, and fields that are patterns become the paths they match. Commands
inside words are run by the functions that are handed in.
-/

namespace KDispatch.Shell.Extended

/-- How commands inside words are run. -/
structure Runner where
  output : Text → Command Text
  /-- Gives the path of a pipe to commands. -/
  process : (reads : Bool) → Text → Command Text

/-- What a word is expanded for. -/
structure Purpose where
  /-- Whether the values of a list become fields of their own. -/
  fields : Bool
  /-- Whether all of it stands between double quotes. -/
  quoted : Bool
  /-- Whether unquoted text is split like values, as it stands in place of one. -/
  inPlace : Bool

namespace Purpose

def words : Purpose := ⟨true, false, false⟩

def single : Purpose := ⟨false, false, false⟩

/-- For a text that is taken as if it stood between double quotes. -/
def literal : Purpose := ⟨false, true, false⟩

end Purpose

/-- Where a tilde stands for a directory. -/
inductive Tilde where
  | never
  | atStart
  /-- At the start of an assigned value, and after colons in it. -/
  | inValue
  deriving DecidableEq

namespace Expansion

/-- The directory that a tilde with a name stands for. -/
def home? (name : Text) : Command (Option Text) := do
  let value (name : String) : Command (Option Text) :=
    return (← Command.binding? name).bind (·.content.value?)
  match name with
  | [] => return some ((← value "HOME").getD "/root".toList)
  | ['+'] => value "PWD"
  | ['-'] => value "OLDPWD"
  | _ =>
    match ← Command.task (Task.readFile "/etc/passwd".toList) with
    | .ok users =>
      return (users.splitOn '\n').findSome? fun line =>
        match line.splitOn ':' with
        | user :: _ :: _ :: _ :: _ :: directory :: _ => if user = name then some directory else none
        | _ => none
    | .error _ => return none

/-- Puts directories in for tildes; `here` tells whether one may stand at the start of the text, and
`last` whether the word ends with the text. -/
def tildesIn (colons last : Bool) : (fuel : Nat) → (here : Bool) → Text → Command (List Part)
  | 0, _, text => return [.text false text]
  | _ + 1, _, [] => return []
  | fuel + 1, here, c :: rest => do
    let ends (c : Char) : Bool := c = '/' || (colons && c = ':')
    if here && c = '~' then
      let name := rest.takeWhile (!ends ·)
      let after := rest.drop name.length
      let home ← if after.isEmpty && !last then pure none else home? name
      match home with
      | some directory => return .text true directory :: (← tildesIn colons last fuel false after)
      | none => return .text false ('~' :: name) :: (← tildesIn colons last fuel false after)
    else
      return .text false [c] :: (← tildesIn colons last fuel (colons && c = ':') rest)

/-- Puts directories in for the tildes of a word. -/
def tildes (tilde : Tilde) (parts : List Part) : Command (List Part) := do
  let any := parts.any fun
    | .text false content => content.contains '~'
    | _ => false
  if !any || tilde = .never then return parts
  else
    let colons := tilde = .inValue
    let rec later (colons : Bool) : List Part → Command (List Part)
      | [] => return []
      | .text false content :: more => do
        if colons && content.contains '~' then
          let first ← tildesIn true more.isEmpty (content.length + 1) false content
          return first ++ (← later colons more)
        else return .text false content :: (← later colons more)
      | part :: more => return part :: (← later colons more)
    match parts with
    | .text false content :: more =>
      let first ← tildesIn colons more.isEmpty (content.length + 1) true content
      return Part.merge (first ++ (← later colons more))
    | parts => return Part.merge (← later colons parts)

/-- The tildes of a word that may look like an assignment. -/
def argumentTildes (parts : List Part) : Command (List Part) := do
  match parts with
  | .text false content :: more =>
    match assignmentHead? content with
    | some (_, length) =>
      let start : Part := .text false (content.take length)
      let rest := content.drop length
      let value ← tildes .inValue (if rest.isEmpty then more else .text false rest :: more)
      return Part.merge (start :: value)
    | none => tildes .atStart parts
  | parts => tildes .atStart parts

/-- The name that a message about a parameter begins with. -/
def shownName (source : Text) (holder : Holder) : Text :=
  match source with
  | '$' :: '\x7b' :: _ => holder.shown
  | '$' :: c :: _ => if isNameStart c then holder.shown else source
  | _ => holder.shown

/-- Refuses a parameter that is not set if the shell is strict. -/
def checkSet (source : Text) (holder : Holder) (value : Value) : Command Unit := do
  if ← Command.hasOption "nounset" then
    match value with
    | .missing => Command.abort (shownName source holder ++ ": unbound variable".toList)
    | _ => pure ()

/-- Refuses to count what is not set if the shell is strict: elements are counted only in lists and
tables. -/
def checkCounted (source : Text) (holder : Holder) (value : Value) : Command Unit := do
  let check (name : String) : Command Unit := do
    if ← Command.hasOption "nounset" then
      let content : Content := ((← Command.binding? name).getD .unset).content
      match content with
      | .indexed true _ | .keyed true _ => return
      | _ => Command.fail (name.toList ++ ": unbound variable".toList)
  match holder with
  | .parameter _ => checkSet source holder value
  | .element name _ => check name
  | .all name _ => if name = "@" then return else check name

/-- The glyphs of a value. -/
def valueGlyphs (purpose : Purpose) : Value → Command (List Glyph)
  | .missing => return []
  | .one text => return Glyph.ofText purpose.quoted (!purpose.quoted) text
  | .many joined values => do
    let quoted := purpose.quoted
    if joined && (quoted || !purpose.fields) then
      let joiner ← Command.joiner
      return Glyph.ofText quoted (!quoted) (joiner.intercalate values)
    else if !purpose.fields then
      return Glyph.ofText quoted (!quoted) ([' '].intercalate values)
    else if quoted then
      if values.isEmpty then return [.nothing]
      else return Glyph.spread (values.map fun text => .mark :: Glyph.ofText true false text)
    else return Glyph.spread (values.map (Glyph.ofText false true))

/-- How patterns are read and matched. -/
def patternMode : Command PatternMode := do
  return ⟨← Command.hasSetting "extglob", ← Command.hasSetting "nocasematch"⟩

/-- The text that a match is replaced by: an unquoted ampersand stands for the match. -/
def replacementText (special : Bool) (matched : Text) : List PatternChar → Text
  | [] => []
  | ⟨'\\', false⟩ :: ⟨'&', false⟩ :: rest =>
    if special then '&' :: replacementText special matched rest
    else '\\' :: '&' :: replacementText special matched rest
  | ⟨c, quoted⟩ :: rest =>
    if special && c = '&' && !quoted then matched ++ replacementText special matched rest
    else c :: replacementText special matched rest

/-- Sets what holds a value. -/
def assignHolder (source : Text) (holder : Holder) (value : Text) : Command Unit := do
  let stored ← match ← holder.resolved with
    | .parameter name =>
      if isName name.toList then Command.store name none value
      else Command.fail ('$' :: name.toList ++ ": cannot assign in this way".toList)
    | .element name subscript =>
      let content := ((← Command.binding? name).map (·.content)).getD (.single none)
      match ← Holder.readKey? name content subscript with
      | some key => Command.store name (some key) value
      | none => pure false
    | .all _ _ => Command.fail (source ++ ": cannot assign in this way".toList)
  if !stored then
    Command.setStatus 1
    throw .discard

/-- The names of the variables that begin with a text. -/
def namesWith (stem : String) : Command (List Text) := do
  let names := (Command.namesInUse (← get)).filterMap fun name =>
    if stem.toList.isPrefixOf name.toList then some name.toList else none
  return names

/-- The output of commands without the line ends at its end. -/
def withoutLineEnds (text : Text) : Text :=
  (text.reverse.dropWhile (· = '\n')).reverse.filter (· ≠ '\x00')

/-- Whether a fault of a slice has been reported. -/
def sliceFault {α : Type} (length : Int) : Command α :=
  Command.fail (Number.decimal length ++ ": substring expression < 0".toList)

mutual

/-- The glyphs of parts whose tildes have been replaced. -/
def glyphs (runner : Runner) : (fuel : Nat) → Purpose → List Part → Command (List Glyph)
  | 0, _, _ => return []
  | _ + 1, _, [] => return []
  | fuel + 1, purpose, part :: parts => do
    let quoted := purpose.quoted
    let first ← match part with
      | .text isQuoted content =>
        pure (Glyph.ofText (quoted || isQuoted) (purpose.inPlace && !quoted && !isQuoted) content)
      | .quotes inner => do
        let inner ← glyphs runner fuel { purpose with quoted := true } inner
        pure (Glyph.quotes inner)
      | .parameter source indirect subject use => expansion runner fuel purpose source indirect subject use
      | .output commands => do
        let text ← runner.output commands
        pure (Glyph.ofText quoted (!quoted) (withoutLineEnds text))
      | .arithmetic expression => do
        let inner ← glyphs runner fuel .literal expression
        let n ← Arithmetic.evaluate (Glyph.text inner)
        pure (Glyph.ofText quoted (!quoted) (Number.decimal n))
      | .process reads commands => do
        let path ← runner.process reads commands
        pure (Glyph.ofText true false path)
    return first ++ (← glyphs runner fuel purpose parts)

/-- What holds the value of a subject. -/
def holder (runner : Runner) : (fuel : Nat) → Subject → Command Holder
  | 0, _ => return .parameter ""
  | fuel + 1, subject => do
    match subject with
    | .parameter name => return .parameter name
    | .element name subscript =>
      return .element name (Glyph.text (← glyphs runner fuel .single subscript))
    | .all name joined => return .all name joined
    | .names stem _ => return .parameter stem

/-- The glyphs of an expansion. -/
def expansion (runner : Runner) : (fuel : Nat) → Purpose → (source : Text) → (indirect : Bool) →
    Subject → Use → Command (List Glyph)
  | 0, _, _, _, _, _ => return []
  | fuel + 1, purpose, source, indirect, subject, use => do
    let malformed {α : Type} : Command α := Command.fail (source ++ ": bad substitution".toList)
    match subject, indirect, use with
    | _, _, .malformed => malformed
    | .element _ [], _, _ => malformed
    | .names stem joined, _, _ => valueGlyphs purpose (.many joined (← namesWith stem))
    | .all name joined, true, .value =>
      if name = "@" then malformed
      else
        let entry ← Command.binding? (← Command.target name)
        let keys := (entry.map fun e => e.content.entries.map fun (k, _) => k.text).getD []
        valueGlyphs purpose (.many joined keys)
    | _, _, _ =>
      let direct ← holder runner fuel subject
      let isReference ← match direct with
        | .parameter name => do
          pure (((Command.visible? (← get) name).map fun e => e.attributes.reference).getD false)
        | _ => pure false
      if indirect && isReference then
        match direct with
        | .parameter name => valueGlyphs purpose (.one (← Command.target name).toList)
        | _ => return []
      else
        let found ←
          if indirect then
            match ← direct.value with
            | .missing => Command.fail (direct.shown ++ ": invalid indirect expansion".toList)
            | value =>
              match Holder.ofText? value.text with
              | some found => pure found
              | none => Command.fail (value.text ++ ": invalid variable name".toList)
          else pure direct
        used runner fuel purpose source found use

/-- The glyphs of what is done with the value of a holder. -/
def used (runner : Runner) : (fuel : Nat) → Purpose → (source : Text) → Holder → Use →
    Command (List Glyph)
  | 0, _, _, _, _ => return []
  | fuel + 1, purpose, source, holder, use => do
    let pattern (parts : List Part) : Command (List PatternChar) := do
      return Glyph.pattern (← glyphs runner fuel .single (← tildes .atStart parts))
    let compiled (parts : List Part) : Command TextPattern := do
      return TextPattern.ofChars (← patternMode) (← pattern parts)
    let number (parts : List Part) : Command Int := do
      Arithmetic.evaluate (Glyph.text (← glyphs runner fuel .literal parts))
    let inPlace (word : List Part) : Command (List Glyph) := do
      let inner ← glyphs runner fuel { purpose with inPlace := true } (← tildes .atStart word)
      return inner.filter (!·.isNothing)
    let mapped (f : Text → Text) : Command (List Glyph) := do
      let value ← holder.value
      checkSet source holder value
      valueGlyphs purpose (value.map f)
    match use with
    | .malformed => return []
    | .value =>
      let value ← holder.value
      checkSet source holder value
      valueGlyphs purpose value
    | .length =>
      let value ← holder.value
      checkCounted source holder value
      let length : Nat := match value with
        | .many _ values => values.length
        | value => value.text.length
      return Glyph.ofText purpose.quoted (!purpose.quoted) (Number.decimal length)
    | .fallback kind orEmpty word =>
      let value ← holder.value
      let isMissing := value.isMissing orEmpty
      match kind, isMissing with
      | .substitute, true => inPlace word
      | .substitute, false => valueGlyphs purpose value
      | .alternative, false => inPlace word
      | .alternative, true =>
        match value with
        | .many false [] => return [.nothing]
        | _ => return []
      | .assign, false | .fail, false => valueGlyphs purpose value
      | .assign, true =>
        let text := Glyph.text (← glyphs runner fuel { purpose with fields := false } (← tildes .atStart word))
        assignHolder source holder text
        valueGlyphs purpose (← holder.value)
      | .fail, true =>
        let text := Glyph.text (← glyphs runner fuel .single (← tildes .atStart word))
        let message := if !text.isEmpty then text
          else if orEmpty then "parameter null or not set".toList
          else "parameter not set".toList
        Command.abort (holder.shown ++ ": ".toList ++ message)
    | .cut atEnd longest parts =>
      let pattern ← compiled parts
      mapped fun text => if atEnd then pattern.cutEnd longest text else pattern.cutStart longest text
    | .replace place parts replacement =>
      let pattern ← compiled parts
      let special ← Command.hasSetting "patsub_replacement"
      let chars := Glyph.pattern (← glyphs runner fuel .single (← tildes .atStart replacement))
      let new (matched : Text) : Text := replacementText special matched chars
      mapped fun text =>
        match place with
        | .first => pattern.replace false new text
        | .every => pattern.replace true new text
        | .atStart => pattern.replaceStart new text
        | .atEnd => pattern.replaceEnd new text
    | .slice offset length =>
      let value ← holder.value
      checkSet source holder value
      let outer := (← get).command
      modify fun s => { s with command := some holder.shown }
      let offset ← number offset
      let length ← match length with
        | some parts => some <$> number parts
        | none => pure none
      modify fun s => { s with command := outer }
      match value with
      | .many joined values =>
        match ← Value.sliced holder values offset length with
        | .ok values => valueGlyphs purpose (.many joined values)
        | .error length => sliceFault length
      | value =>
        match Value.slice value.text offset length with
        | .ok text => valueGlyphs purpose (.one text)
        | .error length => sliceFault length
    | .recase casing all parts =>
      let pattern ← if parts.isEmpty then pure none else some <$> compiled parts
      mapped (Value.recase casing all pattern)
    | .transform letter =>
      let value ← holder.value
      if !"aA".toList.contains letter then checkSet source holder value
      valueGlyphs purpose (← Value.transform letter holder value)

end

/-- A bound for the nesting of words. -/
def wordDepth : Nat := 1000000

/-- The glyphs of parts that are not split. -/
def singleGlyphs (runner : Runner) (tilde : Tilde) (parts : List Part) : Command (List Glyph) := do
  glyphs runner wordDepth .single (← tildes tilde parts)

/-- The text that a word becomes where it is not split. -/
def text (runner : Runner) (tilde : Tilde) (parts : List Part) : Command Text := do
  return Glyph.text (← singleGlyphs runner tilde parts)

/-- The text of a here-document. -/
def documentText (runner : Runner) (parts : List Part) : Command Text := do
  return Glyph.text (← glyphs runner wordDepth .literal parts)

/-- What a field becomes: the paths that it matches if it is a pattern and matches any. -/
def paths (field : List Glyph) : Command (List Text) := do
  let pattern := Glyph.pattern field
  let extended ← Command.hasSetting "extglob"
  let text := Glyph.text field
  let special := pattern.any fun c =>
    !c.quoted && (c.char = '*' || c.char = '?' || c.char = '[' || (extended && c.char = '('))
  if !special || (← Command.hasOption "noglob") then return [text]
  else
    let ignored := ((← Command.binding? "GLOBIGNORE").bind (·.content.value?)).getD []
    let mode : PathMode :=
      ⟨⟨extended, ← Command.hasSetting "nocaseglob"⟩,
        (← Command.hasSetting "dotglob") || !ignored.isEmpty, ← Command.hasSetting "globstar"⟩
    if !mode.isSpecial pattern then return [text]
    else
      let found := mode.paths (← get).machine.files pattern
      let ignoring := (ignored.splitOn ':').map fun part =>
        TextPattern.ofChars mode.patterns (part.map fun c => ⟨c, false⟩)
      let found :=
        if ignored.isEmpty then found else found.filter fun path => ignoring.all (!·.isMatch path)
      if !found.isEmpty then return found
      else if ← Command.hasSetting "failglob" then Command.fail ("no match: ".toList ++ text)
      else if ← Command.hasSetting "nullglob" then return []
      else return [text]

/-- The fields that glyphs become. -/
def fieldsOf (glyphs : List Glyph) : Command (List Text) := do
  let fields := Splitting.split (← Command.separators) glyphs
  let found ← fields.mapM paths
  return found.flatten

/-- The fields that a word becomes. -/
def fields (runner : Runner) (word : Word) : Command (List Text) := do
  let words := if ← Command.hasOption "braceexpand" then Braces.words word.parts else [word.parts]
  let found ← words.mapM fun parts => do
    let glyphs ← glyphs runner wordDepth .words (← argumentTildes parts)
    fieldsOf glyphs
  return found.flatten

/-- The texts that a word becomes that is an assignment. -/
def assignmentTexts (runner : Runner) (word : Word) : Command (List Text) := do
  let words := if ← Command.hasOption "braceexpand" then Braces.words word.parts else [word.parts]
  words.mapM fun parts => do
    return Glyph.text (← glyphs runner wordDepth .single (← argumentTildes parts))

/-- The pattern that a word becomes. -/
def pattern (runner : Runner) (mode : PatternMode) (parts : List Part) : Command TextPattern := do
  return TextPattern.ofChars mode (Glyph.pattern (← singleGlyphs runner .atStart parts))

end Expansion

end KDispatch.Shell.Extended

/-! ## Assignments

Assignments to variables and elements. A variable takes a text as its attributes say, and lists are made of
elements that are expanded before any of them is set.
-/

namespace KDispatch.Shell.Extended.Assigning

/-- The text that a variable or an element becomes that is assigned to. -/
def taken (attributes : Attributes) (appends : Bool) (old : Option Text) (text : Text) :
    Command Text := do
  if attributes.integer then
    let n ← Arithmetic.evaluate text
    if appends then
      let m ← Arithmetic.evaluate (old.getD [])
      return Number.decimal (Number.wrap (m + n))
    else return Number.decimal n
  else return if appends then old.getD [] ++ text else text

/-- The key of an element that is set; a wrong one has been reported, by the words it was given in. -/
def key? (shown : Text) (content : Content) (subscript : Text) : Command (Option Key) := do
  let refuse : Command (Option Key) := do
    Command.complain (shown ++ ": bad array subscript".toList)
    return none
  if subscript.isEmpty then refuse
  else
    match content with
    | .keyed _ _ => return some (.name subscript)
    | _ =>
      if subscript = ['@'] || subscript = ['*'] then refuse
      else
        let n ← Arithmetic.evaluate subscript
        let index := if n < 0 then (content.nextIndex : Int) + n else n
        if index < 0 then refuse else return some (.index index.toNat)

/-- Sets a variable or an element of it; `false` if it cannot be set, which has been reported then. -/
def put (name : String) (subscript : Option Text) (appends : Bool) (text : Text) : Command Bool := do
  let target ← Command.target name
  let (name, subscript) := match subscript, Holder.ofText? target.toList with
    | none, some (.element name subscript) => (name, some subscript)
    | subscript, _ => (target, subscript)
  let entry := (← Command.binding? name).getD .unset
  if entry.attributes.readOnly then
    Command.refuseChange name
    return false
  else
    match subscript with
    | none =>
      let old := if appends then entry.content.value? else none
      Command.store name none (← taken entry.attributes appends old text)
    | some subscript =>
      let shown := name.toList ++ '[' :: subscript ++ [']']
      match ← key? shown entry.content subscript with
      | none => return false
      | some key =>
        let old := if appends then entry.content.get? key else none
        Command.store name (some key) (← taken entry.attributes appends old text)

/-- An element of a list whose words have been expanded. -/
structure Item where
  /-- The key as it is written and as it has been expanded. -/
  key : Option (Text × Text)
  appends : Bool
  text : Text

/-- The items that elements become. -/
def items (runner : Runner) (keyed : Bool) : List Element → Command (List Item)
  | [] => return []
  | element :: elements => do
    let first : List Item ←
      match element.key with
      | some key => do
        let subscript ← Expansion.text runner .never key.parts
        let text ← Expansion.text runner .inValue element.value.parts
        let shown := Printing.element element
        pure [⟨some (shown, subscript), element.appends, text⟩]
      | none =>
        if keyed then do
          pure [⟨none, false, ← Expansion.text runner .atStart element.value.parts⟩]
        else do
          pure ((← Expansion.fields runner element.value).map fun text => ⟨none, false, text⟩)
    return first ++ (← items runner keyed elements)

/-- Items as a declaration that runs shows them. -/
def shownItems (items : List Item) : Text :=
  let one (item : Item) : Text :=
    (match item.key with
      | some (_, subscript) =>
        '[' :: Quoting.single subscript ++ (if item.appends then "]+=".toList else "]=".toList)
      | none => []) ++ Quoting.single item.text
  '(' :: [' '].intercalate (items.map one) ++ [')']

/-- Puts items without keys into a table: keys and values in turn. -/
def putPairs (attributes : Attributes) : (content : Content) → List Item → Command Content
  | content, key :: rest => do
    let text := match rest with
      | value :: _ => value.text
      | [] => []
    let text ← taken attributes false none text
    putPairs attributes (content.put (.name key.text) (Variable.recased attributes text)) (rest.drop 1)
  | content, [] => return content
termination_by _ items => items.length

/-- Puts items into a list or a table, from a place on; `false` if one could not be put there. -/
def putItems (name : String) (attributes : Attributes) : (next : Nat) → (content : Content) →
    List Item → Command Content
  | _, content, [] => return content
  | next, content, item :: items => do
    match item.key with
    | none =>
      if content.isTable then
        Command.complain (name.toList ++ ": ".toList ++ item.text ++
          ": must use subscript when assigning associative array".toList)
        putItems name attributes next content items
      else
        let text ← taken attributes false none item.text
        putItems name attributes (next + 1)
          (content.put (.index next) (Variable.recased attributes text)) items
    | some (shown, subscript) =>
      match ← key? shown content subscript with
      | none => putItems name attributes next content items
      | some key =>
        let text ← taken attributes item.appends (content.get? key) item.text
        let next := match key with
          | .index n => n + 1
          | .name _ => next
        putItems name attributes next (content.put key (Variable.recased attributes text)) items

/-- Sets a list or a table to items, or adds them to it; `false` if it cannot be changed, which has been
reported then. -/
def putList (name : String) (appends : Bool) (items : List Item) : Command Bool := do
  let name ← Command.target name
  let entry := (← Command.binding? name).getD .unset
  if entry.attributes.readOnly then
    Command.refuseChange name
    return false
  else
    let base : Content := match entry.content, appends with
      | .keyed _ elements, true => .keyed true elements
      | .keyed _ _, false => .keyed true []
      | .indexed _ elements, true => .indexed true elements
      | .single (some text), true => .indexed true [(0, text)]
      | _, _ => .indexed true []
    let attributes := entry.attributes
    let content ← match base, items.head? with
      | .keyed _ _, some ⟨none, _, _⟩ => putPairs attributes base items
      | _, _ => putItems name attributes base.nextIndex base items
    let exported := attributes.exported || (← Command.hasOption "allexport")
    Command.putVariable name ⟨content, { attributes with exported }⟩
    return true

/-- Whether a variable is a table. -/
def isTable (name : String) : Command Bool := do
  return ((← Command.binding? (← Command.target name)).map (·.content.isTable)).getD false

/-- A value as a command that runs shows it. -/
def shownValue (text : Text) : Text := if text.isEmpty then [] else Quoting.traced text

/-- Carries an assignment out, after it has been shown; `false` if it cannot be, which has been reported
then. -/
def assign (runner : Runner) (trace : Text → Command Unit) (a : Assignment) : Command Bool := do
  match a.value with
  | .list source elements =>
    trace (Printing.target a ++ '(' :: source ++ [')'])
    let items ← items runner (← isTable a.name) elements
    putList a.name a.appends items
  | .text word =>
    if a.subscript.isSome && word.source.head? = some '(' then
      trace (Printing.target a ++ word.source)
      let target := { a with appends := false }
      Command.complain ((Printing.target target).dropLast ++
        ": cannot assign list to array member".toList)
      return false
    else
      let text ← Expansion.text runner .inValue word.parts
      trace (Printing.target a ++ shownValue text)
      let subscript ← match a.subscript with
        | some word => some <$> Expansion.text runner .never word.parts
        | none => pure none
      put a.name subscript a.appends text

/-- The elements of a list that a text spells between parentheses. -/
def elements? (text : Text) : Option (List Element) :=
  match text.head?, text.getLast? with
  | some '(', some ')' =>
    let inner := Inner.ofDepth (2 * text.length + 2)
    match Reader.valueList? inner.nested (Source.ofText text 1) with
    | .ok (some (.list _ elements), _) => some elements
    | _ => none
  | _, _ => none

/-- The target of an assignment in a word: its name, its subscript, and whether it appends; and its value,
if it has one. -/
structure Target where
  name : Text
  subscript : Option Text
  appends : Bool
  value : Option Text

/-- Takes a word apart that may be an assignment. -/
def target (word : Text) : Target :=
  let (head, value) : Text × Option Text :=
    match assignmentHead? word with
    | some (_, length) => (word.take (length - 1), some (word.drop length))
    | none =>
      let head := word.takeWhile (· ≠ '=')
      match word.drop head.length with
      | '=' :: value => (head, some value)
      | _ => (head, none)
  let appends := value.isSome && head.getLast? = some '+'
  let head := if appends then head.dropLast else head
  match Holder.ofText? head with
  | some (.element name subscript) => ⟨name.toList, some subscript, appends, value⟩
  | some (.all name joined) => ⟨name.toList, some [if joined then '*' else '@'], appends, value⟩
  | _ => ⟨head, none, appends, value⟩

/-- Sets the variable or element that a text names; `none` if it names none. -/
def putNamed? (target : Text) (text : Text) : Command (Option Bool) := do
  match Holder.ofText? target with
  | some (.parameter name) =>
    if isName name.toList then return some (← put name none false text) else return none
  | some (.element name subscript) => return some (← put name (some subscript) false text)
  | some (.all name joined) =>
    return some (← put name (some [if joined then '*' else '@']) false text)
  | none => return none

end KDispatch.Shell.Extended.Assigning
