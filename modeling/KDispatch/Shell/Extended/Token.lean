import KDispatch.Shell.Extended.Words

/-!
Reading tokens: signs, redirections, words, and assignments where they can stand. Aliases give way to
their texts, and here-documents are read at the ends of lines.
-/

namespace KDispatch.Shell.Extended

/-- The words that begin or end compound commands where a command is expected. -/
def keywords : List String :=
  ["if", "then", "else", "elif", "fi", "case", "esac", "for", "select", "while", "until", "do", "done",
    "in", "function", "time", "\x7b", "\x7d", "!", "[[", "]]", "coproc"]

/-- The keywords and signs that end a list. -/
def endsList (sign : String) : Bool :=
  [")", ";;", ";&", ";;&", "do", "done", "elif", "else", "esac", "fi", "then", "\x7d"].contains sign

/-- The commands whose arguments can be assignments. -/
def declarationCommands : List String := ["declare", "export", "local", "readonly", "typeset"]

namespace Token

/-- The token as a message names it. -/
def name : Token → Text
  | .finish => "EOF".toList
  | .lineEnd => "newline".toList
  | .redirection (some (.number n)) _ => (toString n).toList
  | .redirection (some (.stored target)) _ => '\x7b' :: target ++ ['\x7d']
  | .redirection none sign | .operator sign => sign.toList
  | .word content => content.source
  | .assignment a => Printing.assignment a
  | .arithmetic _ => "((".toList

def isSign (sign : String) : Token → Bool
  | .operator s => s = sign
  | .word content => content.source = sign.toList
  | _ => false

def isFinish : Token → Bool
  | .finish => true
  | _ => false

/-- Whether a token ends a list where a command could begin. -/
def isListEnd : Token → Bool
  | .operator s => endsList s
  | .word content => endsList (String.ofList content.source)
  | _ => false

end Token

/-- Whether a list may be empty, and whether a line end finishes it. -/
inductive ListKind where
  /-- A complete command, which ends with its line. -/
  | line
  /-- The inside of a compound command. -/
  | filled
  | maybeEmpty
  deriving DecidableEq

/-- Where a token stands. -/
inductive TokenPlace where
  | inside
  /-- Where a command can begin. -/
  | atStart
  /-- Among the assignments before a command. -/
  | amongAssignments
  /-- Among the arguments of a command that takes assignments. -/
  | amongDeclarations
  deriving DecidableEq

/-- How the parts of compound commands are read. -/
structure Inner where
  list : ListKind → Reader Script
  command : Reader Script

namespace Reader

/-- Puts a token back. -/
def putBack (token : Token) : Reader Unit := modify fun s => { s with next := some token }

/-- Goes past blanks and comments. -/
def skipBlanks : (fuel : Nat) → Reader Unit
  | 0 => return
  | fuel + 1 => do
    match ← peek? with
    | some ' ' | some '\t' =>
      skip
      skipBlanks fuel
    | some '#' =>
      modify fun s =>
        let comment := s.rest.takeWhile (· ≠ '\n')
        { s with rest := s.rest.drop comment.length, passed := comment.reverse ++ s.passed }
      skipBlanks fuel
    | _ => return

/-- The signs that redirections begin with, longer ones before those that they begin with. -/
def redirectionSigns : List String :=
  ["&>>", "&>", "<<<", "<<-", "<<", "<&", "<>", "<", ">>", ">&", ">|", ">"]

/-- The signs between commands, longer ones before those that they begin with. -/
def operatorSigns : List String := [";;&", ";;", ";&", ";", "&&", "&", "||", "|&", "|", "(", ")"]

/-- Reads one of some signs. -/
def sign? : List String → Reader (Option String)
  | [] => return none
  | sign :: signs => do
    if ← startsWith sign then
      for _ in sign.toList do skip
      return some sign
    else sign? signs

/-- Whether a character may belong to the subscript of a variable between braces. -/
def isSubscriptChar (c : Char) : Bool := !" \t\n\x7d<>|&;()".toList.contains c

/-- Whether a text is a subscript between brackets. -/
def isSubscript (text : Text) : Bool :=
  2 < text.length && text.head? = some '[' && text.getLast? = some ']'

/-- The descriptor before a redirection: a number or a name between braces. -/
def handle? : Reader (Option Handle) := attempt do
  let beforeRedirection : Reader Bool := do
    let c ← peek?
    return c = some '<' || c = some '>'
  match ← peekRaw? with
  | some c =>
    if c.isDigit then
      let digits ← takeWhile Char.isDigit (← fuel)
      if ← beforeRedirection then
        return some (.number (digits.foldl (fun n d => n * 10 + (d.toNat - '0'.toNat)) 0))
      else return none
    else if c = '\x7b' then
      skip
      let name ← takeWhile isNameChar (← fuel)
      let subscript ← takeWhile isSubscriptChar (← fuel)
      let isTarget := isName name && (subscript.isEmpty || isSubscript subscript)
      if isTarget && (← skipIf '\x7d') then
        if ← beforeRedirection then return some (.stored (name ++ subscript)) else return none
      else return none
    else return none
  | none => return none

/-- Keeps the line in mind on which a token ends. -/
def mark : Reader Unit := do
  let place ← currentLine
  modify fun s => { s with place }

/-- An arithmetic command, unless there is a command in parentheses. -/
def arithmeticCommand? (nested : NestedReader) : Reader (Option Word) := do
  let line := (← get).line
  attempt do
    if ← startsWith "((" then
      skip
      skip
      let expression ← word nested (.arithmetic (.outside ['('] [')'] [')']))
      if ← skipIf ')' then
        if ← skipIf ')' then return some expression
        else if (← peekRaw?).isNone then unclosed line [')']
        else return none
      else unclosed line [')']
    else return none

/-- The line that a text ends in that has ended too early. -/
def endLine : Reader Nat := do
  let s ← get
  return if s.passed.isEmpty then s.line else s.line + 1

/-- Fails at a token that has no place where it stands. -/
def unexpected {α : Type} (token : Token) : Reader α := do
  let s ← get
  if token.isFinish then
    let line ← endLine
    if s.nested then unclosed line [')']
    else failWith [(line, "syntax error: unexpected end of file".toList)]
  else
    failWith
      [(s.place.number, "syntax error near unexpected token ".toList ++ marked token.name),
        (s.place.number, marked s.place.text)]

/-- An element of a list of values, which may begin with a key. -/
def element (nested : NestedReader) : Reader Element := do
  let key ← attempt do
    if ← skipIf '[' then
      let key ← word nested .subscript
      if ← skipIf ']' then
        let appends ← skipIf '+'
        if ← skipIf '=' then return some (key, appends) else return none
      else return none
    else return none
  let value ← word nested .plain
  match key with
  | some (key, appends) => return ⟨some key, appends, value⟩
  | none => return ⟨none, false, value⟩

/-- The elements up to the parenthesis that closes a list of values. -/
def elements (nested : NestedReader) (line : Nat) : (fuel : Nat) → Reader (List Element)
  | 0 => return []
  | fuel + 1 => do
    skipBlanks (2 * (← Reader.fuel))
    match ← peek? with
    | none => unclosed line [')']
    | some ')' =>
      skip
      return []
    | some '\n' =>
      skip
      elements nested line fuel
    | some c =>
      let isProcess := (← startsWith "<(") || (← startsWith ">(")
      if endsWord c && !isProcess then
        mark
        match ← sign? (redirectionSigns ++ operatorSigns) with
        | some sign =>
          mark
          unexpected (.operator sign)
        | none => unexpected .lineEnd
      else
        let first ← element nested
        return first :: (← elements nested line fuel)

/-- A list of values between parentheses, unless the word goes on after it. -/
def valueList? (nested : NestedReader) : Reader (Option Assigned) := do
  let line := (← get).line
  attempt do
    if ← skipIf '(' then
      let outer ← get
      let list ← tryCatch (elements nested line (2 * (← fuel))) fun e =>
        throw { e with status := 1 }
      modify fun s => { s with seen := outer.seen }
      let source := [' '].intercalate (list.map Printing.element)
      let ended := match ← peek? with
        | some c => endsWord c
        | none => true
      return if ended then some (.list source list) else none
    else return none

/-- The name, the subscript and the sign of an assignment. -/
def assignmentTarget? (nested : NestedReader) : Reader (Option (String × Option Word × Bool)) :=
  attempt do
    let name ← takeWhile isNameChar (← fuel)
    if !isName name then return none
    else
      let line := (← get).line
      let subscript ←
        if ← skipIf '[' then
          let subscript ← word nested .subscript
          close ']' line
          pure (some subscript)
        else pure none
      let appends ← skipIf '+'
      if ← skipIf '=' then return some (String.ofList name, subscript, appends) else return none

/-- An assignment; with `listed` only one of a list of values. -/
def assignment? (nested : NestedReader) (listed : Bool) : Reader (Option Assignment) := attempt do
  skipBlanks (2 * (← fuel))
  match ← assignmentTarget? nested with
  | none => return none
  | some (name, subscript, appends) =>
    let list ← if subscript.isNone then valueList? nested else pure none
    match list with
    | some list =>
      mark
      return some ⟨name, none, appends, list⟩
    | none =>
      if listed then return none
      else if ← skipIf '(' then
        let rest ← word nested ⟨false, true, true, false, .outside ['('] [')'] [')', '\n']⟩
        let _ ← skipIf ')'
        let after ← word nested .plain
        mark
        return some ⟨name, subscript, appends, .text
          ⟨'(' :: rest.source ++ ')' :: after.source,
            .text false ['('] :: rest.parts ++ .text false [')'] :: after.parts⟩⟩
      else
        let value ← word nested .plain
        mark
        return some ⟨name, subscript, appends, .text value⟩

/-- Reads a token as it stands in the text. -/
def rawToken (nested : NestedReader) (position : TokenPlace) : Reader Token := do
  skipBlanks (2 * (← fuel))
  match ← peek? with
  | none =>
    mark
    documents nested
    return .finish
  | some '\n' =>
    mark
    skip
    documents nested
    return .lineEnd
  | some _ =>
    let handle ← handle?
    let isProcess := (← startsWith "<(") || (← startsWith ">(")
    let token ←
      match ← (if isProcess then pure none else sign? redirectionSigns) with
      | some sign => pure (Token.redirection handle sign)
      | none =>
        match ← (if position = .atStart then arithmeticCommand? nested else pure none) with
        | some expression => pure (Token.arithmetic expression)
        | none =>
          match ← sign? operatorSigns with
          | some sign => pure (Token.operator sign)
          | none =>
            match ← (if position = .inside then pure none
              else assignment? nested (position = .amongDeclarations)) with
            | some assignment => pure (Token.assignment assignment)
            | none => pure (Token.word (← word nested .plain))
    mark
    return token

/-- Reads the next token, or the one that has been put back. -/
def token (nested : NestedReader) : Reader Token := do
  match (← get).next with
  | some token =>
    modify fun s => { s with next := none }
    return token
  | none => rawToken nested .inside

/-- The text that a word stands for as an alias, unless it has just come out of that alias. -/
def aliasText? (name : Text) : Reader (Option Text) := do
  let s ← get
  let isOpen := s.replaced.any fun (other, behind) => other = name && behind < s.rest.length
  return if isOpen then none else s.aliases.lookup name

/-- Reads the next token where a command may begin; aliases give way to their texts. -/
def commandToken (nested : NestedReader) : (fuel : Nat) → Reader Token
  | 0 => token nested
  | fuel + 1 => do
    match (← get).next with
    | some token =>
      modify fun s => { s with next := none }
      return token
    | none =>
      match ← rawToken nested .atStart with
      | .word word =>
        if keywords.contains (String.ofList word.source) then return .word word
        else
          match ← (match word.plain? with
            | some name => aliasText? name
            | none => return none) with
          | some text =>
            modify fun s =>
              { s with
                rest := text ++ s.rest
                replaced := (word.source, s.rest.length) :: s.replaced }
            commandToken nested fuel
          | none => return .word word
      | token => return token

/-- Reads tokens up to the next one that is no line end. -/
def afterLines (nested : NestedReader) : (fuel : Nat) → Reader Token
  | 0 => return .finish
  | fuel + 1 => do
    match ← commandToken nested (fuel + 1) with
    | .lineEnd => afterLines nested fuel
    | token => return token

/-- Reads the next token on this line or a later one. -/
def tokenAfterLines (nested : NestedReader) : Reader Token := do
  afterLines nested (2 * (← fuel))

/-- Reads a token that has to be the given sign. -/
def expect (nested : NestedReader) (sign : String) : Reader Unit := do
  let token ← token nested
  if token.isSign sign then return else unexpected token

/-- Reads a token on this line or a later one that has to be the given sign. -/
def expectAfterLines (nested : NestedReader) (sign : String) : Reader Unit := do
  let token ← tokenAfterLines nested
  if token.isSign sign then return else unexpected token

end Reader

namespace Inner

/-- The commands inside words, as a text. -/
def nested (inner : Inner) : NestedReader where
  commands := do
    let script ← inner.list .maybeEmpty
    let token ← modifyGet fun s => (s.next.getD .finish, { s with next := none })
    if token.isSign ")" then
      let documents := (← get).documents
      return script.text fun n => documents.lookup n
    else Reader.unexpected token

end Inner

end KDispatch.Shell.Extended
