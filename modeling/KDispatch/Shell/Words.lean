import KDispatch.Shell.Syntax

/-!
Reading words: texts, quotes and expansions up to the end of the word or of the quotes or brackets
that a text stands in. Commands inside a word are read by the reader that is handed in.
-/

namespace KDispatch.Shell

/-- Where a text stands, which decides what ends it and what is special in it. -/
inductive Context where
  /-- Outside all quotes. -/
  | plain
  /-- The end mark of a here-document, in which nothing is expanded. -/
  | endMark
  /-- Between double quotes, which may be inside the braces of a parameter. -/
  | quoted (inBraces : Bool)
  | document
  /-- In the braces of a parameter outside quotes. -/
  | braces
  /-- In the braces of a parameter inside quotes; `inner` tells whether quotes are open in them. -/
  | quotedBraces (inner : Bool) (inDocument : Bool)
  /-- In an arithmetic expression with brackets open in it. -/
  | arithmetic (depth : Nat)

namespace Context

def isQuoted : Context → Bool
  | .plain | .endMark | .braces => false
  | .quoted _ | .document | .quotedBraces _ _ | .arithmetic _ => true

/-- The context inside braces for words, which stay quoted if the braces are. -/
def inBraces : Context → Context
  | .plain | .endMark | .braces => .braces
  | .document => .quotedBraces false true
  | .quotedBraces _ inDocument => .quotedBraces false inDocument
  | .quoted _ | .arithmetic _ => .quotedBraces false false

end Context

def isBlank (c : Char) : Bool := c = ' ' || c = '\t'

/-- The characters that end an unquoted word. -/
def endsWord (c : Char) : Bool := "\n \t;&|()<>".toList.contains c

/-- The parameters with names of one character that is no letter. -/
def isSpecialName (c : Char) : Bool := c.isDigit || "@*#?$!-".toList.contains c

/-- Whether a backslash takes the meaning from a character. -/
def isEscapable (context : Context) (c : Char) : Bool :=
  match context with
  | .plain | .endMark | .braces => true
  | .document => c = '\\' || c.toNat = 0x60 || c = '$'
  | .quoted false | .arithmetic _ => c = '\\' || c.toNat = 0x60 || c = '$' || c = '"'
  | .quoted true | .quotedBraces _ _ =>
    c = '\\' || c.toNat = 0x60 || c = '$' || c = '"' || c = '\x7d'

/-- How commands inside a word are read. -/
structure NestedReader where
  /-- Up to the bracket that closes them. -/
  inBrackets : Reader Script
  /-- Up to the end of the text. -/
  whole : Reader Script

namespace Reader

/-- Text up to the next single quote. -/
def singleQuoted : (fuel : Nat) → Reader Text
  | 0 => fail "Unterminated quoted string"
  | fuel + 1 => do
    match ← nextRaw? with
    | some '\'' => return []
    | some c => return c :: (← singleQuoted fuel)
    | none => fail "Unterminated quoted string"

/-- Text up to the next backquote, which backslashes hide. -/
def backquoted (quoted : Bool) : (fuel : Nat) → Reader Text
  | 0 => fail "EOF in backquote substitution"
  | fuel + 1 => do
    match ← next? with
    | none => fail "EOF in backquote substitution"
    | some '\\' =>
      match ← nextRaw? with
      | none => fail "EOF in backquote substitution"
      | some c =>
        let rest ← backquoted quoted fuel
        if c = '\\' || c.toNat = 0x60 || c = '$' || (quoted && c = '"') then return c :: rest
        else return '\\' :: c :: rest
    | some c => if c.toNat = 0x60 then return [] else return c :: (← backquoted quoted fuel)

/-- Reads a text by itself, as a source that begins in the given line. -/
def within {α : Type} (text : Text) (line : Nat) (read : Reader α) : Reader α := do
  let outer ← get
  set { outer with rest := text, line, replaced := [], next := none, announced := [] }
  let result ← read
  modify fun inner =>
    { inner with
      rest := outer.rest, line := outer.line, replaced := outer.replaced, next := outer.next,
      announced := outer.announced }
  return result

/-- The commands between backquotes. -/
def backquotedScript (nested : NestedReader) (quoted : Bool) : Reader Script := do
  let text ← backquoted quoted (← fuel)
  within text 1 nested.whole

/-- The commands between brackets; here-documents around them are kept for later. -/
def bracketedScript (nested : NestedReader) : Reader Script := do
  let announced := (← get).announced
  modify fun s => { s with announced := [] }
  let script ← nested.inBrackets
  modify fun s => { s with announced }
  return script

/-- What comes between braces before a word. -/
inductive Opening where
  /-- The name and its closing brace. -/
  | closed
  | length
  | fallback (fallback : Fallback) (orEmpty : Bool)
  | cut (atEnd longest : Bool)
  | malformed

/-- What follows a name between braces; the end of a line in its place is not counted. -/
def operation : Reader Opening := do
  let fallback? : Char → Option Fallback
    | '-' => some .substitute
    | '=' => some .assign
    | '?' => some .fail
    | '+' => some .alternative
    | _ => none
  match ← next? with
  | some '\x7d' => return .closed
  | some ':' =>
    match (← next?).bind fallback? with
    | some f => return .fallback f true
    | none => return .malformed
  | some '%' => return .cut true (← skipIf '%')
  | some '#' => return .cut false (← skipIf '#')
  | some c =>
    match fallback? c with
    | some f => return .fallback f false
    | none =>
      if c = '\n' then modify fun s => { s with line := s.line - 1 }
      return .malformed
  | none => return .malformed

/-- A name of letters or of digits. -/
def nameOrDigits : Reader String := do
  match ← peek? with
  | some c =>
    if c.isDigit then return String.ofList (← takeWhile Char.isDigit (← fuel))
    else return String.ofList (← takeWhile isNameChar (← fuel))
  | none => return ""

/-- The name after an opening brace, and what follows it. -/
def opening : Reader (String × Opening) := do
  match ← peek? with
  | none => return ("", .malformed)
  | some '\x7d' => return ("", .malformed)
  | some '#' =>
    skip
    match ← peek? with
    | none => return ("#", .malformed)
    | some c =>
      if isNameChar c then
        let name ← nameOrDigits
        if (← peek?) = some '\x7d' then return (name, .length) else return (name, .malformed)
      else
        let before ← get
        skip
        let after ← peek?
        if c = '\x7d' ∨ after ≠ some '\x7d' then
          set before
          return ("#", ← operation)
        else if isSpecialName c then return (String.ofList [c], .length)
        else return ("", .malformed)
  | some c =>
    if isNameChar c then
      let name ← nameOrDigits
      return (name, ← operation)
    else
      skip
      if isSpecialName c then return (String.ofList [c], ← operation)
      else return ("", .malformed)

/-- Whether the text goes on with the given characters. -/
def startsWith (text : String) : Reader Bool := return text.toList.isPrefixOf (← get).rest

mutual

/-- The pieces of a text up to its end in the context, which is gone past unless it ends a word. -/
def parts (nested : NestedReader) : (fuel : Nat) → Context → Reader Word
  | 0, _ => fail "Unterminated quoted string"
  | fuel + 1, context => do
    let more (part : Part) : Reader Word := return part :: (← parts nested fuel context)
    let plain (content : Text) : Reader Word := more (.text context.isQuoted content)
    match ← peek? with
    | none =>
      match context with
      | .plain | .endMark | .document => return []
      | .quoted _ | .quotedBraces _ false => fail "Unterminated quoted string"
      | .braces | .quotedBraces _ true => fail "Missing '\x7d'"
      | .arithmetic _ => fail "Missing '))'"
    | some '\\' =>
      skip
      match ← nextRaw? with
      | none => more (.text true ['\\'])
      | some c => more (.text true (if isEscapable context c then [c] else ['\\', c]))
    | some '\'' =>
      skip
      if context.isQuoted then plain ['\'']
      else
        let content ← singleQuoted (← Reader.fuel)
        return .quotes :: .text true content :: (← parts nested fuel context)
    | some '"' =>
      skip
      match context with
      | .quoted _ => return []
      | .document | .arithmetic _ => plain ['"']
      | .quotedBraces inner inDocument =>
        let rest ← parts nested fuel (.quotedBraces (!inner) inDocument)
        return if inDocument then rest else .quotes :: rest
      | .plain | .endMark | .braces =>
        if ← startsWith "$@\"" then
          skip; skip; skip
          more (.parameter true "@" .value)
        else
          let inBraces := match context with
            | .braces => true
            | _ => false
          let content ← parts nested fuel (.quoted inBraces)
          return .quotes :: content ++ (← parts nested fuel context)
    | some '$' =>
      skip
      match context with
      | .endMark => plain ['$']
      | _ =>
        let part ← dollar nested fuel context
        more part
    | some '\x7d' =>
      skip
      match context with
      | .braces | .quotedBraces false _ => return []
      | _ => plain ['\x7d']
    | some '(' =>
      match context with
      | .plain | .endMark => return []
      | .arithmetic depth =>
        skip
        return .text true ['('] :: (← parts nested fuel (.arithmetic (depth + 1)))
      | _ =>
        skip
        plain ['(']
    | some ')' =>
      match context with
      | .plain | .endMark => return []
      | .arithmetic 0 =>
        skip
        if ← skipIf ')' then return [] else plain [')']
      | .arithmetic (depth + 1) =>
        skip
        return .text true [')'] :: (← parts nested fuel (.arithmetic depth))
      | _ =>
        skip
        plain [')']
    | some c =>
      if c.toNat = 0x60 then
        skip
        match context with
        | .endMark => plain [c]
        | _ =>
          let script ← backquotedScript nested context.isQuoted
          more (.output context.isQuoted script)
      else
        match context with
        | .plain | .endMark =>
          if endsWord c then return []
          else
            skip
            plain [c]
        | _ =>
          skip
          plain [c]

/-- The expansion after a dollar sign, or the sign itself. -/
def dollar (nested : NestedReader) : (fuel : Nat) → Context → Reader Part
  | 0, _ => fail "Unterminated quoted string"
  | fuel + 1, context => do
    let quoted := context.isQuoted
    match ← peek? with
    | none => return .text quoted ['$']
    | some '(' =>
      skip
      if ← skipIf '(' then
        return .arithmetic quoted (Word.merge (← parts nested fuel (.arithmetic 0)))
      else return .output quoted (← bracketedScript nested)
    | some '\x7b' =>
      skip
      let (name, opening) ← opening
      match opening with
      | .closed => return .parameter quoted name .value
      | .length =>
        let _ ← parts nested fuel context.inBraces
        return .parameter quoted name .length
      | .fallback f orEmpty =>
        let word ← parts nested fuel context.inBraces
        return .parameter quoted name (.fallback f orEmpty (Word.merge word))
      | .cut atEnd longest =>
        let pattern ← parts nested fuel .braces
        return .parameter quoted name (.cut atEnd longest (Word.merge pattern))
      | .malformed =>
        let _ ← parts nested fuel context.inBraces
        return .parameter quoted name .malformed
    | some c =>
      if isNameStart c then return .parameter quoted (← nameOrDigits) .value
      else if isSpecialName c then
        skip
        return .parameter quoted (String.ofList [c]) .value
      else return .text quoted ['$']

end

/-- A whole text of a context. -/
def text (nested : NestedReader) (context : Context) : Reader Word := do
  return Word.merge (← parts nested (2 * (← fuel)) context)

/-- The lines up to the end mark, and the text after it; in a document with expansions a line that
ends in a lone backslash goes on in the next one. -/
def documentLines (document : AnnouncedDocument) : (fuel : Nat) → (continued : Bool) → Text →
    Text × Nat × Text
  | 0, _, rest => ([], 0, rest)
  | _ + 1, _, [] => ([], 0, [])
  | fuel + 1, continued, rest =>
    let rest := if document.dropsTabs ∧ !continued then rest.dropWhile (· = '\t') else rest
    let line := rest.takeWhile (· ≠ '\n')
    let after := rest.drop line.length
    if !continued ∧ line = document.delimiter then ([], 1, after.drop 1)
    else
      let slashes := (line.reverse.takeWhile (· = '\\')).length
      let (more, count, last) :=
        documentLines document fuel (document.expands && slashes % 2 = 1) (after.drop 1)
      (line ++ after.take 1 ++ more, count + 1, last)

/-- Reads the here-documents that have been announced. -/
def documents (nested : NestedReader) : Reader Unit := do
  let announced := (← get).announced
  modify fun s => { s with announced := [] }
  for document in announced do
    let s ← get
    let (body, count, rest) := documentLines document (s.rest.length + 1) false s.rest
    let word ←
      if document.expands then within body s.line (text nested .document)
      else pure [.text true body]
    modify fun s =>
      { s with rest, line := s.line + count, documents := (document.number, word) :: s.documents }

end Reader

end KDispatch.Shell
