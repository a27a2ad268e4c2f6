import KDispatch.Shell.Words

/-!
Reading commands. A script is read one complete command after the other, so that what stands before a
mistake can still be run. Compound commands hold lists, which are read by the `Inner` readers.
-/

namespace KDispatch.Shell

/-- The words that begin or end compound commands where a command is expected. -/
def keywords : List String :=
  ["!", "case", "do", "done", "elif", "else", "esac", "fi", "for", "if", "in", "then", "until",
    "while", "\x7b", "\x7d"]

/-- The keywords and signs that end a list. -/
def endsList (sign : String) : Bool :=
  [")", ";;", "do", "done", "elif", "else", "esac", "fi", "then", "\x7d"].contains sign

/-- The commands that belong to the language; no function can have their names. -/
def specialCommands : List String :=
  [".", ":", "break", "continue", "eval", "exec", "exit", "export", "local", "readonly", "return",
    "set", "shift", "times", "trap", "unset"]

namespace Token

/-- The token as a message names it. -/
def name : Token → String
  | .finish => "end of file"
  | .lineEnd => "newline"
  | .redirection _ _ => "redirection"
  | .operator sign | .keyword sign _ => "\"" ++ sign ++ "\""
  | .word _ => "word"

/-- The word of a token; a keyword is one too. -/
def word? : Token → Option Word
  | .word content | .keyword _ content => some content
  | _ => none

/-- The keyword that a word is, if it is one. -/
def asKeyword : Token → Token
  | .word [.text false content] =>
    let sign := String.ofList content
    if keywords.contains sign then .keyword sign [.text false content]
    else .word [.text false content]
  | token => token

def isSign (sign : String) : Token → Bool
  | .operator s | .keyword s _ => s = sign
  | _ => false

end Token

/-- Whether a list may be empty, and whether a line end finishes it. -/
inductive ListKind where
  /-- A complete command, which ends with its line. -/
  | line
  /-- The inside of a compound command. -/
  | filled
  | maybeEmpty
  deriving DecidableEq

/-- How the parts of compound commands are read. -/
structure Inner where
  list : ListKind → Reader Script
  command : Reader Script

namespace Reader

/-- Puts a token back. -/
def putBack (token : Token) : Reader Unit := modify fun s => { s with next := some token }

/-- Goes past blanks and comments. -/
def skipBlanks : (fuel : Nat) → Reader Unit
  | 0 => return
  | fuel + 1 => do
    match ← peek? with
    | some ' ' | some '\t' =>
      skip
      skipBlanks fuel
    | some '#' =>
      modify fun s => { s with rest := s.rest.dropWhile (· ≠ '\n') }
      skipBlanks fuel
    | _ => return

/-- The sign that `first` begins, which is doubled if the same character follows. -/
def doubled (first : Char) : Reader Token := do
  if ← skipIf first then return .operator (String.ofList [first, first])
  else return .operator (String.ofList [first])

/-- A redirection sign after its first character. -/
def redirectionSign (first : Char) : Reader String := do
  if first = '>' then
    if ← skipIf '>' then return ">>"
    else if ← skipIf '|' then return ">|"
    else if ← skipIf '&' then return ">&"
    else return ">"
  else if ← skipIf '<' then
    if ← skipIf '-' then return "<<-" else return "<<"
  else if ← skipIf '&' then return "<&"
  else if ← skipIf '>' then return "<>"
  else return "<"

/-- A redirection that begins here. -/
def redirectionFrom (descriptor : Option Nat) : Reader Token := do
  if ← skipIf '>' then return .redirection descriptor (← redirectionSign '>')
  else
    skip
    return .redirection descriptor (← redirectionSign '<')

/-- Whether a redirection begins here. -/
def atRedirection : Reader Bool := do
  let c ← peek?
  return c = some '<' || c = some '>'

/-- A word; a single digit before a redirection is the descriptor that is redirected. -/
def wordToken (nested : NestedReader) (context : Context) : Reader Token := do
  let word ← text nested context
  match word with
  | [] =>
    if ← atRedirection then redirectionFrom none else return .word []
  | [.text false [c]] =>
    if c.isDigit && (← atRedirection) then redirectionFrom (some (c.toNat - '0'.toNat))
    else return .word word
  | _ => return .word word

/-- Reads a token as it stands in the text. -/
def rawToken (nested : NestedReader) (context : Context) : Reader Token := do
  skipBlanks (2 * (← fuel))
  match ← peek? with
  | none => return .finish
  | some '\n' =>
    skip
    return .lineEnd
  | some c =>
    if c = '&' ∨ c = '|' ∨ c = ';' then
      skip
      doubled c
    else if c = '(' ∨ c = ')' then
      skip
      return .operator (String.ofList [c])
    else wordToken nested context

/-- Reads the next token, or the one that has been put back. -/
def token (nested : NestedReader) : Reader Token := do
  match (← get).next with
  | some token =>
    modify fun s => { s with next := none }
    return token
  | none => rawToken nested .plain

/-- Reads the next token where a keyword may stand. -/
def keywordToken (nested : NestedReader) : Reader Token := return (← token nested).asKeyword

/-- The text that a word stands for as an alias, unless it has just come out of that alias. -/
def aliasText? (name : Text) : Reader (Option Text) := do
  let s ← get
  let isOpen := s.replaced.any fun (other, behind) => other = name && behind < s.rest.length
  return if isOpen then none else s.aliases.lookup name

/-- Reads the next token where a command may begin; aliases give way to their texts. -/
def commandToken (nested : NestedReader) : (fuel : Nat) → Reader Token
  | 0 => token nested
  | fuel + 1 => do
    match ← keywordToken nested with
    | .word [.text false content] =>
      match ← aliasText? content with
      | some text =>
        modify fun s =>
          { s with
            rest := text ++ s.rest
            replaced := (content, s.rest.length) :: s.replaced }
        commandToken nested fuel
      | none => return .word [.text false content]
    | token => return token

/-- Reads line ends, and the here-documents after them, and then a token. -/
def skipLines (nested : NestedReader) : (fuel : Nat) → Reader Token
  | 0 => return .finish
  | fuel + 1 => do
    match ← token nested with
    | .lineEnd =>
      documents nested
      skipLines nested fuel
    | token => return token

/-- Reads the next token on this line or a later one, where a keyword may stand. -/
def tokenAfterLines (nested : NestedReader) : Reader Token := do
  return (← skipLines nested (2 * (← fuel))).asKeyword

/-- Fails at a token that has no place where it stands. -/
def unexpected {α : Type} (token : Token) : Reader α := fail (token.name ++ " unexpected")

/-- Reads a token that has to be the given sign. -/
def expect (nested : NestedReader) (sign : String) : Reader Unit := do
  let token ← keywordToken nested
  if token.isSign sign then return
  else fail (token.name ++ " unexpected (expecting \"" ++ sign ++ "\")")

/-- Reads a token on this line or a later one that has to be the given sign. -/
def expectAfterLines (nested : NestedReader) (sign : String) : Reader Unit := do
  let token ← tokenAfterLines nested
  if token.isSign sign then return
  else fail (token.name ++ " unexpected (expecting \"" ++ sign ++ "\")")

end Reader

namespace Inner

/-- The commands inside words. -/
def nested (inner : Inner) : NestedReader where
  whole := inner.list .maybeEmpty
  inBrackets := do
    let script ← inner.list .maybeEmpty
    let token ← (Token.asKeyword <$> (do
      match (← get).next with
      | some token =>
        modify fun s => { s with next := none }
        return token
      | none => return .finish))
    if token.isSign ")" then return script
    else Reader.fail (token.name ++ " unexpected (expecting \")\")")

end Inner

namespace Reader

/-- Announces a here-document with the given end mark. -/
def announce (mark : Word) (dropsTabs : Bool) : Reader Nat := do
  let delimiter := mark.flatMap fun
    | .text _ content => content
    | _ => []
  let number := (← get).nextDocument
  modify fun s =>
    { s with
      nextDocument := number + 1
      announced := s.announced ++ [⟨number, delimiter, !mark.hasQuotes, dropsTabs⟩] }
  return number

/-- The target of a redirection whose sign has been read. -/
def redirectionTarget (nested : NestedReader) (descriptor : Option Nat) (sign : String) :
    Reader Redirection := do
  let context : Context := if sign = "<<" ∨ sign = "<<-" then .endMark else .plain
  let token ← rawToken nested context
  match token.word? with
  | none => unexpected token
  | some word =>
    match sign with
    | "<" => return .file (descriptor.getD 0) .read word
    | "<>" => return .file (descriptor.getD 0) .readWrite word
    | ">" => return .file (descriptor.getD 1) .write word
    | ">|" => return .file (descriptor.getD 1) .overwrite word
    | ">>" => return .file (descriptor.getD 1) .append word
    | "<&" => return .duplicate (descriptor.getD 0) word
    | ">&" => return .duplicate (descriptor.getD 1) word
    | _ => return .document (descriptor.getD 0) (← announce word (sign = "<<-"))

/-- The redirections that follow a compound command. -/
def redirections (nested : NestedReader) : (fuel : Nat) → Reader (List Redirection)
  | 0 => return []
  | fuel + 1 => do
    match ← keywordToken nested with
    | .redirection descriptor sign =>
      let redirection ← redirectionTarget nested descriptor sign
      return redirection :: (← redirections nested fuel)
    | token =>
      putBack token
      return []

/-- The name and the value of an assignment. -/
def assignment? : Word → Option (String × Word)
  | .text false content :: parts =>
    let name := content.takeWhile isNameChar
    match content.drop name.length with
    | '=' :: value =>
      if isName name then
        some (String.ofList name, if value.isEmpty then parts else .text false value :: parts)
      else none
    | _ => none
  | _ => none

/-- What has been read of a simple command, in reverse. -/
structure SimpleCommand where
  assignments : List (String × Word)
  words : List Word
  redirections : List Redirection

/-- The script of a simple command that ends before the given token. -/
def SimpleCommand.script (command : SimpleCommand) (line : Nat) (next : Token) :
    Reader Script := do
  putBack next
  return .simple line command.assignments.reverse command.words.reverse
    command.redirections.reverse

/-- A simple command, or the definition of a function. -/
def simpleCommand (inner : Inner) (line : Nat) : (fuel : Nat) → SimpleCommand → Reader Script
  | 0, _ => return .nothing
  | fuel + 1, command => do
    let next ←
      if command.words.isEmpty then commandToken inner.nested (fuel + 1) else token inner.nested
    match next with
    | .word word | .keyword _ word =>
      match assignment? word, command.words with
      | some assignment, [] =>
        simpleCommand inner line fuel
          { command with assignments := assignment :: command.assignments }
      | _, words => simpleCommand inner line fuel { command with words := word :: words }
    | .redirection descriptor sign =>
      let redirection ← redirectionTarget inner.nested descriptor sign
      simpleCommand inner line fuel
        { command with redirections := redirection :: command.redirections }
    | .operator "(" =>
      match command with
      | ⟨[], [name], []⟩ =>
        let next ← token inner.nested
        if !next.isSign ")" then fail (next.name ++ " unexpected (expecting \")\")")
        let name := (Word.plain? name).getD []
        if !isName name ∨ specialCommands.contains (String.ofList name) then
          fail "Bad function name"
        let next ← tokenAfterLines inner.nested
        putBack next
        let line := (← get).line
        return .function line (String.ofList name) (← inner.command)
      | _ => command.script line (.operator "(")
    | token => command.script line token

/-- The words of a loop over words, up to the end of the line. -/
def loopWords (nested : NestedReader) : (fuel : Nat) → Reader (List Word)
  | 0 => return []
  | fuel + 1 => do
    match ← token nested with
    | .word word | .keyword _ word => return word :: (← loopWords nested fuel)
    | .lineEnd =>
      documents nested
      return []
    | .operator ";" => return []
    | token => unexpected token

/-- The rest of a loop over words. -/
def loopOverWords (inner : Inner) (line : Nat) : Reader Script := do
  let first ← token inner.nested
  let name := (first.word?.bind Word.plain?).getD []
  if !isName name then fail "Bad for loop variable"
  let next ← tokenAfterLines inner.nested
  let words ←
    if next.isSign "in" then loopWords inner.nested (2 * (← fuel))
    else
      if !next.isSign ";" then putBack next
      pure [[.parameter true "@" .value]]
  expectAfterLines inner.nested "do"
  let body ← inner.list .filled
  expect inner.nested "done"
  return .each line (String.ofList name) words body

/-- The patterns of a branch, up to the bracket behind them. -/
def branchPatterns (nested : NestedReader) (first : Token) : (fuel : Nat) → Reader (List Word)
  | 0 => return []
  | fuel + 1 => do
    let pattern := first.word?.getD []
    let next ← token nested
    if next.isSign "|" then
      let second ← token nested
      return pattern :: (← branchPatterns nested second fuel)
    else if next.isSign ")" then return [pattern]
    else fail (next.name ++ " unexpected (expecting \")\")")

/-- The branches of a selection, up to its end. -/
def branches (inner : Inner) : (fuel : Nat) → Reader (List (List Word × Script))
  | 0 => return []
  | fuel + 1 => do
    let first ← tokenAfterLines inner.nested
    if first.isSign "esac" then return []
    else
      let first ← if first.isSign "(" then token inner.nested else pure first
      let patterns ← branchPatterns inner.nested first (2 * (← Reader.fuel))
      let body ← inner.list .maybeEmpty
      let next ← tokenAfterLines inner.nested
      if next.isSign "esac" then return [(patterns, body)]
      else if next.isSign ";;" then return (patterns, body) :: (← branches inner fuel)
      else fail (next.name ++ " unexpected (expecting \";;\")")

/-- The rest of a selection by patterns. -/
def selection (inner : Inner) (line : Nat) : Reader Script := do
  let first ← token inner.nested
  match first.word? with
  | none => fail (first.name ++ " unexpected (expecting word)")
  | some word =>
    expectAfterLines inner.nested "in"
    return .select line word (← branches inner (2 * (← fuel)))

/-- The rest of a choice after its condition. -/
def alternatives (inner : Inner) : (fuel : Nat) → Reader Script
  | 0 => return .nothing
  | fuel + 1 => do
    let condition ← inner.list .filled
    expect inner.nested "then"
    let whenTrue ← inner.list .filled
    let next ← keywordToken inner.nested
    if next.isSign "elif" then
      return .choice condition whenTrue (← alternatives inner fuel)
    else if next.isSign "else" then
      let whenFalse ← inner.list .filled
      expect inner.nested "fi"
      return .choice condition whenTrue whenFalse
    else if next.isSign "fi" then return .choice condition whenTrue .nothing
    else fail (next.name ++ " unexpected (expecting \"fi\")")

/-- The rest of a loop with a condition. -/
def conditionalLoop (inner : Inner) (success : Bool) : Reader Script := do
  let condition ← inner.list .filled
  expect inner.nested "do"
  let body ← inner.list .filled
  expect inner.nested "done"
  return .loop success condition body

/-- Adds the redirections that follow a compound command. -/
def withRedirections (inner : Inner) (line : Nat) (script : Script) : Reader Script := do
  match ← redirections inner.nested (2 * (← fuel)), script with
  | [], script => return script
  | more, .subshell line body _ => return .subshell line body more
  | more, script => return .redirected line script more

/-- A command. -/
def command (inner : Inner) : Reader Script := do
  let line := (← get).line
  let first ← commandToken inner.nested (2 * (← fuel))
  match first with
  | .word _ | .redirection _ _ =>
    putBack first
    simpleCommand inner (← get).line (2 * (← fuel) + 2) ⟨[], [], []⟩
  | .operator "(" =>
    let body ← inner.list .filled
    expect inner.nested ")"
    withRedirections inner line (.subshell line body [])
  | .keyword "if" _ => withRedirections inner line (← alternatives inner (2 * (← fuel)))
  | .keyword "while" _ => withRedirections inner line (← conditionalLoop inner true)
  | .keyword "until" _ => withRedirections inner line (← conditionalLoop inner false)
  | .keyword "for" _ => withRedirections inner line (← loopOverWords inner line)
  | .keyword "case" _ => withRedirections inner line (← selection inner line)
  | .keyword "\x7b" _ =>
    let body ← inner.list .filled
    expect inner.nested "\x7d"
    withRedirections inner line body
  | _ => unexpected first

/-- The commands of a pipeline after the first one. -/
def pipelineRest (inner : Inner) : (fuel : Nat) → Reader (List Script)
  | 0 => return []
  | fuel + 1 => do
    let next ← token inner.nested
    if next.isSign "|" then
      let first ← tokenAfterLines inner.nested
      putBack first
      let script ← command inner
      return script :: (← pipelineRest inner fuel)
    else
      putBack next
      return []

/-- A pipeline, whose first token has been put back. -/
def pipeline (inner : Inner) : Reader Script := do
  let first ← token inner.nested
  let negated := match first with
    | .keyword "!" _ => true
    | _ => false
  if negated then
    let next ← keywordToken inner.nested
    putBack next
  else putBack first
  let script ← command inner
  let rest ← pipelineRest inner (2 * (← fuel))
  let script := if rest.isEmpty then script else .pipeline (script :: rest)
  return if negated then .negation script else script

/-- Pipelines that depend on the ones before them. -/
def chain (inner : Inner) : (fuel : Nat) → Script → Reader Script
  | 0, script => return script
  | fuel + 1, script => do
    let next ← token inner.nested
    if next.isSign "&&" ∨ next.isSign "||" then
      let first ← tokenAfterLines inner.nested
      putBack first
      let second ← pipeline inner
      chain inner fuel (if next.isSign "&&" then .both script second else .either script second)
    else
      putBack next
      return script

/-- A chain of pipelines. -/
def chainedPipelines (inner : Inner) : Reader Script := do
  let first ← pipeline inner
  chain inner (2 * (← fuel)) first

/-- The script that runs in the background. -/
def inBackground : Script → Script
  | .redirected line body redirections => .background line body redirections
  | script => .background 0 script []

/-- Reads commands up to the end of a list. The token that ends it is put back, except for the line
end that finishes a line. -/
def list (inner : Inner) (kind : ListKind) : (fuel : Nat) → (before : Option Script) →
    Reader Script
  | 0, before => return before.getD .nothing
  | fuel + 1, before => do
    let first ← if kind = .line then keywordToken inner.nested else tokenAfterLines inner.nested
    match first with
    | .lineEnd =>
      documents inner.nested
      return before.getD .nothing
    | .finish =>
      documents inner.nested
      putBack .finish
      return before.getD .nothing
    | _ =>
      putBack first
      let ended := match first with
        | .operator sign | .keyword sign _ => endsList sign
        | _ => false
      if ended && (kind = .maybeEmpty || (kind = .filled && before.isSome)) then
        return before.getD .nothing
      else
        let script ← chainedPipelines inner
        let next ← token inner.nested
        let script := if next.isSign "&" then inBackground script else script
        let after := match before with
          | none => script
          | some before => .sequence before script
        match next with
        | .finish =>
          documents inner.nested
          putBack .finish
          return after
        | .lineEnd =>
          putBack .lineEnd
          list inner kind fuel (some after)
        | _ =>
          if next.isSign "&" ∨ next.isSign ";" then list inner kind fuel (some after)
          else if kind = .line then unexpected next
          else
            putBack next
            return after

end Reader

/-- The readers of nested commands, down to a depth. -/
def Inner.ofDepth : (depth : Nat) → Inner
  | 0 => ⟨fun _ => Reader.fail "nesting too deep", Reader.fail "nesting too deep"⟩
  | depth + 1 =>
    { list := fun kind => do Reader.list (Inner.ofDepth depth) kind (2 * (← Reader.fuel)) none
      command := fun source => Reader.command (Inner.ofDepth depth) source }

/-- Reads the next complete command of a script, unless there is none. -/
def Reader.completeCommand : Reader (Option Script) := do
  let inner := Inner.ofDepth (2 * (← fuel))
  match ← keywordToken inner.nested with
  | .finish => return none
  | first =>
    putBack first
    return some (← inner.list .line)

end KDispatch.Shell
