import KDispatch.Shell.Extended.Token

/-!
Reading commands, and the conditions among them.
-/

/-! ## Conditions

Reading conditions between double brackets, which have operators and grouping of their own, and messages
about what cannot be read.
-/

namespace KDispatch.Shell.Extended.Reader

/-- The operators of conditions with one operand. -/
def unaryTests : List String :=
  "abcdefghknoprstuvwxzGLNORS".toList.map fun c => String.ofList ['-', c]

/-- The operators of conditions with two operands. -/
def binaryTests : List String :=
  ["=", "==", "!=", "<", ">", "-eq", "-ne", "-lt", "-le", "-gt", "-ge", "-nt", "-ot", "-ef"]

/-- The word that the place in a line comes after, as messages about conditions show it. -/
def nearby (line passed : Text) : Text :=
  let before := passed.reverse
  let isGap (c : Char) : Bool := c = ' ' || c = '\t' || c = '\n'
  let upTo := (before.reverse.dropWhile isGap).reverse
  let upTo := if before.length < line.length && !(line.drop before.length).head?.any isGap then
    before ++ (line.drop before.length).take 1 else upTo
  (upTo.reverse.takeWhile fun c => !" \n\t;|&".toList.contains c).reverse

/-- Fails in a condition with messages of its own, and with the place. -/
def badTest {α : Type} (token : Token) (messages : List (Nat × Text)) : Reader α := do
  let s ← get
  if token.isFinish then
    failWith (messages ++ [(← endLine, "syntax error: unexpected end of file".toList)])
  else
    let place := s.place
    let passed := match token with
      | .lineEnd => place.text.reverse
      | _ => s.passed
    let word := nearby place.text passed
    let word := if word.isEmpty then token.name else word
    failWith
      (messages ++ [(place.number, "syntax error near ".toList ++ marked word),
        (place.number, marked place.text)])

/-- The text of a token that is no word. -/
def signText? : Token → Option Text
  | .word word => if word.source = "]]".toList then some word.source else none
  | token => some token.name

/-- A token inside a condition. -/
def testToken (nested : NestedReader) : Reader Token := rawToken nested .inside

/-- The next token inside a condition that is no line end. -/
def testTokenAfterLines (nested : NestedReader) : (fuel : Nat) → Reader Token
  | 0 => return .finish
  | fuel + 1 => do
    match ← testToken nested with
    | .lineEnd => testTokenAfterLines nested fuel
    | token => return token

/-- The next token inside a condition that is no line end. -/
def nextTest (nested : NestedReader) : Reader Token := do testTokenAfterLines nested (2 * (← fuel))

/-- The right operand of an operator: patterns may have alternatives, and expressions any signs. -/
def rightOperand (nested : NestedReader) (operator : String) : Reader Token := do
  skipBlanks (2 * (← fuel))
  match ← peek? with
  | none => testToken nested
  | some '\n' => testToken nested
  | some _ =>
    if operator = "=~" then
      let operand ← word nested .expression
      mark
      return .word operand
    else
      let before := (← get).alternatives
      let patterns := operator = "=" || operator = "==" || operator = "!="
      modify fun s => { s with alternatives := before || patterns }
      let token ← testToken nested
      modify fun s => { s with alternatives := before }
      return token

/-- A token that is wrong as an operand. -/
def badOperand {α : Type} (token : Token) (kind : String) : Reader α := do
  let line := (← get).place.number
  match signText? token with
  | some text =>
    badTest token
      [(line, "unexpected argument ".toList ++ marked text ++ (" to conditional " ++ kind).toList)]
  | none => badTest token [(line, ("unexpected argument to conditional " ++ kind).toList)]

mutual

/-- Conditions of which one has to hold, from a first token on, and the token after them. -/
def anyTest (nested : NestedReader) : (fuel : Nat) → Reader (Test × Token)
  | 0 => badTest .finish []
  | fuel + 1 => do
    let (a, next) ← allTests nested fuel
    if next.isSign "||" then
      let (b, next) ← anyTest nested fuel
      return (.either a b, next)
    else return (a, next)

/-- Conditions that have to hold together. -/
def allTests (nested : NestedReader) : (fuel : Nat) → Reader (Test × Token)
  | 0 => badTest .finish []
  | fuel + 1 => do
    let (a, next) ← oneTest nested fuel
    if next.isSign "&&" then
      let (b, next) ← allTests nested fuel
      return (.both a b, next)
    else return (a, next)

/-- A condition without operators between conditions. -/
def oneTest (nested : NestedReader) : (fuel : Nat) → Reader (Test × Token)
  | 0 => badTest .finish []
  | fuel + 1 => do
    let first ← nextTest nested
    match first with
    | .operator "(" =>
      let before ← get
      let complaint : Text := "expected ".toList ++ marked [')']
      let (inner, next) ← tryCatch (anyTest nested fuel) fun e =>
        match e.messages.reverse with
        | shown :: near :: rest => throw { e with messages :=
            rest.reverse ++ [(before.place.number, complaint), near, shown] }
        | _ => throw e
      if next.isSign ")" then return (.grouped inner, ← nextTest nested)
      else
        match signText? next with
        | some text =>
          badTest next [(before.place.number,
            "unexpected token ".toList ++ marked text ++ ", ".toList ++ complaint)]
        | none => badTest next [(before.place.number, complaint)]
    | .word word =>
      let name := String.ofList word.source
      if name = "]]" then badTest first []
      else if name = "!" then
        let (inner, next) ← oneTest nested fuel
        return (.not inner, next)
      else if unaryTests.contains name then
        match ← testToken nested with
        | .word operand =>
          if operand.source = "]]".toList then badOperand (.word operand) "unary operator"
          else return (.unary name operand, ← nextTest nested)
        | token => badOperand token "unary operator"
      else
        let second ← testToken nested
        let operator? : Option String := match second with
          | .word operator =>
            let sign := String.ofList operator.source
            if binaryTests.contains sign || sign = "=~" then some sign else none
          | .redirection none sign => if sign = "<" || sign = ">" then some sign else none
          | _ => none
        match operator? with
        | some sign =>
          match ← rightOperand nested sign with
          | .word operand =>
            if operand.source = "]]".toList then badOperand (.word operand) "binary operator"
            else return (.binary sign word operand, ← nextTest nested)
          | token => badOperand token "binary operator"
        | none =>
          let isEnd := second.isSign "]]" || second.isSign "&&" || second.isSign "||" ||
            second.isSign ")"
          if isEnd then return (.unary "-n" word, second)
          else
            let line := (← get).place.number
            match signText? second with
            | some text =>
              badTest second [(line, "unexpected token ".toList ++ marked text ++
                ", conditional binary operator expected".toList)]
            | none => badTest second [(line, "conditional binary operator expected".toList)]
    | token =>
      let line ← if token.isFinish then endLine else pure (← get).place.number
      badTest token
        [(line, "unexpected token ".toList ++ marked token.name ++ " in conditional command".toList)]

end

/-- The rest of a condition between double brackets. -/
def conditionCommand (nested : NestedReader) (line : Nat) : Reader Script := do
  let (test, next) ← anyTest nested (8 * (← fuel) + 8)
  if next.isSign "]]" then return .condition line test
  else if next.isFinish then
    badTest next [(line, "unexpected EOF while looking for ".toList ++ marked "]]".toList)]
  else
    match signText? next with
    | some text =>
      badTest next [(line, "syntax error in conditional expression: unexpected token ".toList ++
        marked text)]
    | none => badTest next [(line, "syntax error in conditional expression".toList)]

end KDispatch.Shell.Extended.Reader

/-! ## Commands

Reading commands. A script is read one complete command after the other, so that what stands before a
mistake can still be run. Compound commands hold lists, which are read by the `Inner` readers.
-/

namespace KDispatch.Shell.Extended

namespace Reader

/-- Announces a here-document with the given end mark. -/
def announce (delimiter : Word) (dropsTabs : Bool) : Reader Nat := do
  let hasQuotes := delimiter.parts.any fun
    | .text quoted _ => quoted
    | .quotes _ => true
    | _ => false
  let text :=
    if hasQuotes then
      delimiter.parts.flatMap fun
        | .text _ content => content
        | .quotes parts => parts.flatMap fun
          | .text _ content => content
          | _ => []
        | _ => []
    else delimiter.source
  let number := (← get).nextDocument
  modify fun s =>
    { s with
      nextDocument := number + 1
      announced := s.announced ++ [⟨number, text, !hasQuotes, dropsTabs, s.line⟩] }
  return number

/-- The target of a redirection whose sign has been read. -/
def redirectionTarget (nested : NestedReader) (handle : Option Handle) (sign : String) :
    Reader Redirection := do
  match ← rawToken nested .inside with
  | .word word =>
    let input := handle.getD (.number 0)
    let output := handle.getD (.number 1)
    match sign with
    | "<" => return .file input .read word
    | "<>" => return .file input .readWrite word
    | ">" => return .file output .write word
    | ">|" => return .file output .overwrite word
    | ">>" => return .file output .append word
    | "&>" => return .outputs false word
    | "&>>" => return .outputs true word
    | "<&" => return .duplicate input false word
    | ">&" => return .duplicate output true word
    | "<<<" => return .line input word
    | _ => return .document input (← announce word (sign = "<<-"))
  | token => unexpected token

/-- The redirections that follow a compound command. -/
def redirections (nested : NestedReader) : (fuel : Nat) → Reader (List Redirection)
  | 0 => return []
  | fuel + 1 => do
    match ← token nested with
    | .redirection handle sign =>
      let redirection ← redirectionTarget nested handle sign
      return redirection :: (← redirections nested fuel)
    | token =>
      putBack token
      return []

/-- What has been read of a simple command, in reverse. -/
structure SimpleCommand where
  assignments : List Assignment
  arguments : List Argument
  redirections : List Redirection
  /-- The line of its second token. -/
  line : Option Nat

namespace SimpleCommand

def start : SimpleCommand := ⟨[], [], [], none⟩

def isEmpty (command : SimpleCommand) : Bool :=
  command.assignments.isEmpty && command.arguments.isEmpty && command.redirections.isEmpty

/-- Whether the arguments can be assignments. -/
def declares (command : SimpleCommand) : Bool :=
  match command.arguments.getLast? with
  | some (.word word) => declarationCommands.contains (String.ofList word.source)
  | _ => false

end SimpleCommand

/-- The compound commands that can be the body of a function. -/
def startsBody : Token → Bool
  | .arithmetic _ => true
  | .operator sign => sign = "("
  | .word word =>
    ["\x7b", "if", "case", "for", "select", "while", "until", "[["].contains (String.ofList word.source)
  | _ => false

/-- The body of a function. -/
def functionBody (inner : Inner) (line : Nat) (name : Text) : Reader Script := do
  let next ← tokenAfterLines inner.nested
  if startsBody next then
    putBack next
    return .function line name (← inner.command)
  else unexpected next

/-- A simple command, or the definition of a function. -/
def simpleCommand (inner : Inner) : (fuel : Nat) → SimpleCommand → Reader Script
  | 0, _ => return .nothing
  | fuel + 1, command => do
    let nested := inner.nested
    let noted : SimpleCommand → Reader SimpleCommand := fun command => do
      if command.isEmpty || command.line.isSome then return command
      else return { command with line := some (← get).place.number }
    let position : TokenPlace :=
      if command.arguments.isEmpty then .amongAssignments
      else if command.declares then .amongDeclarations
      else .inside
    let next ← match (← get).next with
      | some _ => token nested
      | none => rawToken nested position
    let command ← noted command
    match next with
    | .assignment assignment =>
      if command.arguments.isEmpty then
        simpleCommand inner fuel { command with assignments := assignment :: command.assignments }
      else
        simpleCommand inner fuel
          { command with arguments := .assignment assignment :: command.arguments }
    | .word word =>
      simpleCommand inner fuel { command with arguments := .word word :: command.arguments }
    | .redirection handle sign =>
      let redirection ← redirectionTarget nested handle sign
      simpleCommand inner fuel
        { command with redirections := redirection :: command.redirections }
    | .operator "(" =>
      match command with
      | ⟨[], [.word name], [], _⟩ =>
        let next ← token nested
        if !next.isSign ")" then unexpected next
        functionBody inner (← get).place.number name.source
      | _ => unexpected next
    | next =>
      putBack next
      return .simple (command.line.getD (← get).place.number) command.assignments.reverse
        command.arguments.reverse command.redirections.reverse

/-- Words up to the end of the line or a semicolon. -/
def loopWords (nested : NestedReader) : (fuel : Nat) → Reader (List Word)
  | 0 => return []
  | fuel + 1 => do
    match ← token nested with
    | .word word => return word :: (← loopWords nested fuel)
    | .lineEnd => return []
    | .operator ";" => return []
    | token => unexpected token

/-- The body of a loop: commands between keywords or braces. -/
def loopBody (inner : Inner) (first : Token) : Reader Script := do
  if first.isSign "do" then
    let body ← inner.list .filled
    expect inner.nested "done"
    return body
  else if first.isSign "\x7b" then
    let body ← inner.list .filled
    expect inner.nested "\x7d"
    return body
  else unexpected first

/-- The name, the words and the body of a loop over words. -/
def loopOverWords (inner : Inner) : Reader (Word × Option (List Word) × Script) := do
  match ← token inner.nested with
  | .word name =>
    let next ← token inner.nested
    if next.isSign ";" then
      let first ← tokenAfterLines inner.nested
      return (name, none, ← loopBody inner first)
    else
      putBack next
      let next ← tokenAfterLines inner.nested
      if next.isSign "in" then
        let words ← loopWords inner.nested (2 * (← fuel))
        let first ← tokenAfterLines inner.nested
        return (name, some words, ← loopBody inner first)
      else return (name, none, ← loopBody inner next)
  | token => unexpected token

/-- The three expressions of a counting loop. -/
def countParts (nested : NestedReader) (line : Nat) (expression : Word) :
    Reader (Word × Word × Word) := do
  let pieces := split expression.source [] 0
  match pieces with
  | [a, b, c] =>
    let piece (text : Text) : Reader Word := do
      let text := text.dropWhile isBlank
      within text line (word nested (.arithmetic .finish))
    return (← piece a, ← piece b, ← piece c)
  | _ =>
    let shown := "((".toList ++ expression.source ++ "))".toList
    failWith
      [(line, "syntax error: arithmetic expression required".toList),
        (line, "syntax error: ".toList ++ marked shown)]
where
  /-- The pieces between semicolons. -/
  split : Text → (current : Text) → (depth : Nat) → List Text
    | [], current, _ => [current.reverse]
    | ';' :: rest, current, 0 => current.reverse :: split rest [] 0
    | '(' :: rest, current, depth => split rest ('(' :: current) (depth + 1)
    | ')' :: rest, current, depth => split rest (')' :: current) (depth - 1)
    | c :: rest, current, depth => split rest (c :: current) depth

/-- The rest of a counting loop. -/
def countingLoop (inner : Inner) (line : Nat) (expression : Word) : Reader Script := do
  let (start, condition, step) ← countParts inner.nested line expression
  let next ← token inner.nested
  if !next.isSign ";" then putBack next
  let first ← tokenAfterLines inner.nested
  return .count line start condition step (← loopBody inner first)

/-- The patterns of a branch, up to the bracket behind them. -/
def branchPatterns (nested : NestedReader) (first : Token) : (fuel : Nat) → Reader (List Word)
  | 0 => return []
  | fuel + 1 => do
    match first with
    | .word pattern =>
      let next ← token nested
      if next.isSign "|" then
        let second ← token nested
        return pattern :: (← branchPatterns nested second fuel)
      else if next.isSign ")" then return [pattern]
      else unexpected next
    | token => unexpected token

/-- The branches of a selection, up to its end. -/
def branches (inner : Inner) : (fuel : Nat) → Reader (List (List Word × Script × BranchEnd))
  | 0 => return []
  | fuel + 1 => do
    let rec plain : (fuel : Nat) → Reader Token
      | 0 => return .finish
      | fuel + 1 => do
        match ← token inner.nested with
        | .lineEnd => plain fuel
        | token => return token
    let first ← plain (2 * (← Reader.fuel))
    if first.isSign "esac" then return []
    else
      let first ← if first.isSign "(" then token inner.nested else pure first
      let patterns ← branchPatterns inner.nested first (2 * (← Reader.fuel))
      let body ← inner.list .maybeEmpty
      let next ← tokenAfterLines inner.nested
      if next.isSign "esac" then return [(patterns, body, .leaves)]
      else
        let ending? : Option BranchEnd :=
          if next.isSign ";;" then some .leaves
          else if next.isSign ";&" then some .falls
          else if next.isSign ";;&" then some .tests
          else none
        match ending? with
        | some ending => return (patterns, body, ending) :: (← branches inner fuel)
        | none => unexpected next

/-- The rest of a selection by patterns. -/
def selection (inner : Inner) (line : Nat) : Reader Script := do
  match ← token inner.nested with
  | .word word =>
    expectAfterLines inner.nested "in"
    return .select line word (← branches inner (2 * (← fuel)))
  | token => unexpected token

/-- The rest of a choice after its condition. -/
def alternatives (inner : Inner) : (fuel : Nat) → Reader Script
  | 0 => return .nothing
  | fuel + 1 => do
    let condition ← inner.list .filled
    expect inner.nested "then"
    let whenTrue ← inner.list .filled
    let next ← token inner.nested
    if next.isSign "elif" then
      return .choice condition whenTrue (some (← alternatives inner fuel))
    else if next.isSign "else" then
      let whenFalse ← inner.list .filled
      expect inner.nested "fi"
      return .choice condition whenTrue (some whenFalse)
    else if next.isSign "fi" then return .choice condition whenTrue none
    else unexpected next

/-- The rest of a loop with a condition. -/
def conditionalLoop (inner : Inner) (success : Bool) : Reader Script := do
  let condition ← inner.list .filled
  expect inner.nested "do"
  let body ← inner.list .filled
  expect inner.nested "done"
  return .loop success condition body

/-- Adds the redirections that follow a compound command. -/
def withRedirections (inner : Inner) (script : Script) : Reader Script := do
  match ← redirections inner.nested (2 * (← fuel)) with
  | [] => return script
  | more => return .redirected script more

/-- The rest of a command that runs beside the shell. -/
def companion (inner : Inner) (line : Nat) : Reader Script := do
  let nested := inner.nested
  let first ← commandToken nested (2 * (← fuel))
  if startsBody first then
    putBack first
    return .companion line "COPROC" (← inner.command)
  else
    match first with
    | .word name =>
      let second ← commandToken nested (2 * (← fuel))
      if startsBody second then
        putBack second
        return .companion line (String.ofList name.source) (← inner.command)
      else
        putBack second
        return .companion line "COPROC"
          (← simpleCommand inner (2 * (← fuel) + 2) { SimpleCommand.start with arguments := [.word name] })
    | .redirection _ _ =>
      putBack first
      return .companion line "COPROC" (← inner.command)
    | token => unexpected token

/-- The rest of the definition of a function after its keyword. -/
def namedFunction (inner : Inner) : Reader Script := do
  match ← token inner.nested with
  | .word name =>
    let next ← commandToken inner.nested 1
    if next.isSign "(" then
      expect inner.nested ")"
      functionBody inner (← get).place.number name.source
    else
      let line := (← get).place.number
      putBack next
      functionBody inner line name.source
  | token => unexpected token

/-- A command. -/
def command (inner : Inner) : Reader Script := do
  let nested := inner.nested
  let first ← commandToken nested (2 * (← fuel))
  let line := (← get).place.number
  match first with
  | .arithmetic expression => withRedirections inner (.arithmetic line expression)
  | .operator "(" =>
    let body ← inner.list .filled
    expect nested ")"
    withRedirections inner (.subshell line body)
  | .redirection _ _ | .assignment _ =>
    putBack first
    simpleCommand inner (2 * (← fuel) + 2) .start
  | .word word =>
    match String.ofList word.source with
    | "if" => withRedirections inner (← alternatives inner (2 * (← fuel)))
    | "while" => withRedirections inner (← conditionalLoop inner true)
    | "until" => withRedirections inner (← conditionalLoop inner false)
    | "for" =>
      skipBlanks (2 * (← fuel))
      match ← arithmeticCommand? nested with
      | some expression => withRedirections inner (← countingLoop inner line expression)
      | none =>
        let (name, words, body) ← loopOverWords inner
        withRedirections inner (.each line name words body)
    | "select" =>
      let (name, words, body) ← loopOverWords inner
      withRedirections inner (.menu line name words body)
    | "case" => withRedirections inner (← selection inner line)
    | "[[" => withRedirections inner (← conditionCommand nested line)
    | "function" => namedFunction inner
    | "coproc" => companion inner line
    | "\x7b" =>
      let body ← inner.list .filled
      expect nested "\x7d"
      withRedirections inner (.group body)
    | name =>
      if keywords.contains name then unexpected first
      else
        putBack first
        simpleCommand inner (2 * (← fuel) + 2) .start
  | _ => unexpected first

/-- Whether a token ends a pipeline of which only the words before it have been read. -/
def endsPipeline : Token → Bool
  | .finish | .lineEnd => true
  | .operator sign => sign ≠ "("
  | _ => false

/-- The commands of a pipeline after the first one; both outputs of a command may go on. -/
def pipelineRest (inner : Inner) : (fuel : Nat) → Script → Reader (List Script)
  | 0, first => return [first]
  | fuel + 1, first => do
    let next ← token inner.nested
    if next.isSign "|" || next.isSign "|&" then
      let both : Redirection := .duplicate (.number 2) true ⟨['1'], [.text false ['1']]⟩
      let first := if next.isSign "|" then first else match first with
        | .simple line assignments arguments more =>
          .simple line assignments arguments (more ++ [both])
        | .redirected body more => .redirected body (more ++ [both])
        | body => .redirected body [both]
      let start ← tokenAfterLines inner.nested
      putBack start
      let script ← command inner
      return first :: (← pipelineRest inner fuel script)
    else
      putBack next
      return [first]

/-- A pipeline, whose first token has been put back. -/
def pipeline (inner : Inner) : (fuel : Nat) → Reader Script
  | 0 => return .nothing
  | fuel + 1 => do
    let first ← token inner.nested
    if first.isSign "!" then
      let next ← commandToken inner.nested (2 * (← Reader.fuel))
      putBack next
      if endsPipeline next then
        return .negation (.simple (← get).place.number [] [] [])
      else return .negation (← pipeline inner fuel)
    else if first.isSign "time" then
      let next ← commandToken inner.nested (2 * (← Reader.fuel))
      let portable := next.isSign "-p"
      let next ← if portable then commandToken inner.nested (2 * (← Reader.fuel)) else pure next
      let next ← if next.isSign "--" then commandToken inner.nested (2 * (← Reader.fuel)) else pure next
      putBack next
      if endsPipeline next then return .timed portable .nothing
      else return .timed portable (← pipeline inner fuel)
    else
      putBack first
      let script ← command inner
      match ← pipelineRest inner (2 * (← Reader.fuel)) script with
      | [single] => return single
      | commands => return .pipeline commands

/-- Pipelines that depend on the ones before them. -/
def chain (inner : Inner) : (fuel : Nat) → Script → Reader Script
  | 0, script => return script
  | fuel + 1, script => do
    let next ← token inner.nested
    if next.isSign "&&" ∨ next.isSign "||" then
      let first ← tokenAfterLines inner.nested
      putBack first
      let second ← pipeline inner (2 * (← Reader.fuel) + 2)
      chain inner fuel (if next.isSign "&&" then .both script second else .either script second)
    else
      putBack next
      return script

/-- A chain of pipelines. -/
def chainedPipelines (inner : Inner) : Reader Script := do
  let first ← pipeline inner (2 * (← fuel) + 2)
  chain inner (2 * (← fuel)) first

/-- What has been read of a list, and whether the next command begins a line. -/
structure ListRead where
  script : Option Script
  lines : Bool

/-- Adds a command to a list. -/
def ListRead.add (before : ListRead) (script : Script) : Script :=
  match before.script with
  | none => script
  | some first => .sequence before.lines first script

/-- Reads commands up to the end of a list. The token that ends it is put back, except for the line
end that finishes a line. -/
def list (inner : Inner) (kind : ListKind) : (fuel : Nat) → (before : ListRead) → Reader Script
  | 0, before => return before.script.getD .nothing
  | fuel + 1, before => do
    let first ←
      if kind = ListKind.line then commandToken inner.nested (2 * (← Reader.fuel))
      else tokenAfterLines inner.nested
    match first with
    | .lineEnd => return before.script.getD .nothing
    | _ =>
      putBack first
      let isDone := match first with
        | .finish => kind = ListKind.line && before.script.isSome
        | _ => first.isListEnd && (kind = ListKind.maybeEmpty || (kind = ListKind.filled && before.script.isSome))
      if isDone then return before.script.getD .nothing
      else
        let script ← chainedPipelines inner
        let next ← token inner.nested
        let script := if next.isSign "&" then Script.background script else script
        let after := before.add script
        match next with
        | .lineEnd =>
          if kind = ListKind.line then return after
          else list inner kind fuel ⟨some after, (← get).nested⟩
        | .finish =>
          putBack .finish
          return after
        | _ =>
          if next.isSign "&" ∨ next.isSign ";" then list inner kind fuel ⟨some after, false⟩
          else if kind = ListKind.line then unexpected next
          else
            putBack next
            return after

end Reader

/-- The readers of nested commands, down to a depth. -/
def Inner.ofDepth : (depth : Nat) → Inner
  | 0 => ⟨fun _ => Reader.failWith [], Reader.failWith []⟩
  | depth + 1 =>
    { list := fun kind => do Reader.list (Inner.ofDepth depth) kind (2 * (← Reader.fuel) + 2) ⟨none, false⟩
      command := fun source => Reader.command (Inner.ofDepth depth) source }

/-- Reads the next complete command of a script, unless there is none. -/
def Reader.completeCommand : Reader (Option Script) := do
  let inner := Inner.ofDepth (2 * (← fuel))
  match ← commandToken inner.nested (2 * (← fuel)) with
  | .finish => return none
  | first =>
    putBack first
    return some (← inner.list .line)

/-- A word that is read from a text by itself. -/
def Reader.wordOf (text : Text) (line : Nat) (context : Context) : Except SyntaxError (Word × Source) :=
  Reader.word (Inner.ofDepth (2 * text.length + 2)).nested context (Source.ofText text line)

end KDispatch.Shell.Extended
