import KDispatch.Shell.Syntax

/-!
Scripts of the extended shell as trees. Words keep their source, since scripts can be shown again, and
commands inside words stay texts until they run.
-/

namespace KDispatch.Shell.Extended

/-- How letters are changed. -/
inductive Casing where
  | upper
  | lower
  | toggled
  deriving DecidableEq

/-- Which matches of a pattern are replaced. -/
inductive Place where
  | first
  | every
  | atStart
  | atEnd
  deriving DecidableEq

mutual

/-- A piece of a word. -/
inductive Part where
  | text (quoted : Bool) (content : Text)
  /-- Between double quotes. -/
  | quotes (parts : List Part)
  /-- The source stands for the parameter in messages; an indirect one tells the name of another one. -/
  | parameter (source : Text) (indirect : Bool) (subject : Subject) (use : Use)
  /-- The output of commands. -/
  | output (commands : Text)
  | arithmetic (expression : List Part)
  /-- The name of a pipe to commands, which read from it or write to it. -/
  | process (reads : Bool) (commands : Text)

/-- What an expansion takes its value from. -/
inductive Subject where
  | parameter (name : String)
  | element (name : String) (subscript : List Part)
  /-- All parameters or elements, each by itself or joined. -/
  | all (name : String) (joined : Bool)
  /-- The names of the variables that begin with a text. -/
  | names (stem : String) (joined : Bool)

/-- What is done with the value. -/
inductive Use where
  | value
  | length
  /-- With `orEmpty` an empty value counts as missing. -/
  | fallback (fallback : Fallback) (orEmpty : Bool) (word : List Part)
  /-- Cuts off what matches a pattern at an end of the value. -/
  | cut (atEnd : Bool) (longest : Bool) (pattern : List Part)
  | replace (place : Place) (pattern : List Part) (replacement : List Part)
  | slice (offset : List Part) (length : Option (List Part))
  /-- Changes the first letter or all letters that match a pattern. -/
  | recase (casing : Casing) (all : Bool) (pattern : List Part)
  | transform (letter : Char)
  | malformed

end

structure Word where
  source : Text
  parts : List Part

/-- An element of a list of values. -/
structure Element where
  key : Option Word
  appends : Bool
  value : Word

inductive Assigned where
  | text (word : Word)
  | list (source : Text) (elements : List Element)

structure Assignment where
  name : String
  subscript : Option Word
  appends : Bool
  value : Assigned

inductive Argument where
  | word (word : Word)
  | assignment (assignment : Assignment)

/-- The descriptor that a redirection is for: a number, or a variable or an element that gets the
number. -/
inductive Handle where
  | number (n : Nat)
  | stored (target : Text)

inductive Redirection where
  | file (handle : Handle) (mode : OpenMode) (target : Word)
  /-- Sends both outputs to a file. -/
  | outputs (appends : Bool) (target : Word)
  /-- Makes a descriptor lead where another one does. -/
  | duplicate (handle : Handle) (writes : Bool) (source : Word)
  /-- Reads the here-document of the given number. -/
  | document (handle : Handle) (number : Nat)
  /-- Reads a word as a line. -/
  | line (handle : Handle) (word : Word)

/-- A condition between double brackets. -/
inductive Test where
  | unary (operator : String) (operand : Word)
  | binary (operator : String) (a b : Word)
  | not (test : Test)
  | both (a b : Test)
  | either (a b : Test)
  | grouped (test : Test)

/-- How a branch of a selection ends. -/
inductive BranchEnd where
  /-- The selection is over. -/
  | leaves
  /-- The next branch runs too. -/
  | falls
  /-- The patterns of the next branch are tried. -/
  | tests
  deriving DecidableEq

inductive Script where
  | nothing
  | simple (line : Nat) (assignments : List Assignment) (arguments : List Argument)
      (redirections : List Redirection)
  | redirected (body : Script) (redirections : List Redirection)
  | group (body : Script)
  | subshell (line : Nat) (body : Script)
  | pipeline (commands : List Script)
  | negation (body : Script)
  | timed (portable : Bool) (body : Script)
  | background (body : Script)
  /-- With `lines` the commands stand on lines of their own when they are shown again. -/
  | sequence (lines : Bool) (first second : Script)
  /-- The second command runs if the first one succeeds. -/
  | both (first second : Script)
  /-- The second command runs if the first one fails. -/
  | either (first second : Script)
  | choice (condition whenTrue : Script) (whenFalse : Option Script)
  /-- Repeats the body while the success of the condition is as given. -/
  | loop (success : Bool) (condition body : Script)
  /-- Without words it goes through the parameters. -/
  | each (line : Nat) (name : Word) (words : Option (List Word)) (body : Script)
  | menu (line : Nat) (name : Word) (words : Option (List Word)) (body : Script)
  /-- Counts by three arithmetic expressions. -/
  | count (line : Nat) (start condition step : Word) (body : Script)
  | select (line : Nat) (word : Word) (branches : List (List Word × Script × BranchEnd))
  | arithmetic (line : Nat) (expression : Word)
  | condition (line : Nat) (test : Test)
  | function (line : Nat) (name : Text) (body : Script)
  | companion (line : Nat) (name : String) (body : Script)

/-- A here-document. -/
structure Document where
  delimiter : Text
  /-- Whether expansions are made in it. -/
  expands : Bool
  dropsTabs : Bool
  source : Text
  parts : List Part

/-- The text of a word without quotes and expansions. -/
def Word.plain? (word : Word) : Option Text :=
  match word.parts with
  | [] => some []
  | [.text false content] => some content
  | _ => none

/-- Puts neighbouring texts of the same kind together. -/
def Part.merge : List Part → List Part
  | [] => []
  | .text quoted content :: parts =>
    match Part.merge parts with
    | .text quoted' content' :: rest =>
      if quoted = quoted' then .text quoted (content ++ content') :: rest
      else .text quoted content :: .text quoted' content' :: rest
    | rest => .text quoted content :: rest
  | part :: parts => part :: Part.merge parts

/-- The name, a subscript and a plus sign before an equals sign at the start of a text, with the lengths
of the name and of all of it. -/
def assignmentHead? (text : Text) : Option (String × Nat) :=
  let name := text.takeWhile isNameChar
  if !isName name then none
  else
    let afterName := text.drop name.length
    let afterSubscript? : Option Text :=
      match afterName with
      | '[' :: rest => closing rest 0
      | rest => some rest
    match afterSubscript? with
    | some ('=' :: rest) | some ('+' :: '=' :: rest) =>
      some (String.ofList name, text.length - rest.length)
    | _ => none
where
  /-- The text after the bracket that closes a subscript. -/
  closing : Text → (depth : Nat) → Option Text
    | [], _ => none
    | '[' :: rest, depth => closing rest (depth + 1)
    | ']' :: rest, 0 => some rest
    | ']' :: rest, depth + 1 => closing rest depth
    | _ :: rest, depth => closing rest depth

/-- Whether a word is an assignment if the command takes assignments. -/
def Word.isAssignment (word : Word) : Bool := (assignmentHead? word.source).isSome

end KDispatch.Shell.Extended
