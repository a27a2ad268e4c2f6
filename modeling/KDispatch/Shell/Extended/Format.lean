import KDispatch.Shell.Extended.Variable
import KDispatch.Shell.Extended.Words
import KDispatch.Shell.Printf
import KDispatch.Shell.Utility.Calendar

/-!
Texts made from formats by the extended shell, which also knows quoted texts and times, and its escapes.
-/

namespace KDispatch.Shell.Extended.Format

/-- What becomes of the text after a backslash. -/
inductive Escaped where
  | text (content rest : Text)
  /-- All output ends here. -/
  | stop
  /-- The backslash stands for itself, after something has been said. -/
  | refused (complaint : Option Text)

/-- Where escapes stand: in a format, or in an argument, which knows more of them. -/
inductive EscapePlace where
  | format
  | argument
  deriving DecidableEq

/-- The escape after a backslash. -/
def escape (place : EscapePlace) (text : Text) : Escaped :=
  let missing (kind : String) (letter : Char) : Escaped :=
    .refused (some (("missing " ++ kind ++ " digit for \\").toList ++ [letter]))
  match text with
  | [] => .refused none
  | c :: rest =>
    match letterEscape? c with
    | some d => .text [d] rest
    | none =>
      if '0' ≤ c ∧ c ≤ '7' then
        let limit := if c = '0' ∧ place = .argument then 4 else 3
        let (byte, rest) := Escape.octal limit text
        .text [byte] rest
      else
        match c with
        | 'x' =>
          match digitsAt 16 2 rest with
          | some (n, rest) => .text [Char.ofNat n] rest
          | none => missing "hex" 'x'
        | 'u' | 'U' =>
          match digitsAt 16 (if c = 'u' then 4 else 8) rest with
          | some (n, rest) => .text (codePoint (c = 'U') n) rest
          | none => missing "unicode" c
        | '\'' | '"' | '?' => if place = .format then .text [c] rest else .refused none
        | 'c' => if place = .argument then .stop else .refused none
        | _ => .refused none

/-- An argument with its escapes replaced, what is said about them, and whether they end all output. -/
def unescaped : (fuel : Nat) → Text → Text × List Text × Bool
  | 0, text => (text, [], false)
  | _ + 1, [] => ([], [], false)
  | fuel + 1, '\\' :: rest =>
    match escape .argument rest with
    | .stop => ([], [], true)
    | .text content rest =>
      let (more, complaints, stopped) := unescaped fuel rest
      (content ++ more, complaints, stopped)
    | .refused complaint =>
      let (more, complaints, stopped) := unescaped fuel rest
      ('\\' :: more, complaint.toList ++ complaints, stopped)
  | fuel + 1, c :: rest =>
    let (more, complaints, stopped) := unescaped fuel rest
    (c :: more, complaints, stopped)

/-- The escapes of a text that is echoed: single letters, bytes and code points; `true` tells that an
escape has put an end to all output. -/
def echoed : (fuel : Nat) → Text → Text × Bool
  | 0, text => (text, false)
  | _ + 1, [] => ([], false)
  | _ + 1, '\\' :: 'c' :: _ => ([], true)
  | fuel + 1, '\\' :: c :: rest =>
    let (content, rest) : Text × Text :=
      match letterEscape? c with
      | some d => ([d], rest)
      | none =>
        match c with
        | '0' =>
          let (byte, rest) := Escape.octal 3 rest
          ([byte], rest)
        | 'x' =>
          match digitsAt 16 2 rest with
          | some (n, rest) => ([Char.ofNat n], rest)
          | none => (['\\', 'x'], rest)
        | 'u' | 'U' =>
          match digitsAt 16 (if c = 'u' then 4 else 8) rest with
          | some (n, rest) => (codePoint (c = 'U') n, rest)
          | none => (['\\', c], rest)
        | c => (['\\', c], rest)
    let (more, stopped) := echoed fuel rest
    (content ++ more, stopped)
  | fuel + 1, c :: rest =>
    let (more, stopped) := echoed fuel rest
    (c :: more, stopped)

/-- The moments that times without a number are told from. -/
structure Clock where
  now : Int
  started : Int

/-- Numbers of characters that are kept in named places, on top of the work of formats. -/
abbrev Work := StateT (List (Text × Nat)) Printf.Work

/-- What is said about an argument that is no number. -/
def notNumber (text : Text) : Text :=
  let kind := match text with
    | '0' :: c :: _ => if c.isDigit then "octal number" else if c = 'x' then "hex number" else "number"
    | _ => "number"
  text ++ (": invalid " ++ kind).toList

/-- What a message about an argument that is too large begins with. -/
def warningStart : Text := "warning: ".toList

def wording : Printf.Wording where
  notNumber := notNumber
  notWhole := notNumber
  outOfRange text := warningStart ++ text ++ ": Numerical result out of range".toList
  format := .extended

/-- A time as a format tells it; the argument is a number of seconds. -/
def time (clock : Clock) (layout : Layout) (format : Text) : Printf.Work Unit := do
  let next := (← get).arguments.head?
  let n ← match next with
    | none => pure (-1)
    | some _ => Printf.nextSigned wording
  let seconds := if n = -1 then clock.now else if n = -2 then clock.started else n
  let format := if format.isEmpty then "%X".toList else format
  Printf.emit (layout.string (Calendar.formatted seconds 0 format))

/-- Makes the text of one directive. -/
def directive (layout : Layout) (letter : Char) : Work Printf.Outcome := do
  match letter with
  | 'b' =>
    let text := (← Printf.nextArgument?).getD []
    let (text, complaints, stopped) := unescaped (text.length + 1) text
    for complaint in complaints do Printf.complain (warningStart ++ complaint)
    Printf.emit (layout.string text)
    return if stopped then .stopped else .done
  | 'q' =>
    Printf.emit (layout.string (Quoting.slashed ((← Printf.nextArgument?).getD [])))
    return .done
  | 'Q' =>
    let text := (← Printf.nextArgument?).getD []
    let text := match layout.precision with
      | some n => text.take n
      | none => text
    Printf.emit ({ layout with precision := none }.string (Quoting.slashed text))
    return .done
  | 'n' =>
    let printed := (← (getThe Printf.State : Work Printf.State)).output.length
    match ← Printf.nextArgument? with
    | some name => modify fun counts => counts ++ [(name, printed)]
    | none => pure ()
    return .done
  | _ =>
    if "scdiuoxXaAeEfFgG".toList.contains letter then Printf.directive wording [] layout letter
    else return .failed (Reader.marked [letter] ++ ": invalid format character".toList)

/-- Uses a format once. -/
def pass (clock : Clock) : (fuel : Nat) → Text → Work Printf.Outcome
  | 0, _ => return .done
  | _ + 1, [] => return .done
  | fuel + 1, '\\' :: rest => do
    match escape .format rest with
    | .text content rest =>
      Printf.emit content
      pass clock fuel rest
    | .stop => return .stopped
    | .refused complaint =>
      for complaint in complaint.toList do Printf.complain (warningStart ++ complaint)
      Printf.emit ['\\']
      pass clock fuel rest
  | fuel + 1, '%' :: '%' :: rest => do
    Printf.emit ['%']
    pass clock fuel rest
  | fuel + 1, '%' :: rest => do
    let (layout, after) ← Printf.layoutOf wording rest
    let after := after.dropWhile fun c => "hlLjzt".toList.contains c
    match after with
    | [] =>
      return .failed (Reader.marked ('%' :: rest) ++ ": missing format character".toList)
    | '(' :: timed =>
      let format := timed.takeWhile (· ≠ ')')
      match timed.drop format.length with
      | ')' :: 'T' :: after =>
        time clock layout format
        pass clock fuel after
      | _ => return .failed (Reader.marked ['('] ++ ": invalid format character".toList)
    | letter :: after =>
      match ← directive layout letter with
      | .done => pass clock fuel after
      | outcome => return outcome
  | fuel + 1, c :: rest => do
    Printf.emit [c]
    pass clock fuel rest

/-- Uses a format as long as it takes arguments and some are left. -/
def passes (clock : Clock) (format : Text) : (fuel : Nat) → Work (Option Text)
  | 0 => return none
  | fuel + 1 => do
    let before := (← (getThe Printf.State : Work Printf.State)).arguments.length
    match ← pass clock (format.length + 1) format with
    | .stopped => return none
    | .failed reason => return some reason
    | .done =>
      let after := (← (getThe Printf.State : Work Printf.State)).arguments.length
      if after = before ∨ after = 0 then return none else passes clock format fuel

/-- The text that a format makes of arguments, and the numbers of characters that it keeps. -/
def print (clock : Clock) (format : Text) (arguments : List Text) : Printed × List (Text × Nat) :=
  let work := (passes clock format (arguments.length + 1)).run []
  let ((failure, counts), state) := work.run ⟨arguments, [], []⟩
  (⟨state.output.reverse, state.complaints.reverse, failure⟩, counts)

end KDispatch.Shell.Extended.Format
