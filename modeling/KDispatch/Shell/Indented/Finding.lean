import KDispatch.Shell.Indented.Notation
import KDispatch.Shell.Scan.Search

/-!
Looking for patterns in texts: what has been found, and texts with something else in its place.
-/

namespace KDispatch.Shell.Indented

namespace Core

open Work

/-- A pattern's text with the sign for the end of the text that patterns here know. -/
def withEndSigns : Text → Text
  | '\\' :: 'Z' :: rest => '\\' :: 'z' :: withEndSigns rest
  | '\\' :: c :: rest => '\\' :: c :: withEndSigns rest
  | c :: rest => c :: withEndSigns rest
  | [] => []

/-- The numbers of flags: case, lines, dots and blanks. -/
def flagNumbers : List (String × Int) :=
  [("IGNORECASE", 2), ("I", 2), ("MULTILINE", 8), ("M", 8), ("DOTALL", 16), ("S", 16), ("VERBOSE", 64),
    ("X", 64), ("UNICODE", 32), ("U", 32), ("ASCII", 256), ("A", 256)]

def flagsOf (n : Int) : Scan.Flags :=
  let has (bit : Nat) : Bool := (n.toNat / bit) % 2 = 1
  ⟨has 2, has 8, has 16, has 64⟩

/-- The text and flags of a pattern, which may be made ready already. -/
def patternParts (value : Value) (flags : Int) : Work (Text × Int) := do
  match value with
  | .text t | .bytes t => return (t, flags)
  | .object address =>
    match ← objectAt address with
    | .record _ members =>
      match members.lookup "pattern", members.lookup "flags" with
      | some (.text t), some (.integer n) => return (t, n)
      | _, _ => refuse "first argument must be string or compiled pattern"
    | _ => refuse "first argument must be string or compiled pattern"
  | _ => refuse "first argument must be string or compiled pattern"

/-- Reads a pattern. -/
def patternOf (t : Text) (flags : Int) : Work Scan.Pattern := do
  match Scan.Pattern.ofText (flagsOf flags) (withEndSigns t) with
  | .ok p => return p
  | .error reason => fail "error" (reason.toList ++ " at position 0".toList)

/-- What has been found, as a value. -/
def foundValue (p : Scan.Pattern) (pattern : Value) (subject : Array Char) (found : Scan.Found) :
    Work Value := do
  let part : Option (Nat × Nat) → Value
    | some (first, last) => .text (subject.extract first last).toList
    | none => .nothing
  let span : Option (Nat × Nat) → Value
    | some (first, last) => .tuple [.integer (first : Int), .integer (last : Int)]
    | none => .tuple [.integer (-1), .integer (-1)]
  let groups := found.groups.toList
  let names ← newTable (p.names.map fun (name, n) => (.text name.toList, part (found.groups[n]?.join)))
  let places ← newTable (p.names.map fun (name, n) => (.text name.toList, .integer (n : Int)))
  let last := (List.range groups.length).foldl
    (fun last (n : Nat) => if 0 < n && (groups.getD n none).isSome then Value.integer (n : Int) else last) .nothing
  new (.record (.kind "re.Match") [("__items__", .tuple (groups.map part)), ("__spans__", .tuple (groups.map span)),
    ("__names__", names), ("__places__", places), ("string", .text subject.toList), ("re", pattern),
    ("lastindex", last)])

/-- The text for a name or number of a group, or for an escaped letter, behind a backslash. -/
def expandedTemplate (core : Core) (groups : List Value) (names : Array (Value × Value)) :
    (fuel : Nat) → Text → Work Text
  | 0, t => return t
  | _ + 1, [] => return []
  | fuel + 1, '\\' :: 'g' :: '<' :: rest => do
    let name := rest.takeWhile (· ≠ '>')
    let value ← match Numeric.whole? 10 name with
      | some n => pure (groups.getD n.toNat .nothing)
      | none =>
        match ← core.entryPlace? (.text name) names with
        | some place => pure (names.getD place default).2
        | none => fail "IndexError" ("unknown group name '".toList ++ name ++ ['\''])
    let t := match value with
      | .text t => t
      | _ => []
    return t ++ (← expandedTemplate core groups names fuel (rest.drop (name.length + 1)))
  | fuel + 1, '\\' :: c :: rest => do
    if c.isDigit && c ≠ '0' then
      let digits := c :: (rest.take 1).takeWhile Char.isDigit
      let n := Scan.Reader.numberOf 10 digits
      if groups.length ≤ n then
        fail "error" ("invalid group reference ".toList ++ digits ++ " at position 1".toList)
      else
        let t := match groups.getD n .nothing with
          | .text t => t
          | _ => []
        return t ++ (← expandedTemplate core groups names fuel (rest.drop (digits.length - 1)))
    else
      let t : Text := match c with
        | 'n' => ['\n']
        | 't' => ['\t']
        | 'r' => ['\r']
        | '\\' => ['\\']
        | c => ['\\', c]
      return t ++ (← expandedTemplate core groups names fuel rest)
  | fuel + 1, c :: rest => return c :: (← expandedTemplate core groups names fuel rest)

/-- A member of a record. -/
def memberOfRecord (value : Value) (name : String) : Work Value := do
  match value with
  | .object address =>
    match ← objectAt address with
    | .record _ members => return (members.lookup name).getD .nothing
    | _ => return .nothing
  | _ => return .nothing

def tupleItems : Value → List Value
  | .tuple items => items
  | _ => []

/-- What a method of something that has been found gives. -/
def foundMethod (core : Core) (value : Value) (name : String) (arguments : Arguments) : Work Value := do
  let groups := tupleItems (← memberOfRecord value "__items__")
  let names ← match ← memberOfRecord value "__names__" with
    | .object address => entriesAt address
    | _ => pure #[]
  let places ← match ← memberOfRecord value "__places__" with
    | .object address => entriesAt address
    | _ => pure #[]
  let number (v : Value) : Work Nat := do
    match v with
    | .integer n =>
      if 0 ≤ n && n < groups.length then return n.toNat else fail "IndexError" "no such group".toList
    | v =>
      match ← core.entryPlace? v places with
      | some place =>
        match (places.getD place default).2 with
        | .integer n => return n.toNat
        | _ => return 0
      | none => fail "IndexError" "no such group".toList
  match name with
  | "group" =>
    match arguments.plain with
    | [] => return groups.getD 0 .nothing
    | [v] => return groups.getD (← number v) .nothing
    | vs => return .tuple (← vs.mapM fun v => do return groups.getD (← number v) .nothing)
  | "groups" =>
    let usual := (arguments.at? 0 "default").getD .nothing
    return .tuple ((groups.drop 1).map fun v =>
      match v with
      | .nothing => usual
      | v => v)
  | "groupdict" => newTable names.toList
  | "start" | "end" | "span" => do
    let spans := tupleItems (← memberOfRecord value "__spans__")
    let n ← match arguments.plain with
      | v :: _ => number v
      | [] => pure 0
    match name, spans.getD n .nothing with
    | "start", .tuple [a, _] => return a
    | "end", .tuple [_, b] => return b
    | _, span => return span
  | "expand" =>
    match arguments.first with
    | .text t => return .text (← core.expandedTemplate groups names (t.length + 1) t)
    | _ => return .nothing
  | _ => refuseMember value name

/-- A text with what a pattern matches replaced; gives also how often that has been done. -/
def substituted (core : Core) (p : Scan.Pattern) (pattern replacement : Value) (subject : Array Char)
    (limit : Nat) : Work (Text × Nat) := do
  let found := p.matchesIn subject
  let found := if limit = 0 then found else found.take limit
  let rec go : (start : Nat) → List Scan.Found → Work Text
    | start, [] => return (subject.extract start subject.size).toList
    | start, one :: rest => do
      let value ← foundValue p pattern subject one
      let new ← match replacement with
        | .text t | .bytes t => do
          let names ← match ← memberOfRecord value "__names__" with
            | .object address => entriesAt address
            | _ => pure #[]
          core.expandedTemplate (tupleItems (← memberOfRecord value "__items__")) names (t.length + 1) t
        | function => do
          match ← core.call function [value] [] with
          | .text t => pure t
          | v => refuse ("expected str instance, " ++ (← kindNameOf v) ++ " found")
      return (subject.extract start one.start).toList ++ new ++ (← go one.stop rest)
  return (← go 0 found, found.length)

/-- The parts of a text between what a pattern matches, with its groups. -/
def splitBy (p : Scan.Pattern) (subject : Array Char) (limit : Nat) : List Value :=
  let part (first last : Nat) : Value := .text (subject.extract first last).toList
  let found := p.matchesIn subject
  let found := if limit = 0 then found else found.take limit
  let rec go : (start : Nat) → List Scan.Found → List Value
    | start, [] => [part start subject.size]
    | start, one :: rest =>
      let groups := (one.groups.toList.drop 1).map fun group =>
        match group with
        | some (a, b) => part a b
        | none => Value.nothing
      part start one.start :: groups ++ go one.stop rest
  go 0 found

/-- What a function of the module for patterns gives. -/
def patternFunction (core : Core) (name : String) (arguments : Arguments) : Work Value := do
  let flags (place : Nat) : Int := arguments.whole place "flags" 0
  let subject (v : Value) : Work (Array Char) := do
    match v with
    | .text t | .bytes t => return t.toArray
    | v => refuse ("expected string or bytes-like object, got '" ++ (← kindNameOf v) ++ "'")
  let ready (place : Nat) : Work Scan.Pattern := do
    let (t, flags) ← patternParts arguments.first (flags place)
    patternOf t flags
  match name with
  | "compile" => do
    let (t, flags) ← patternParts arguments.first (flags 1)
    let p ← patternOf t flags
    let places ← newTable (p.names.map fun (name, n) => (.text name.toList, .integer (n : Int)))
    new (.record (.kind "re.Pattern")
      [("pattern", .text t), ("flags", .integer flags), ("groups", ofNat p.groups), ("groupindex", places)])
  | "match" | "search" | "fullmatch" => do
    let (t, flags) ← patternParts arguments.first (flags 2)
    let p ← patternOf (if name = "fullmatch" then "(?:".toList ++ t ++ ")\\Z".toList else t) flags
    let text ← subject arguments.second
    let start := match arguments.plain.getD 2 .nothing with
      | .integer n => n.toNat
      | _ => 0
    let found := if name = "search" then p.search text start else p.matchAt ⟨text, start⟩ none start
    match found with
    | some found => foundValue p arguments.first text found
    | none => return .nothing
  | "findall" => do
    let p ← ready 2
    let text ← subject arguments.second
    let part : Option (Nat × Nat) → Value
      | some (a, b) => .text (text.extract a b).toList
      | none => .text []
    newList ((p.matchesIn text).map fun found =>
      match found.groups.toList with
      | [all] => part all
      | [_, one] => part one
      | groups => .tuple ((groups.drop 1).map part))
  | "finditer" => do
    let p ← ready 2
    let text ← subject arguments.second
    let found ← (p.matchesIn text).mapM fun found => foundValue p arguments.first text found
    new (.steps "callable_iterator" found)
  | "sub" | "subn" => do
    let p ← ready 4
    let text ← subject (arguments.plain.getD 2 .nothing)
    let count := (arguments.whole 3 "count" 0).toNat
    let (t, n) ← core.substituted p arguments.first arguments.second text count
    return if name = "sub" then .text t else .tuple [.text t, ofNat n]
  | "split" => do
    let p ← ready 3
    newList (splitBy p (← subject arguments.second) (arguments.whole 2 "maxsplit" 0).toNat)
  | "escape" =>
    match arguments.first with
    | .text t =>
      return .text (t.flatMap fun c =>
        if "()[]\x7b\x7d?*+-|^$\\.&~# \t\n\r".toList.contains c || c.toNat = 11 || c.toNat = 12 then ['\\', c]
        else [c])
    | _ => return .nothing
  | "purge" => return .nothing
  | _ => refuseMember (.module "re") name

end Core

end KDispatch.Shell.Indented
