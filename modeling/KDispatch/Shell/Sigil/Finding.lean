import KDispatch.Shell.Scan.Reader
import KDispatch.Shell.Sigil.State

/-!
Looking for patterns in texts, and what is known about the last thing that has been found.
-/

namespace KDispatch.Shell.Sigil

namespace Finding

/-- The text of a part of the subject. -/
def part (f : Finding) (first last : Nat) : Text := (f.subject.extract first last).toList

/-- The text that a group has matched. -/
def group? (f : Finding) (number : Nat) : Option Text :=
  (f.groups[number]?.join).map fun (first, last) => f.part first last

def start (f : Finding) : Nat := ((f.groups[0]?.join).map (·.1)).getD 0

def stop (f : Finding) : Nat := ((f.groups[0]?.join).map (·.2)).getD 0

/-- What the groups have matched. -/
def captures (f : Finding) : List Value :=
  (List.range (f.groups.size - 1)).map fun n =>
    match f.group? (n + 1) with
    | some text => .text text
    | none => .missing

/-- The number of the last group that has matched. -/
def lastGroup (f : Finding) : Nat :=
  (List.range f.groups.size).foldl
    (fun last n => if 0 < n && (f.groups[n]?.join).isSome then n else last) 0

end Finding

namespace Work

/-- The flags of a pattern. -/
def flagsOf (letters : List Char) : Scan.Flags :=
  ⟨letters.contains 'i', letters.contains 'm', letters.contains 's', letters.contains 'x'⟩

/-- A pattern that a text spells, with the letters behind it. -/
def patternOf (text : Text) (letters : String) : Work Scan.Pattern := do
  let letters := letters.toList.filter fun c => "imsx".toList.contains c
  let key := letters ++ '/' :: text
  match (← get).patterns.lookup key with
  | some p => return p
  | none =>
    match Scan.Pattern.ofText (flagsOf letters) text with
    | .ok p =>
      modify fun s => { s with patterns := (key, p) :: s.patterns }
      return p
    | .error reason => fail (reason.toList ++ " in regex m/".toList ++ text ++ ['/'])

/-- Keeps what has been found. -/
def putFinding (p : Scan.Pattern) (subject : Array Char) (found : Scan.Found) : Work Finding := do
  let finding : Finding := ⟨subject, found.groups, p.names⟩
  modify fun s => { s with finding := some finding }
  return finding

/-- What a special name stands for that tells about what has been found last. -/
def findingValue? (name : String) : Work (Option Value) := do
  let textOr (text : Option Text) : Value := (text.map Value.text).getD .missing
  let finding := (← get).finding
  match name with
  | "&" => return some (textOr (finding.bind (·.group? 0)))
  | "+" => return some (textOr (finding.bind fun f => f.group? f.lastGroup))
  | "'" => return some (textOr (finding.map fun f => f.part f.stop f.subject.size))
  | _ =>
    if name = String.singleton (Char.ofNat 0x60) then
      return some (textOr (finding.map fun f => f.part 0 f.start))
    else if name.toList.all Char.isDigit && name ≠ "0" then
      return some (textOr (finding.bind (·.group? (name.toNat?.getD 0))))
    else return none

/-- The parts of a text between the places where a pattern is found; what groups have matched is put
between them. `limit` is how many parts there may be. -/
def splitParts (p : Scan.Pattern) (text : Array Char) (limit : Nat) : List Value :=
  let part (first last : Nat) : Value := .text (text.extract first last).toList
  let rec go : List Scan.Found → (start count : Nat) → List Value
    | [], start, _ => [part start text.size]
    | found :: rest, start, count =>
      if 0 < limit && limit ≤ count + 1 then [part start text.size]
      else if found.stop = 0 || (found.start = found.stop && text.size ≤ found.start) then
        go rest start count
      else
        let groups := (⟨text, found.groups, []⟩ : Finding).captures
        part start found.start :: groups ++ go rest found.stop (count + 1)
  go (p.matchesIn text) 0 0

/-- Parts without the empty ones at their end. -/
def withoutEmptyEnd (parts : List Value) : List Value :=
  let isEmpty : Value → Bool
    | .missing => true
    | .text t => t.isEmpty
    | _ => false
  (parts.reverse.dropWhile isEmpty).reverse

/-- The parts of a text between the places where a pattern is found. -/
def split (p : Scan.Pattern) (text : Text) (limit : Int) : List Value :=
  if text.isEmpty then []
  else
    let parts := splitParts p text.toArray limit.toNat
    if limit = 0 then withoutEmptyEnd parts else parts

/-- The characters of a text after others have been put in their places, and how many have been. -/
def transliterated (source replacement : Text) (flags : String) (text : Text) : Text × Nat :=
  let has (c : Char) : Bool := flags.toList.contains c
  let complement := has 'c'
  let deletes := has 'd'
  let replacement := if replacement.isEmpty && !deletes then (if complement then [] else source) else replacement
  let newOf? (c : Char) : Option (Option Char) :=
    if complement then
      if source.contains c then none
      else if deletes then some none
      else some (some (replacement.getLast?.getD c))
    else
      (source.idxOf? c).map fun index =>
        match replacement[index]? with
        | some d => some d
        | none => if deletes then none else some (replacement.getLast?.getD c)
  let rec go : Text → (last : Option Char) → Text × Nat
    | [], _ => ([], 0)
    | c :: rest, last =>
      match newOf? c with
      | none =>
        let (more, count) := go rest none
        (c :: more, count)
      | some none =>
        let (more, count) := go rest last
        (more, count + 1)
      | some (some d) =>
        if has 's' && last = some d then
          let (more, count) := go rest last
          (more, count + 1)
        else
          let (more, count) := go rest (some d)
          (d :: more, count + 1)
  go text none

end Work

end KDispatch.Shell.Sigil
