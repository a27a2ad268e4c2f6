import KDispatch.Text.Utf8

/-!
Patterns that are matched by trying one way after another, and how they are matched.
-/

/-! ## Patterns

Patterns that are matched by trying one way after another: every repetition says whether it takes as much
as it can or as little as it can, and groups keep what they have matched.
-/

namespace KDispatch.Shell.Scan

/-- A kind of characters that has a name. -/
inductive CharKind where
  | digit
  | word
  | space
  | blank
  | lineSpace
  | alpha
  | alnum
  | upper
  | lower
  | punct
  | control
  | graph
  | print
  | hexDigit
  | any
  deriving DecidableEq

namespace CharKind

def isWordChar (c : Char) : Bool := c.isAlphanum || c = '_' || (127 < c.toNat && c.isAlpha)

def isSpaceChar (c : Char) : Bool := c = ' ' || (9 ≤ c.toNat && c.toNat ≤ 13)

def isGraph (c : Char) : Bool := 32 < c.toNat && c.toNat < 127

/-- Whether a character is of a kind. -/
def holds (c : Char) : CharKind → Bool
  | digit => c.isDigit
  | word => isWordChar c
  | space => isSpaceChar c
  | blank => c = ' ' || c = '\t'
  | lineSpace => 10 ≤ c.toNat && c.toNat ≤ 13
  | alpha => c.isAlpha
  | alnum => c.isAlphanum
  | upper => c.isUpper
  | lower => c.isLower
  | punct => isGraph c && !c.isAlphanum
  | control => c.toNat < 32 || c.toNat = 127
  | graph => isGraph c
  | print => isGraph c || c = ' '
  | hexDigit => c.isDigit || "abcdefABCDEF".toList.contains c
  | any => true

/-- The kind of a name between brackets and colons. -/
def ofName? (name : String) : Option CharKind :=
  match name with
  | "alpha" => some alpha
  | "alnum" => some alnum
  | "blank" => some blank
  | "cntrl" => some control
  | "digit" => some digit
  | "graph" => some graph
  | "lower" => some lower
  | "print" => some print
  | "punct" => some punct
  | "space" => some space
  | "upper" => some upper
  | "word" => some word
  | "xdigit" => some hexDigit
  | _ => none

end CharKind

/-- A part of a set of characters. -/
inductive SetItem where
  | range (first last : Char)
  | kind (kind : CharKind) (negated : Bool)

/-- A set of characters. -/
structure CharSet where
  negated : Bool
  items : List SetItem

namespace CharSet

def SetItem.holds (c : Char) : SetItem → Bool
  | .range first last => first ≤ c && c ≤ last
  | .kind kind negated => kind.holds c != negated

/-- Whether a character belongs to a set, in which capital and small letters may be the same. -/
def contains (set : CharSet) (ignoresCase : Bool) (c : Char) : Bool :=
  let here (c : Char) : Bool := set.items.any (SetItem.holds c)
  (here c || (ignoresCase && (here c.toLower || here c.toUpper))) != set.negated

end CharSet

/-- A condition on a place of a text. -/
inductive Anchor where
  | textStart
  | textEnd
  /-- The end of the text, or before a line end at the end of the text. -/
  | lastEnd
  | lineStart
  | lineEnd
  | wordEdge
  | notWordEdge
  /-- Where the last match has ended. -/
  | lastMatch
  deriving DecidableEq

/-- How much a repetition takes. -/
inductive Greed where
  /-- As much as possible first. -/
  | most
  /-- As little as possible first. -/
  | least
  /-- As much as possible, whatever comes of it. -/
  | all
  deriving DecidableEq

inductive Node where
  | char (ignoresCase : Bool) (c : Char)
  | set (ignoresCase : Bool) (set : CharSet)
  | anchor (anchor : Anchor)
  | sequence (nodes : List Node)
  | choice (nodes : List Node)
  /-- A group that keeps what it has matched. -/
  | group (number : Nat) (node : Node)
  | repeated (least : Nat) (most : Option Nat) (greed : Greed) (node : Node)
  /-- What comes next, or what has come before. -/
  | look (ahead negated : Bool) (node : Node)
  /-- What a group has matched. -/
  | back (ignoresCase : Bool) (number : Nat)
  /-- The first way to match only. -/
  | firstWay (node : Node)
  /-- Puts the start of the match here. -/
  | keep

/-- A pattern with the names of its groups. -/
structure Pattern where
  node : Node
  groups : Nat
  names : List (String × Nat)

/-- How a pattern is read. -/
structure Flags where
  ignoresCase : Bool
  /-- Whether lines have starts and ends. -/
  byLines : Bool
  /-- Whether a dot stands for line ends too. -/
  dotAll : Bool
  /-- Whether blanks and comments are left out. -/
  spaced : Bool

def Flags.none : Flags := ⟨false, false, false, false⟩

end KDispatch.Shell.Scan

/-! ## Matching

Matching: a pattern becomes a function that tries a place of a text and hands every way to match on to what
has to come after it.
-/

namespace KDispatch.Shell.Scan

/-- What has been matched so far: the start of the match and the places of the groups. -/
structure Progress where
  start : Nat
  groups : Array (Option (Nat × Nat))

/-- What comes after a match: the rest of the pattern. -/
abbrev Rest := (place : Nat) → Progress → Option (Nat × Progress)

/-- Tries a place, with the rest of the pattern. -/
abbrev Trial := (place : Nat) → Progress → Rest → Option (Nat × Progress)

/-- A text in which a pattern is looked for. -/
structure Subject where
  text : Array Char
  /-- Where the last match has ended. -/
  last : Nat

namespace Subject

def isWordAt (subject : Subject) (place : Nat) : Bool :=
  match subject.text[place]? with
  | some c => CharKind.isWordChar c
  | none => false

def isWordBefore (subject : Subject) (place : Nat) : Bool :=
  0 < place && subject.isWordAt (place - 1)

/-- Whether a place is as a condition says. -/
def holds (subject : Subject) (place : Nat) : Anchor → Bool
  | .textStart => place = 0
  | .textEnd => place = subject.text.size
  | .lastEnd =>
    place = subject.text.size ||
      (place + 1 = subject.text.size && subject.text[place]? = some '\n')
  | .lineStart => place = 0 || subject.text[place - 1]? = some '\n'
  | .lineEnd => place = subject.text.size || subject.text[place]? = some '\n'
  | .wordEdge => subject.isWordBefore place != subject.isWordAt place
  | .notWordEdge => subject.isWordBefore place == subject.isWordAt place
  | .lastMatch => place = subject.last

/-- A part of the text. -/
def part (subject : Subject) (first last : Nat) : List Char :=
  (subject.text.extract first last).toList

end Subject

/-- Whether two characters are the same, if capital and small letters may be. -/
def sameChar (ignoresCase : Bool) (a b : Char) : Bool :=
  a = b || (ignoresCase && a.toLower = b.toLower)

/-- Tries characters one after the other. -/
def trialOfText (subject : Subject) (ignoresCase : Bool) : List Char → Trial
  | [], place, progress, rest => rest place progress
  | c :: more, place, progress, rest =>
    match subject.text[place]? with
    | some d =>
      if sameChar ignoresCase c d then
        trialOfText subject ignoresCase more (place + 1) progress rest
      else none
    | none => none

/-- Tries a trial again and again; a round that matches nothing is the last one. -/
def repeatTrial (trial : Trial) (most : Option Nat) (greed : Greed) : (fuel least count : Nat) → Trial
  | 0, _, _ => fun place progress rest => rest place progress
  | fuel + 1, least, count => fun place progress rest =>
    let again : Option (Nat × Progress) :=
      if most.any (· ≤ count) then none
      else
        trial place progress fun next progress =>
          if next = place && least ≤ count then none
          else repeatTrial trial most greed fuel least (count + 1) next progress rest
    if count < least then again
    else if greed = .least then (rest place progress).or again
    else again.or (rest place progress)

/-- The first way in which a trial matches. -/
def firstWay (trial : Trial) (place : Nat) (progress : Progress) : Option (Nat × Progress) :=
  trial place progress fun place progress => some (place, progress)

/-- Whether a trial that begins at one of the places up to a place ends there. -/
def endsAt (trial : Trial) (place : Nat) (progress : Progress) : (first : Nat) → Option Progress
  | 0 => (trial 0 progress fun last p => if last = place then some (last, p) else none).map (·.2)
  | first + 1 =>
    match trial (first + 1) progress fun last p => if last = place then some (last, p) else none with
    | some (_, p) => some p
    | none => endsAt trial place progress first

mutual

/-- The trial of a pattern. -/
def trialOf (subject : Subject) : Node → Trial
  | .char ignoresCase c => fun place progress rest =>
    match subject.text[place]? with
    | some d => if sameChar ignoresCase c d then rest (place + 1) progress else none
    | none => none
  | .set ignoresCase set => fun place progress rest =>
    match subject.text[place]? with
    | some c => if set.contains ignoresCase c then rest (place + 1) progress else none
    | none => none
  | .anchor anchor => fun place progress rest =>
    if subject.holds place anchor then rest place progress else none
  | .sequence nodes => trialOfAll subject nodes
  | .choice nodes => trialOfAny subject nodes
  | .group number node =>
    let inner := trialOf subject node
    fun place progress rest =>
      inner place progress fun last progress =>
        rest last { progress with groups := progress.groups.setIfInBounds number (some (place, last)) }
  | .repeated least most greed node =>
    let inner := trialOf subject node
    let whole := repeatTrial inner most greed (subject.text.size + least + 2) least 0
    if greed = .all then fun place progress rest =>
      match firstWay whole place progress with
      | some (last, progress) => rest last progress
      | none => none
    else whole
  | .look ahead negated node =>
    let inner := trialOf subject node
    fun place progress rest =>
      let found := if ahead then (firstWay inner place progress).map (·.2)
        else endsAt inner place progress place
      match found, negated with
      | some progress, false => rest place progress
      | none, true => rest place progress
      | _, _ => none
  | .back ignoresCase number => fun place progress rest =>
    match progress.groups[number]? with
    | some (some (first, last)) =>
      trialOfText subject ignoresCase (subject.part first last) place progress rest
    | _ => none
  | .firstWay node =>
    let inner := trialOf subject node
    fun place progress rest =>
      match firstWay inner place progress with
      | some (last, progress) => rest last progress
      | none => none
  | .keep => fun place progress rest => rest place { progress with start := place }

/-- One pattern after the other. -/
def trialOfAll (subject : Subject) : List Node → Trial
  | [] => fun place progress rest => rest place progress
  | [node] => trialOf subject node
  | node :: nodes =>
    let first := trialOf subject node
    let others := trialOfAll subject nodes
    fun place progress rest =>
      first place progress fun place progress => others place progress rest

/-- The first of some patterns that matches. -/
def trialOfAny (subject : Subject) : List Node → Trial
  | [] => fun _ _ _ => none
  | [node] => trialOf subject node
  | node :: nodes =>
    let first := trialOf subject node
    let others := trialOfAny subject nodes
    fun place progress rest => (first place progress rest).or (others place progress rest)

end

/-- A match: its place and the places of its groups, of which the first is the match itself. -/
structure Found where
  groups : Array (Option (Nat × Nat))

namespace Found

def start (found : Found) : Nat := ((found.groups[0]?.join).map (·.1)).getD 0

def stop (found : Found) : Nat := ((found.groups[0]?.join).map (·.2)).getD 0

end Found

namespace Pattern

/-- Matches at a place only; there may be a place at which nothing but an empty match is refused. -/
def matchAt (p : Pattern) (subject : Subject) (refused : Option Nat) (place : Nat) : Option Found :=
  let progress : Progress := ⟨place, Array.replicate (p.groups + 1) none⟩
  let found := trialOf subject p.node place progress fun last progress =>
    if last = place && refused = some last then none else some (last, progress)
  found.map fun (last, progress) =>
    ⟨progress.groups.setIfInBounds 0 (some (progress.start, last))⟩

/-- The first match from a place on. -/
def searchFrom (p : Pattern) (subject : Subject) (refused : Option Nat) : (fuel place : Nat) →
    Option Found
  | 0, _ => none
  | fuel + 1, place =>
    if subject.text.size < place then none
    else
      match p.matchAt subject refused place with
      | some found => some found
      | none => searchFrom p subject refused fuel (place + 1)

/-- The first match from a place on, which is not an empty one at a place that is refused. -/
def searchNext (p : Pattern) (text : Array Char) (refused : Option Nat) (place : Nat) : Option Found :=
  p.searchFrom ⟨text, place⟩ refused (text.size + 2 - place) place

def search (p : Pattern) (text : Array Char) (place : Nat) : Option Found := p.searchNext text none place

/-- All matches that do not overlap, from a place on. -/
def searchAll (p : Pattern) (text : Array Char) : (fuel : Nat) → (refused : Option Nat) →
    (place : Nat) → List Found
  | 0, _, _ => []
  | fuel + 1, refused, place =>
    match p.searchNext text refused place with
    | none => []
    | some found =>
      let refused := if found.start = found.stop then some found.stop else none
      found :: searchAll p text fuel refused found.stop

/-- All matches in a text. -/
def matchesIn (p : Pattern) (text : Array Char) : List Found :=
  p.searchAll text (2 * text.size + 2) none 0

end Pattern

end KDispatch.Shell.Scan
