import KDispatch.Shell.Utility.Calendar
import KDispatch.Shell.Utility.Records.State
import KDispatch.Shell.Utility.Records.Value

/-!
Evaluation: expressions give values, and statements are carried out, one step at a time with a bound for
the nesting of both.
-/

namespace KDispatch.Shell.Records

/-- A number raised to a power. -/
def Operation.apply (x y : Float) : Operation → Float
  | .add => x + y
  | .subtract => x - y
  | .multiply => x * y
  | .divide => x / y
  | .remainder => remainder x y
  | .power => Float.pow x y
where
  /-- What is left of a number after whole parts of another one have been taken away. -/
  remainder (x y : Float) : Float :=
    match toReal x, toReal y with
    | .finite negative a b, .finite _ c d =>
      if c = 0 then 0.0 / 0.0
      else ofReal ((Real.finite negative (a * d % (c * b)) (b * d)).rounded .double).1
    | .finite _ _ _, .infinite _ => x
    | _, _ => 0.0 / 0.0

def Comparison.holds (order : Ordering) : Comparison → Bool
  | .equal => order = .eq
  | .unequal => order ≠ .eq
  | .less => order = .lt
  | .lessOrEqual => order ≠ .gt
  | .greater => order = .gt
  | .greaterOrEqual => order ≠ .lt

/-- A number without its fraction. -/
def wholePart (x : Float) : Float :=
  match toReal x with
  | .finite negative num den =>
    ofReal ((Real.finite (negative && num / den ≠ 0) (num / den) 1).rounded .double).1
  | _ => x

/-- The part of a text from a place on, of a length if one is given. -/
def substring (text : Text) (start : Float) (length : Option Float) : Text :=
  let first := truncated start
  let count : Int := match length with
    | some length => truncated length
    | none => text.length
  let count := if first < 1 && length.isSome then count - first else count
  let first := max first 1
  (text.drop (first.toNat - 1)).take count.toNat

/-- The place of the first occurrence of a text in another one, from 1 on. -/
def placeOf (part : Text) : (place : Nat) → Text → Nat
  | place, text =>
    if part.isPrefixOf text then place
    else
      match text with
      | [] => 0
      | _ :: rest => placeOf part (place + 1) rest

/-- What a match is replaced with: an ampersand stands for the match. -/
def replacementFor (found : Text) : Text → Text
  | '\\' :: '&' :: rest => '&' :: replacementFor found rest
  | '\\' :: '\\' :: rest => '\\' :: replacementFor found rest
  | '&' :: rest => found ++ replacementFor found rest
  | c :: rest => c :: replacementFor found rest
  | [] => []

/-- Replaces all matches; gives their number. -/
def replaceAll (m : Matcher) (replacement : Text) : (fuel : Nat) → (before rest : Text) →
    (afterMatch : Bool) → Nat × Text
  | 0, _, rest, _ => (0, rest)
  | fuel + 1, before, rest, afterMatch =>
    match m.regex.search Matcher.mode before rest with
    | none => (0, rest)
    | some found =>
      let skipped := found.before.drop before.length
      let behind := found.text.reverse ++ found.before.reverse
      if found.text.isEmpty then
        let shown := if afterMatch && skipped.isEmpty then [] else replacementFor [] replacement
        let counted := if afterMatch && skipped.isEmpty then 0 else 1
        match found.after with
        | [] => (counted, skipped ++ shown)
        | c :: after =>
          let (count, more) := replaceAll m replacement fuel (c :: behind) after false
          (count + counted, skipped ++ shown ++ c :: more)
      else
        let (count, more) := replaceAll m replacement fuel behind found.after true
        (count + 1, skipped ++ replacementFor found.text replacement ++ more)

/-- Replaces the first match; gives the number of matches. -/
def replaceFirst (m : Matcher) (replacement text : Text) : Nat × Text :=
  match m.find? text with
  | some found => (1, found.before ++ replacementFor found.text replacement ++ found.after)
  | none => (0, text)

/-- The next random number below one. -/
def nextRandom : Work Float :=
  modifyGet fun s =>
    let next : UInt64 := s.random * 6364136223846793005 + 1442695040888963407
    ((next >>> 11).toFloat / 9007199254740992.0, { s with random := next })

open Work

/-- The subscript that a value is. -/
def subscriptOf (value : Value) : Work Subscript := do
  match value with
  | .number x =>
    let n := truncated x
    if isWhole x && Number.fits n then return .integer n else return .text (← textOf value)
  | value => return .text (← textOf value)

/-- The subscript that several values make. -/
def joinedSubscript (values : List Value) : Work Subscript := do
  match values with
  | [value] => subscriptOf value
  | values =>
    let texts ← values.mapM textOf
    return .text ((← globalText "SUBSEP").intercalate texts)

/-- The seconds since the start of the clock. -/
def now : Work Int := return ((← get).machine.files.clock).fdiv 1000000000

/-- The text of a value as output shows it. -/
def shownText (value : Value) : Work Text := do
  match value with
  | .number x => return numberText (← globalText "OFMT") x
  | value => return value.toText []

/-- A place that is assigned to, whose subscripts have been evaluated. -/
inductive Place where
  | variable (name : String)
  | entry (table index : Nat)
  | field (index : Nat)

def Place.value (execute : Execution) : Place → Work Value
  | .variable name => variableValue execute name
  | .entry table index => onTable table fun t => (t.value index, t)
  | .field index => Work.field execute index

def Place.put (execute : Execution) (value : Value) : Place → Work Unit
  | .variable name => setVariable execute name value
  | .entry table index => onTable table fun t => ((), t.setValue index value)
  | .field index => setField execute index value

/-- The number of a field that a value is. -/
def fieldNumber (execute : Execution) (value : Value) : Work Nat := do
  let n := truncated value.toNumber
  if n < 0 then fault execute ("negative field index $".toList ++ Number.decimal n)
  else return n.toNat

/-- Values that need no more evaluation, for functions of numbers. -/
def numeric (f : Function) (x : Float) : Float :=
  match f with
  | .sine => Float.sin x
  | .cosine => Float.cos x
  | .exponential => Float.exp x
  | .logarithm => Float.log x
  | .root => Float.sqrt x
  | _ => wholePart x

/-- How a part of a loop has been left. -/
inductive Round where
  | completed
  | left

/-- Does work that loops may be left from. -/
def round (work : Work Unit) : Work Round := fun s =>
  match work s with
  | .ok () s => .ok .completed s
  | .error .leave s => .ok .left s
  | .error .again s => .ok .completed s
  | .error jump s => .error jump s

/-- Does the work of a routine; gives its value. -/
def untilGiven (work : Work Unit) : Work Value := fun s =>
  match work s with
  | .ok () s => .ok .missing s
  | .error (.give value) s => .ok value s
  | .error jump s => .error jump s

/-- The parts of broken-down time that a text spells. -/
def instantOf (text : Text) : Int :=
  let numbers := (blankParts text).map fun part => ((Number.signed? (some 10) part).map (·.1)).getD 0
  match numbers with
  | year :: month :: day :: hour :: minute :: second :: _ =>
    let first : Calendar.Day :=
      ⟨year + (month - 1).fdiv 12, ((month - 1).fmod 12 + 1).toNat, 1⟩
    (first.number + day - 1) * 86400 + hour * 3600 + minute * 60 + second
  | _ => -1

mutual

def eval (execute : Execution) : (fuel : Nat) → Expr → Work Value
  | 0, _ => return .missing
  | fuel + 1, e => do
    let number (e : Expr) : Work Float := return (← eval execute fuel e).toNumber
    match e with
    | .number x => return .number x
    | .text content => return .text content
    | .regex m => return .ofBool (m.isFound (← recordText))
    | .variable name => variableValue execute name
    | .bracketed e => eval execute fuel e
    | .element _ _ | .field _ =>
      (← place execute fuel e).value execute
    | .assign none target value =>
      match target with
      | .variable name =>
        let value ← eval execute fuel value
        setVariable execute name value
        return value
      | target =>
        let place ← place execute fuel target
        let value ← eval execute fuel value
        place.put execute value
        return value
    | .assign (some operation) target value =>
      let place ← place execute fuel target
      let y ← number value
      let x := (← place.value execute).toNumber
      let result := Value.number (operation.apply x y)
      place.put execute result
      return result
    | .step up old target =>
      let place ← place execute fuel target
      let x := (← place.value execute).toNumber
      let next := if up then x + 1 else x - 1
      place.put execute (.number next)
      return .number (if old then x else next)
    | .negated e => return .number (-(← number e))
    | .plus e => return .number (← number e)
    | .not e => return .ofBool !(← eval execute fuel e).isTrue
    | .binary operation a b =>
      let x ← number a
      let y ← number b
      return .number (operation.apply x y)
    | .compared comparison a b =>
      let x ← eval execute fuel a
      let y ← eval execute fuel b
      return .ofBool (comparison.holds (x.compare (← numberFormat) y))
    | .joined a b =>
      let s ← textOf (← eval execute fuel a)
      let t ← textOf (← eval execute fuel b)
      return .text (s ++ t)
    | .found positive a pattern =>
      let text ← textOf (← eval execute fuel a)
      let m ← patternOf execute fuel pattern
      return .ofBool (m.isFound text == positive)
    | .both a b =>
      if (← eval execute fuel a).isTrue then return .ofBool (← eval execute fuel b).isTrue
      else return .ofBool false
    | .either a b =>
      if (← eval execute fuel a).isTrue then return .ofBool true
      else return .ofBool (← eval execute fuel b).isTrue
    | .choice condition a b =>
      if (← eval execute fuel condition).isTrue then eval execute fuel a else eval execute fuel b
    | .member subscripts array =>
      let key ← joinedSubscript (← values execute fuel subscripts)
      let number ← tableNumber array
      return .ofBool (← onTable number fun t =>
        let (index, t) := t.find false key
        (index.isSome, t))
    | .call name arguments => call execute fuel name arguments
    | .apply f arguments => apply execute fuel f arguments
    | .read origin source target =>
      let name ← match source with
        | some e => do textOf (← eval execute fuel e)
        | none => pure []
      let record : Option (Option Text) ←
        match origin with
        | .main => some <$> nextRecord execute manyBlocks
        | .file => readFrom execute false name
        | .command => readFrom execute true name
      match record with
      | none => return .number (-1)
      | some none => return .number 0
      | some (some record) =>
        match target with
        | some target => (← place execute fuel target).put execute (.given record)
        | none => setRecord record
        return .number 1

/-- The values of expressions, from the first one on. -/
def values (execute : Execution) : (fuel : Nat) → List Expr → Work (List Value)
  | 0, _ => return []
  | _ + 1, [] => return []
  | fuel + 1, e :: more => do
    let value ← eval execute fuel e
    return value :: (← values execute fuel more)

/-- The place that an expression names. -/
def place (execute : Execution) : (fuel : Nat) → Expr → Work Place
  | 0, _ => return .variable ""
  | fuel + 1, e => do
    match e with
    | .element array subscripts =>
      let key ← joinedSubscript (← values execute fuel subscripts)
      let number ← tableNumber array
      let index ← onTable number fun t =>
        let (index, t) := t.find true key
        (index.getD 0, t)
      return .entry number index
    | .field index => return .field (← fieldNumber execute (← eval execute fuel index))
    | .bracketed e => place execute fuel e
    | .variable name => return .variable name
    | _ => return .variable ""

/-- The regular expression that an expression stands for. -/
def patternOf (execute : Execution) : (fuel : Nat) → Expr → Work Matcher
  | 0, _ => return ⟨[], .empty⟩
  | fuel + 1, e => do
    match e with
    | .regex m => return m
    | e => matcher execute (← textOf (← eval execute fuel e))

/-- Calls a routine; tables are handed over as they are. -/
def call (execute : Execution) : (fuel : Nat) → (name : String) → List Expr → Work Value
  | 0, _, _ => return .missing
  | fuel + 1, name, arguments => do
    match (← get).routines.find? (·.name = name) with
    | none => return .missing
    | some routine =>
      let tables := ((← get).tableParameters.lookup name).getD []
      let slots ← slotsFor execute fuel routine.parameters tables arguments
      let outer := (← get).frame
      modify fun s => { s with frame := slots }
      let value ← untilGiven (run execute fuel routine.body)
      modify fun s => { s with frame := outer }
      return value

/-- What the parameters of a routine stand for in a call. -/
def slotsFor (execute : Execution) : (fuel : Nat) → List String → List Bool → List Expr →
    Work (List (String × Slot))
  | 0, _, _, _ => return []
  | _ + 1, [], _, _ => return []
  | fuel + 1, name :: names, tables, arguments => do
    let isTable := tables.headD false
    let slot : Slot ←
      match arguments with
      | [] => if isTable then Slot.table <$> newTable .empty else pure (.value .missing)
      | .variable argument :: _ => do
        let s ← get
        let isKnown := match s.frame.lookup argument with
          | some (.table _) => true
          | some (.value _) => false
          | none => (s.tableNames.lookup argument).isSome
        if isTable || isKnown then Slot.table <$> tableNumber argument
        else Slot.value <$> variableValue execute argument
      | argument :: _ => Slot.value <$> eval execute fuel argument
    return (name, slot) :: (← slotsFor execute fuel names (tables.drop 1) (arguments.drop 1))

/-- Applies a function of the language. -/
def apply (execute : Execution) : (fuel : Nat) → Function → List Expr → Work Value
  | 0, _, _ => return .missing
  | fuel + 1, f, arguments => do
    let number (e : Expr) : Work Float := return (← eval execute fuel e).toNumber
    let text (e : Expr) : Work Text := do textOf (← eval execute fuel e)
    match f, arguments with
    | .length, [] => return .ofNat (← recordText).length
    | .length, [.variable name] =>
      let s ← get
      let number? := match s.frame.lookup name with
        | some (.table number) => some number
        | some (.value _) => none
        | none => s.tableNames.lookup name
      match number? with
      | some number => onTable number fun t => (.ofNat t.size, t)
      | none => return .ofNat (← text (.variable name)).length
    | .length, e :: _ => return .ofNat (← text e).length
    | .substring, [e, start] =>
      let content ← text e
      return .text (substring content (← number start) none)
    | .substring, e :: start :: length :: _ =>
      let content ← text e
      let start ← number start
      return .text (substring content start (some (← number length)))
    | .index, [a, b] =>
      let content ← text a
      return .ofNat (placeOf (← text b) 1 content)
    | .split, e :: .variable array :: separator =>
      let content ← text e
      let list ← match separator with
        | [] => do parts execute (← globalText "FS") content
        | .regex m :: _ =>
          pure (if content.isEmpty then [] else partsBetween m (content.length + 1) [] [] content)
        | e :: _ => do parts execute (← text e) content
      let number ← tableNumber array
      onTable number fun _ => ((), Table.ofValues (list.map Value.given))
      return .ofNat list.length
    | .sub, [pattern, replacement, target] => replace execute fuel false pattern replacement target
    | .gsub, [pattern, replacement, target] => replace execute fuel true pattern replacement target
    | .find, [e, pattern] =>
      let content ← text e
      let m ← patternOf execute fuel pattern
      let (start, length) : Int × Int := match m.find? content with
        | some found => (found.before.length + 1, found.text.length)
        | none => (0, -1)
      putGlobal "RSTART" (.number (Float.ofInt start))
      putGlobal "RLENGTH" (.number (Float.ofInt length))
      return .number (Float.ofInt start)
    | .format, format :: more =>
      let format ← text format
      let list ← values execute fuel more
      match Format.print (← numberFormat) format list with
      | (shown, none) => return .text shown
      | (_, some reason) => fault execute (reason.message "sprintf" format)
    | .arctangent, [a, b] =>
      let y ← number a
      return .number (Float.atan2 y (← number b))
    | .random, _ => return .number (← nextRandom)
    | .seed, list =>
      let next ← match list with
        | e :: _ => eval execute fuel e
        | [] => do pure (.number (Float.ofInt (← now)))
      modifyGet fun s => (s.seed, { s with seed := next })
    | .lower, [e] => return .text ((← text e).map Char.toLower)
    | .upper, [e] => return .text ((← text e).map Char.toUpper)
    | .system, [e] =>
      let command ← text e
      flushAll
      let halt ← task (runCommand execute "sh".toList command (pure ()))
      return .ofNat (haltStatus halt)
    | .close, [e] => return .number (Float.ofInt (← closeNamed execute (← text e)))
    | .flush, [] =>
      flushAll
      return .number 0
    | .flush, e :: _ => return .number (if ← flushNamed (← text e) then 0 else -1)
    | .now, _ => return .number (Float.ofInt (← now))
    | .calendar, list =>
      let format ← match list with
        | e :: _ => text e
        | [] => pure "%c".toList
      let time ← match list with
        | _ :: e :: _ => do pure (truncated (← number e))
        | _ => now
      return .text (Calendar.formatted time 0 format)
    | .instant, [e] => return .number (Float.ofInt (instantOf (← text e)))
    | f, [e] => return .number (numeric f (← number e))
    | _, _ => return .missing

/-- Replaces matches in a place; gives their number. -/
def replace (execute : Execution) : (fuel : Nat) → (all : Bool) → (pattern replacement target : Expr) →
    Work Value
  | 0, _, _, _, _ => return .missing
  | fuel + 1, all, pattern, replacement, target => do
    let m ← patternOf execute fuel pattern
    let replacement ← textOf (← eval execute fuel replacement)
    let place ← place execute fuel target
    let content ← textOf (← place.value execute)
    let (count, next) :=
      if all then replaceAll m replacement (content.length + 2) [] content false
      else replaceFirst m replacement content
    if count ≠ 0 then place.put execute (.text next)
    return .ofNat count

/-- Carries out a statement. -/
def run (execute : Execution) : (fuel : Nat) → Statement → Work Unit
  | 0, _ => return
  | fuel + 1, statement => do
    match statement with
    | .nothing => return
    | .expression e =>
      let _ ← eval execute fuel e
    | .print arguments sink =>
      let list ← values execute fuel arguments
      let text ←
        if arguments.isEmpty then recordText
        else do
          let texts ← list.mapM shownText
          pure ((← globalText "OFS").intercalate texts)
      let ending ← globalText "ORS"
      send execute (← sinkOf execute fuel sink) (text ++ ending)
    | .format arguments sink =>
      let list ← values execute fuel arguments
      let format ← textOf (list.headD .missing)
      let sink ← sinkOf execute fuel sink
      let (shown, reason) := Format.print (← numberFormat) format (list.drop 1)
      send execute sink shown
      match reason with
      | none => return
      | some reason => fault execute (reason.message "printf" format)
    | .sequence first second =>
      run execute fuel first
      run execute fuel second
    | .choice condition whenTrue whenFalse =>
      if (← eval execute fuel condition).isTrue then run execute fuel whenTrue
      else run execute fuel whenFalse
    | .loop condition body => loop execute fuel (some condition) body .nothing
    | .loopAfter body condition =>
      match ← round (run execute fuel body) with
      | .left => return
      | .completed => loop execute fuel (some condition) body .nothing
    | .count start condition step body =>
      run execute fuel start
      loop execute fuel condition body step
    | .each name array body =>
      let number ← tableNumber array
      let keys ← onTable number Table.keys
      each execute fuel name body keys
    | .leave => throw .leave
    | .again => throw .again
    | .next => throw .next
    | .nextFile => throw .nextFile
    | .exit status =>
      match status with
      | some e =>
        let n := truncated (← eval execute fuel e).toNumber
        modify fun s => { s with status := (n.emod 256).toNat }
      | none => pure ()
      throw .exit
    | .give value =>
      match value with
      | some e => throw (.give (← eval execute fuel e))
      | none => throw (.give .missing)
    | .delete array subscripts =>
      let number ← tableNumber array
      match subscripts with
      | none => onTable number fun _ => ((), .empty)
      | some subscripts =>
        let key ← joinedSubscript (← values execute fuel subscripts)
        onTable number fun t => ((), t.erase key)

/-- Where output goes. -/
def sinkOf (execute : Execution) : (fuel : Nat) → Option (Sink × Expr) →
    Work (Option (Sink × Text))
  | 0, _ => return none
  | _ + 1, none => return none
  | fuel + 1, some (kind, e) => do
    return some (kind, ← textOf (← eval execute fuel e))

/-- Repeats a body and a step as long as a condition holds. -/
def loop (execute : Execution) : (fuel : Nat) → Option Expr → (body step : Statement) → Work Unit
  | 0, _, _, _ => return
  | fuel + 1, condition, body, step => do
    let isOver ← match condition with
      | some e => do pure !(← eval execute fuel e).isTrue
      | none => pure false
    if isOver then return
    else
      match ← round (run execute fuel body) with
      | .left => return
      | .completed =>
        run execute fuel step
        loop execute fuel condition body step

/-- Carries out a body for each of some subscripts. -/
def each (execute : Execution) : (fuel : Nat) → (name : String) → Statement → List Text → Work Unit
  | 0, _, _, _ => return
  | _ + 1, _, _, [] => return
  | fuel + 1, name, body, key :: keys => do
    setVariable execute name (.text key)
    match ← round (run execute fuel body) with
    | .left => return
    | .completed => each execute fuel name body keys

end

end KDispatch.Shell.Records
