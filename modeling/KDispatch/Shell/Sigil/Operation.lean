import KDispatch.Ordered
import KDispatch.Shell.Sigil.Functions

/-!
What operators make of values, and the entries and elements of tables and lists.
-/

namespace KDispatch.Shell.Sigil.Work

/-- A number as a word without a sign. -/
def wordOf (value : Value) : Nat := Number.bits value.toInt

def ofWord (n : Nat) : Value := .integer ((n % 18446744073709551616 : Nat) : Int)

/-- Which of two texts comes first. -/
def compareTexts (a b : Text) : Ordering :=
  if Ordered.precedes a b then .lt else if Ordered.precedes b a then .gt else .eq

def ofOrdering : Ordering → Value
  | .lt => .integer (-1)
  | .eq => .integer 0
  | .gt => .integer 1

/-- What an operator between two values gives. -/
def operate (operator : String) (a b : Value) : Work Value := do
  let (p, q) := (a.toQuantity, b.toQuantity)
  let texts : Work (Text × Text) := do return (← textOf a, ← textOf b)
  let compared (holds : Ordering → Bool) : Value :=
    match p.compare? q with
    | some order => .ofBool (holds order)
    | none => Value.empty
  match operator with
  | "+" => return (p.add q).toValue
  | "-" => return (p.subtract q).toValue
  | "*" => return (p.multiply q).toValue
  | "/" =>
    if q.isZero then fail "Illegal division by zero".toList else return (p.divide q).toValue
  | "%" =>
    let (m, n) := (p.toInt, q.toInt)
    if n = 0 then fail "Illegal modulus zero".toList else return .integer (Int.fmod m n)
  | "**" => return (p.power q).toValue
  | "." =>
    let (s, t) ← texts
    return .text (s ++ t)
  | "x" =>
    let s ← textOf a
    return .text ((List.replicate q.toInt.toNat s).flatten)
  | "==" => return compared fun order => order = .eq
  | "!=" => return .ofBool (p.compare? q ≠ some .eq)
  | "<" => return compared fun order => order = .lt
  | ">" => return compared fun order => order = .gt
  | "<=" => return compared fun order => order ≠ .gt
  | ">=" => return compared fun order => order ≠ .lt
  | "<=>" => return ((p.compare? q).map ofOrdering).getD .missing
  | "eq" | "ne" | "lt" | "gt" | "le" | "ge" | "cmp" =>
    let (s, t) ← texts
    let order := compareTexts s t
    return match operator with
      | "eq" => .ofBool (s = t)
      | "ne" => .ofBool (s ≠ t)
      | "lt" => .ofBool (order = .lt)
      | "gt" => .ofBool (order = .gt)
      | "le" => .ofBool (order ≠ .gt)
      | "ge" => .ofBool (order ≠ .lt)
      | _ => ofOrdering order
  | "&" => return ofWord (wordOf a &&& wordOf b)
  | "|" => return ofWord (wordOf a ||| wordOf b)
  | "^" => return ofWord (wordOf a ^^^ wordOf b)
  | "<<" => return ofWord (wordOf a <<< q.toInt.toNat)
  | ">>" => return ofWord (wordOf a >>> q.toInt.toNat)
  | "xor" => return .ofBool (a.isTrue != b.isTrue)
  | _ => fail ("unknown operator ".toList ++ operator.toList)

/-- What an operator before a value gives. -/
def operateOn (operator : String) (a : Value) : Work Value := do
  match operator with
  | "!" => return .ofBool (!a.isTrue)
  | "~" => return ofWord (18446744073709551615 - wordOf a)
  | _ =>
    match a with
    | .text (c :: rest) =>
      if c = '-' && rest.head?.any Char.isAlpha then return .text ('+' :: rest)
      else if c.isAlpha || c = '_' then return .text ('-' :: c :: rest)
      else return a.toQuantity.negate.toValue
    | a => return a.toQuantity.negate.toValue

/-- The value after a value, or before it. -/
def stepped (delta : Int) (value : Value) : Value :=
  match value with
  | .text t =>
    if delta = 1 && isSteppable t then .text (nextText t)
    else (value.toQuantity.add (.whole delta)).toValue
  | value => (value.toQuantity.add (.whole delta)).toValue

/-- Whether an end of a range counts as a number. -/
def isNumberEnd : Value → Bool
  | .text t => isNumeric t && !(t.head? = some '0' && 1 < t.length)
  | _ => true

/-- The values from one to another. -/
def rangeOf (a b : Value) : List Value :=
  if isNumberEnd a || (isNumberEnd b && !a.isTrue) then
    let (first, last) := (a.toInt, b.toInt)
    (List.range (last - first + 1).toNat).map fun (n : Nat) => .integer (first + n)
  else
    let last := b.plainText
    let rec go : (fuel : Nat) → Text → List Value
      | 0, _ => []
      | fuel + 1, text =>
        if last.length < text.length then []
        else if text = last then [.text text]
        else .text text :: go fuel (nextText text)
    go 100000 a.plainText

/-- The place of an element, which is made if it is missing; indices below zero count from the end. -/
def elementPlace (list : Nat) (index : Int) : Work Nat := do
  let items ← itemsAt list
  let index := if index < 0 then index + items.size else index
  if index < 0 then fail "Modification of non-creatable array value attempted, subscript -1".toList
  else
    let index := index.toNat
    match items[index]? with
    | some address => return address
    | none =>
      let missing := index + 1 - items.size
      let fresh ← (List.range missing).mapM fun _ => newScalar .missing
      changeItems list fun items => fresh.foldl Array.push items
      return fresh.getLast?.getD 0

/-- The place of an element, if it is there. -/
def elementPlace? (list : Nat) (index : Int) : Work (Option Nat) := do
  let items ← itemsAt list
  let index := if index < 0 then index + items.size else index
  return if index < 0 then none else items[index.toNat]?

def entryPlace? (table : Nat) (key : Text) : Work (Option Nat) :=
  return ((← entriesAt table).find? (·.1 = key)).map (·.2)

/-- The place of an entry, which is made if it is missing. -/
def entryPlace (table : Nat) (key : Text) : Work Nat := do
  match ← entryPlace? table key with
  | some address => return address
  | none =>
    let address ← newScalar .missing
    changeEntries table fun entries => entries.push (key, address)
    return address

/-- Takes an entry out of a table; gives its value. -/
def removeEntry (table : Nat) (key : Text) : Work Value := do
  match ← entryPlace? table key with
  | some address =>
    changeEntries table fun entries => entries.filter (·.1 ≠ key)
    valueAt address
  | none => return .missing

/-- Puts values in place of what a list holds. -/
def fillList (list : Nat) (values : List Value) : Work Unit := do
  let items ← values.mapM newScalar
  putCell list (.list items.toArray)

/-- Puts keys with values in place of what a table holds. -/
def fillTable (table : Nat) (values : List Value) : Work Unit := do
  putCell table (.table #[] 0)
  let rec go : List Value → Work Unit
    | key :: value :: rest => do
      let place ← entryPlace table (← textOf key)
      assignAt place value
      go rest
    | [key] => do
      let _ ← entryPlace table (← textOf key)
    | [] => return
  go values

/-- The keys of a table with their values. -/
def tableValues (table : Nat) : Work (List Value) := do
  let entries ← entriesAt table
  let pairs ← entries.toList.mapM fun (key, address) => do return [Value.text key, ← valueAt address]
  return pairs.flatten

/-- The function with a name, if it is defined. -/
def routine? (name : String) : Work (Option Nat) :=
  return (← get).globals.lookup ⟨'&', name⟩

/-- The function of a class or of the classes that it takes over from. -/
def methodOf? : (fuel : Nat) → (className name : String) → Work (Option Nat)
  | 0, _, _ => return none
  | fuel + 1, className, name => do
    match ← routine? (qualified "main" (className ++ "::" ++ name)) with
    | some address => return some address
    | none =>
      match (← get).globals.lookup ⟨'@', qualified "main" (className ++ "::ISA")⟩ with
      | none => return none
      | some list =>
        let parents ← (← itemsAt list).toList.mapM textAt
        let rec firstOf : List Text → Work (Option Nat)
          | [] => return none
          | parent :: rest => do
            match ← methodOf? fuel (String.ofList parent) name with
            | some address => return some address
            | none => firstOf rest
        firstOf parents

/-- Whether a class is another one or takes over from it. -/
def isKindOf : (fuel : Nat) → (className ancestor : String) → Work Bool
  | 0, _, _ => return false
  | fuel + 1, className, ancestor => do
    if className = ancestor then return true
    else
      match (← get).globals.lookup ⟨'@', qualified "main" (className ++ "::ISA")⟩ with
      | none => return false
      | some list =>
        let parents ← (← itemsAt list).toList.mapM textAt
        parents.anyM fun parent => isKindOf fuel (String.ofList parent) ancestor

/-- A message: texts that may lack the end of a line, which tells that the place of the program is to be
added. -/
def messageOf (usual : String) (values : List Value) : Work Value := do
  match values with
  | [.reference address] => return .reference address
  | values =>
    let text := (← values.mapM textOf).flatten
    let text := if text.isEmpty then usual.toList else text
    if text.getLast? = some '\n' then return .text text
    else return .text (text ++ (← whereabouts))

end KDispatch.Shell.Sigil.Work
