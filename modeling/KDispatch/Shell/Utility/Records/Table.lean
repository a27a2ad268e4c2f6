import KDispatch.Shell.Utility.Records.Syntax
import KDispatch.Shell.Utility.Records.Value

/-!
Tables of values by subscripts. The entries stand in slots, chosen by a hash of the subscript, and those
that have been used last come first in their slots. Subscripts that are integers have slots of their own;
such an entry gets its place among the texts only when a text is looked up, or when the table is listed.
-/

namespace KDispatch.Shell.Records

/-- A subscript: an integer, or any other text. -/
inductive Subscript where
  | integer (n : Int)
  | text (content : Text)

def Subscript.toText : Subscript → Text
  | .integer n => Number.decimal n
  | .text content => content

structure Table where
  /-- The values of all entries there have ever been. -/
  values : Array Value
  /-- The entries by their texts, if they have been put there. -/
  texts : Array (List (Text × Nat))
  /-- The entries that have been looked up by integers. -/
  integers : Array (List (Int × Nat))
  /-- Whether the entries have been put among the texts. -/
  hasTexts : Bool
  size : Nat

namespace Table

/-- How many slots a new table has. -/
def firstSlots : Nat := 64

/-- How many entries there may be for each slot. -/
def slotCapacity : Nat := 12

def empty : Table :=
  ⟨#[], Array.replicate firstSlots [], Array.replicate firstSlots [], false, 0⟩

instance : Inhabited Table := ⟨empty⟩

/-- The hash of a text. -/
def hash (text : Text) : Nat :=
  (text.foldl (fun h c => (h ^^^ UInt32.ofNat c.toNat) * 16777619) (2166136261 : UInt32)).toNat

def slotOf (t : Table) : Subscript → Nat
  | .text content => hash content % t.texts.size
  | .integer n => (n.emod t.integers.size).toNat

/-- Takes the entry with a key out of a slot. -/
def takeOut {α : Type} [BEq α] (key : α) (slot : List (α × Nat)) :
    Option Nat × List (α × Nat) :=
  (slot.lookup key, slot.filter fun (k, _) => !(k == key))

/-- Puts an entry first in the slot of its text. -/
def linkText (t : Table) (key : Text) (index : Nat) : Table :=
  { t with texts := t.texts.modify (t.slotOf (.text key)) ((key, index) :: ·) }

def linkInteger (t : Table) (n : Int) (index : Nat) : Table :=
  { t with integers := t.integers.modify (t.slotOf (.integer n)) ((n, index) :: ·) }

/-- The table with all entries among the texts. -/
def withTexts (t : Table) : Table :=
  if t.hasTexts then t
  else
    let linked := t.integers.toList.flatten.foldl
      (fun t (n, index) => t.linkText (Number.decimal n) index) t
    { linked with hasTexts := true }

/-- Spreads entries over twice as many slots, which keeps their order. -/
def spread {α : Type} (slotOf : α → Nat) (slots : Array (List (α × Nat))) :
    Array (List (α × Nat)) :=
  slots.foldl
    (fun next slot =>
      slot.foldl (fun next (key, index) => next.modify (slotOf key) (· ++ [(key, index)])) next)
    (Array.replicate (2 * slots.size) [])

/-- The table with room for its entries. -/
def grown (t : Table) : Table :=
  let slots := t.texts.size
  if slotCapacity * slots < t.size then
    { t with
      texts := spread (fun key => hash key % (2 * slots)) t.texts
      integers := spread (fun n => (n.emod ((2 * slots : Nat) : Int)).toNat) t.integers }
  else t

/-- A new entry, which has no place yet. -/
def fresh (t : Table) : Nat × Table :=
  (t.values.size, { t with values := t.values.push .missing, size := t.size + 1 }.grown)

/-- The entry with a text as its subscript; it is made if it is missing and `create` says so. -/
def findText (t : Table) (create : Bool) (key : Text) : Option Nat × Table :=
  let t := t.withTexts
  let slot := t.slotOf (.text key)
  match takeOut key (t.texts.getD slot []) with
  | (some index, others) =>
    (some index, { t with texts := t.texts.set! slot ((key, index) :: others) })
  | (none, _) =>
    if create then
      let (index, t) := t.fresh
      (some index, t.linkText key index)
    else (none, t)

def findInteger (t : Table) (create : Bool) (n : Int) : Option Nat × Table :=
  let slot := t.slotOf (.integer n)
  match takeOut n (t.integers.getD slot []) with
  | (some index, others) =>
    (some index, { t with integers := t.integers.set! slot ((n, index) :: others) })
  | (none, _) =>
    if t.hasTexts then
      match t.findText create (Number.decimal n) with
      | (some index, t) => (some index, t.linkInteger n index)
      | (none, t) => (none, t)
    else if create then
      let (index, t) := t.fresh
      (some index, t.linkInteger n index)
    else (none, t)

def find (t : Table) (create : Bool) : Subscript → Option Nat × Table
  | .text key => t.findText create key
  | .integer n => t.findInteger create n

def value (t : Table) (index : Nat) : Value := t.values.getD index .missing

def setValue (t : Table) (index : Nat) (value : Value) : Table :=
  { t with values := t.values.set! index value }

/-- Puts a value at a subscript. -/
def insert (t : Table) (key : Subscript) (value : Value) : Table :=
  match t.find true key with
  | (some index, t) => t.setValue index value
  | (none, t) => t

/-- Takes the entry of a subscript away. -/
def erase (t : Table) (key : Subscript) : Table :=
  match t.find false key with
  | (none, t) => t
  | (some index, t) =>
    let without {α : Type} (slot : List (α × Nat)) : List (α × Nat) := slot.filter (·.2 ≠ index)
    { t with texts := t.texts.map without, integers := t.integers.map without, size := t.size - 1 }

/-- The subscripts in the order of the slots. -/
def keys (t : Table) : List Text × Table :=
  let t := t.withTexts
  (t.texts.toList.flatten.map (·.1), t)

/-- The table of a list of values from subscript 1 on. -/
def ofValues (values : List Value) : Table :=
  ((List.range values.length).zip values).foldl
    (fun t (n, value) => t.insert (.integer ((n + 1 : Nat) : Int)) value) empty

end Table

/-! Which parameters of routines are tables: those that are used as tables, or handed on to such parameters. -/

/-- A use of a name that tells something about it. -/
inductive Use where
  | table (name : String)
  /-- The name is an argument of a routine, with a number from 0 on. -/
  | handed (name : String) (routine : String) (position : Nat)

/-- The arguments of a routine that are names only. -/
def handedNames (routine : String) (arguments : List Expr) : List Use :=
  ((List.range arguments.length).zip arguments).filterMap fun (position, e) =>
    match e with
    | .variable name => some (.handed name routine position)
    | _ => none

mutual

/-- The uses of names in an expression. -/
def Expr.uses : Expr → List Use
  | .number _ | .text _ | .regex _ | .variable _ => []
  | .element array subscripts => .table array :: usesOfAll subscripts
  | .field e | .bracketed e | .negated e | .plus e | .not e | .step _ _ e => e.uses
  | .assign _ a b | .binary _ a b | .compared _ a b | .joined a b | .found _ a b | .both a b
  | .either a b => a.uses ++ b.uses
  | .choice a b c => a.uses ++ b.uses ++ c.uses
  | .member subscripts array => .table array :: usesOfAll subscripts
  | .call name arguments => handedNames name arguments ++ usesOfAll arguments
  | .apply f arguments =>
    (match f, arguments with
      | .split, _ :: .variable array :: _ => [.table array]
      | _, _ => []) ++ usesOfAll arguments
  | .read _ none none => []
  | .read _ (some a) none => a.uses
  | .read _ none (some b) => b.uses
  | .read _ (some a) (some b) => a.uses ++ b.uses

def usesOfAll : List Expr → List Use
  | [] => []
  | e :: more => e.uses ++ usesOfAll more

end

/-- The uses of names in an expression, if there is one. -/
def usesOf (e : Option Expr) : List Use := (e.map Expr.uses).getD []

/-- The uses of names in a statement. -/
def Statement.uses : Statement → List Use
  | .nothing | .leave | .again | .next | .nextFile => []
  | .expression e => e.uses
  | .print arguments sink | .format arguments sink =>
    usesOfAll arguments ++ usesOf (sink.map (·.2))
  | .sequence a b => a.uses ++ b.uses
  | .choice e a b => e.uses ++ a.uses ++ b.uses
  | .loop e a => e.uses ++ a.uses
  | .loopAfter a e => a.uses ++ e.uses
  | .count a e b c => a.uses ++ usesOf e ++ b.uses ++ c.uses
  | .each _ array body => .table array :: body.uses
  | .exit e | .give e => usesOf e
  | .delete array subscripts => .table array :: usesOfAll (subscripts.getD [])

mutual

/-- The variables that an expression takes as values. -/
def Expr.names : Expr → List String
  | .number _ | .text _ | .regex _ => []
  | .variable name => [name]
  | .element _ subscripts | .member subscripts _ => namesOfAll subscripts
  | .field e | .bracketed e | .negated e | .plus e | .not e | .step _ _ e => e.names
  | .assign _ a b | .binary _ a b | .compared _ a b | .joined a b | .found _ a b | .both a b
  | .either a b => a.names ++ b.names
  | .choice a b c => a.names ++ b.names ++ c.names
  | .call _ arguments => namesOfAll arguments
  | .apply f arguments =>
    match f, arguments with
    | .length, [.variable _] => []
    | _, arguments => namesOfAll arguments
  | .read _ none none => []
  | .read _ (some a) none => a.names
  | .read _ none (some b) => b.names
  | .read _ (some a) (some b) => a.names ++ b.names

def namesOfAll : List Expr → List String
  | [] => []
  | e :: more => e.names ++ namesOfAll more

end

/-- The variables that a statement takes as values. -/
def Statement.names : Statement → List String
  | .nothing | .leave | .again | .next | .nextFile => []
  | .expression e => e.names
  | .print arguments _ | .format arguments _ => namesOfAll arguments
  | .sequence a b => a.names ++ b.names
  | .choice e a b => e.names ++ a.names ++ b.names
  | .loop e a => e.names ++ a.names
  | .loopAfter a e => a.names ++ e.names
  | .count a e b c => a.names ++ (e.map Expr.names).getD [] ++ b.names ++ c.names
  | .each name _ body => name :: body.names
  | .exit e | .give e => (e.map Expr.names).getD []
  | .delete _ subscripts => namesOfAll (subscripts.getD [])

/-- What is known of the parameters of routines: whether each is a table. -/
abbrev TableParameters := List (String × List Bool)

/-- Marks the parameters that are seen to be tables by what is known so far. -/
def markTables (routines : List Routine) (known : TableParameters) : TableParameters :=
  routines.map fun routine =>
    let uses := routine.body.uses
    let isTable (parameter : String) : Bool :=
      uses.any fun
        | .table name => name = parameter
        | .handed name callee position =>
          name = parameter && ((known.lookup callee).getD []).getD position false
    (routine.name, routine.parameters.map isTable)

/-- The parameters of a program that are tables. -/
def Program.tableParameters (p : Program) : TableParameters :=
  let rounds := p.routines.foldl (fun n routine => n + routine.parameters.length) 1
  (List.range rounds).foldl (fun known _ => markTables p.routines known) []

end KDispatch.Shell.Records
