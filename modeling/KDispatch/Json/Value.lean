import KDispatch.Decimal

/-!
JSON values. A number is an integer from -2^63 to 2^64-1 or a double; an object is the list of its
members, which readers and writers keep in ascending order of keys.
-/

namespace KDispatch

inductive Number where
  | integer (value : Int)
  | double (value : Double)
  deriving DecidableEq

inductive Json where
  | null
  | bool (value : Bool)
  | number (value : Number)
  | string (value : String)
  | array (items : List Json)
  | object (members : List (String × Json))

instance : Inhabited Json := ⟨.null⟩

namespace Json

mutual

/-- Whether two values are the same. -/
def same : Json → Json → Bool
  | .null, .null => true
  | .bool a, .bool b => a == b
  | .number a, .number b => a == b
  | .string a, .string b => a == b
  | .array as, .array bs => sameItems as bs
  | .object as, .object bs => sameMembers as bs
  | _, _ => false

def sameItems : List Json → List Json → Bool
  | [], [] => true
  | a :: as, b :: bs => same a b && sameItems as bs
  | _, _ => false

def sameMembers : List (String × Json) → List (String × Json) → Bool
  | [], [] => true
  | (k, a) :: as, (l, b) :: bs => k == l && same a b && sameMembers as bs
  | _, _ => false

end

mutual

theorem same_iff : ∀ {a b : Json}, same a b = true ↔ a = b
  | .null, b => by cases b <;> simp [same]
  | .bool _, b => by cases b <;> simp [same]
  | .number _, b => by cases b <;> simp [same]
  | .string _, b => by cases b <;> simp [same]
  | .array as, b => by cases b <;> simp [same, sameItems_iff]
  | .object as, b => by cases b <;> simp [same, sameMembers_iff]

theorem sameItems_iff : ∀ {as bs : List Json}, sameItems as bs = true ↔ as = bs
  | [], bs => by cases bs <;> simp [sameItems]
  | a :: as, bs => by cases bs <;> simp [sameItems, same_iff, sameItems_iff]

theorem sameMembers_iff :
    ∀ {as bs : List (String × Json)}, sameMembers as bs = true ↔ as = bs
  | [], bs => by cases bs <;> simp [sameMembers]
  | (k, a) :: as, bs => by
    rcases bs with _ | ⟨⟨l, b⟩, bs⟩ <;> simp [sameMembers, same_iff, sameMembers_iff]

end

instance : DecidableEq Json := fun _ _ => decidable_of_iff _ same_iff

def isObject : Json → Bool
  | .object _ => true
  | _ => false

def string? : Json → Option String
  | .string s => some s
  | _ => none

/-- The member of an object with the given key. -/
def member? (key : String) : Json → Option Json
  | .object members => members.lookup key
  | _ => none

end Json

end KDispatch

/-! ## Shapes

Shapes of encoded data. A record is an object of named fields or an array of its fields in order; a
node has a tag beside its fields, or before them; a name is a string or an object that holds one.
-/

namespace KDispatch.Json

/-- The fields of a record, `none` for absent ones. In an array the last fields may be missing, but
there may be no more elements than fields. -/
def fields? (names : List String) : Json → Option (List (Option Json))
  | .object members => some (names.map (members.lookup ·))
  | .array items =>
    if items.length ≤ names.length then
      some (items.map some ++ List.replicate (names.length - items.length) none)
    else none
  | _ => none

/-- The tag of a node and the record of its fields. -/
def node? : Json → Option (Json × Json)
  | .object members => (members.lookup "node").map (·, .object members)
  | .array (tag :: fields) => some (tag, .array fields)
  | _ => none

/-- The kind that a tag names, `some none` if it is none of `kinds`. Where `indexed`, the position of
the kind in the list is a tag too. -/
def kind? {α : Type} (kinds : List (String × α)) (indexed : Bool) : Json → Option (Option α)
  | .string name => some (kinds.lookup name)
  | .number (.integer n) =>
    if indexed && 0 ≤ n then some (kinds[n.toNat]?.map (·.2)) else none
  | _ => none

def name? : Json → Option String
  | .string name => some name
  | .object members => (members.lookup "name").bind string?
  | _ => none

/-- The items of an array, each decoded. -/
def list? {α : Type} (decode : Json → Option α) : Json → Option (List α)
  | .array items => items.mapM decode
  | _ => none

/-- A field that may be absent, and then has a default. -/
def orDefault {α : Type} (default : α) (decode : Json → Option α) : Option Json → Option α
  | none => some default
  | some value => decode value

/-- A field that may be absent or null. -/
def orNull {α : Type} (decode : Json → Option α) : Option Json → Option (Option α)
  | none => some none
  | some .null => some none
  | some value => (decode value).map some

end KDispatch.Json
