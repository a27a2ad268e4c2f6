import KDispatch.Json.Value
import KDispatch.Term.Basic

/-!
Terms from JSON. A term is a node with one of six tags; the tags of terms within terms may also be
given by their position.
-/

namespace KDispatch.Term

inductive Kind where
  | var
  | token
  | apply
  | asPattern
  | rewrite
  | sequence
  deriving DecidableEq

/-- The kinds of terms by their tags. -/
def kinds : List (String × Kind) :=
  [("KVariable", .var), ("KToken", .token), ("KApply", .apply), ("KAs", .asPattern),
   ("KRewrite", .rewrite), ("KSequence", .sequence)]

mutual

/-- The term that a value encodes; `indexed` tells whether its own tag may be a position. -/
def ofJson? (indexed : Bool) : Json → Option Term
  | .object members =>
    match (members.lookup "node").bind (Json.kind? kinds indexed) with
    | some (some .var) => ((members.lookup "name").bind Json.string?).map .var
    | some (some .token) => do
      let text ← (members.lookup "token").bind Json.string?
      let sort ← (members.lookup "sort").bind Json.name?
      return .token text sort
    | some (some .apply) => do
      let label ← (members.lookup "label").bind Json.name?
      let args ← listMember? "args" members
      return .apply label args
    | some (some .asPattern) => do
      let pattern ← member? "pattern" members
      let binder ← member? "alias" members
      return .asPattern pattern binder
    | some (some .rewrite) => do
      let lhs ← member? "lhs" members
      let rhs ← member? "rhs" members
      return .rewrite lhs rhs
    | some (some .sequence) => (listMember? "items" members).map .sequence
    | _ => none
  | .array (tag :: fields) =>
    match Json.kind? kinds indexed tag, fields.length with
    | some (some .var), 1 => (fields[0]?.bind Json.string?).map .var
    | some (some .token), 2 => do
      let text ← fields[0]?.bind Json.string?
      let sort ← fields[1]?.bind Json.name?
      return .token text sort
    | some (some .apply), 1 => (fields[0]?.bind Json.name?).map (.apply · [])
    | some (some .apply), 2 => do
      let label ← fields[0]?.bind Json.name?
      let args ← listItem? 1 fields
      return .apply label args
    | some (some .asPattern), 2 => do
      let pattern ← item? 0 fields
      let binder ← item? 1 fields
      return .asPattern pattern binder
    | some (some .rewrite), 2 => do
      let lhs ← item? 0 fields
      let rhs ← item? 1 fields
      return .rewrite lhs rhs
    | some (some .sequence), 0 => some (.sequence [])
    | some (some .sequence), 1 => (listItem? 0 fields).map .sequence
    | _, _ => none
  | _ => none

/-- The term encoded by the member with the given key. -/
def member? (key : String) : List (String × Json) → Option Term
  | [] => none
  | (k, value) :: members => if k = key then ofJson? true value else member? key members

/-- The terms listed by the member with the given key, no terms if it is absent. -/
def listMember? (key : String) : List (String × Json) → Option (List Term)
  | [] => some []
  | (k, value) :: members => if k = key then list? value else listMember? key members

/-- The term encoded by the item at the given position. -/
def item? : Nat → List Json → Option Term
  | _, [] => none
  | 0, value :: _ => ofJson? true value
  | n + 1, _ :: values => item? n values

/-- The terms listed by the item at the given position. -/
def listItem? : Nat → List Json → Option (List Term)
  | _, [] => none
  | 0, value :: _ => list? value
  | n + 1, _ :: values => listItem? n values

def list? : Json → Option (List Term)
  | .array values => all? values
  | _ => none

def all? : List Json → Option (List Term)
  | [] => some []
  | value :: values => do
    let t ← ofJson? true value
    let ts ← all? values
    return t :: ts

end

end KDispatch.Term
