import KDispatch.Definition.Basic
import KDispatch.Term.Decode

/-!
Definitions from JSON. Members that are not asked for are ignored, absent optional ones have their
defaults, and only optional terms, labels and sorts may be null. Within a sentence tags may be given
by their position.
-/

namespace KDispatch

/-- An object stands for its member `att` if that is an object, else for itself. -/
def Attributes.ofJson? : Json → Option Attributes
  | .object members =>
    match members.lookup "att" with
    | some (.object attributes) => some (KeyMap.ofList attributes)
    | _ => some (KeyMap.ofList members)
  | _ => none

/-- Absent attributes are empty. -/
def Attributes.ofField? : Option Json → Option Attributes :=
  Json.orDefault KeyMap.empty Attributes.ofJson?

def Rule.ofJson? (indexed : Bool) (value : Json) : Option Rule := do
  let [body, requires, ensures, att] ← value.fields? ["body", "requires", "ensures", "att"] | none
  let body ← body.bind (Term.ofJson? indexed)
  let requires ← Json.orNull (Term.ofJson? indexed) requires
  let ensures ← Json.orNull (Term.ofJson? indexed) ensures
  let attributes ← Attributes.ofField? att
  return ⟨body, requires, ensures, attributes⟩

namespace ProductionItem

inductive Kind where
  | terminal
  | nonTerminal

def kinds : List (String × Kind) := [("KTerminal", .terminal), ("KNonTerminal", .nonTerminal)]

/-- An item of an unknown kind is `other`; as an array it has no fields. -/
def ofJson? (indexed : Bool) (value : Json) : Option ProductionItem := do
  let (tag, record) ← value.node?
  match ← Json.kind? kinds indexed tag with
  | some .terminal =>
    let [text] ← record.fields? ["value"] | none
    (text.bind Json.string?).map .terminal
  | some .nonTerminal =>
    let [sort] ← record.fields? ["sort"] | none
    (sort.bind Json.name?).map .nonTerminal
  | none => (record.fields? []).map fun _ => .other

end ProductionItem

def Production.ofJson? (indexed : Bool) (value : Json) : Option Production := do
  let [label, sort, items, att] ← value.fields? ["klabel", "sort", "productionItems", "att"] | none
  let label ← Json.orNull Json.name? label
  let sort ← Json.orNull Json.name? sort
  let items ← Json.orDefault [] (Json.list? (ProductionItem.ofJson? indexed)) items
  let attributes ← Attributes.ofField? att
  return ⟨label, sort, items, attributes⟩

namespace Sentence

inductive Kind where
  | production
  | rule

def kinds : List (String × Kind) := [("KProduction", .production), ("KRule", .rule)]

/-- A sentence of an unknown kind is `other`; as an array it has no fields. -/
def ofJson? (value : Json) : Option Sentence := do
  let (tag, record) ← value.node?
  match ← Json.kind? kinds false tag with
  | some .production => (Production.ofJson? true record).map .production
  | some .rule => (Rule.ofJson? true record).map .rule
  | none => (record.fields? []).map fun _ => .other

end Sentence

def FlatModule.ofJson? (value : Json) : Option FlatModule := do
  let [name, imports, sentences, att] ←
    value.fields? ["name", "imports", "localSentences", "att"] | none
  let name ← name.bind Json.string?
  let imports ← Json.orDefault [] (Json.list? Json.name?) imports
  let sentences ← Json.orDefault [] (Json.list? Sentence.ofJson?) sentences
  let attributes ← Attributes.ofField? att
  return ⟨name, imports, sentences, attributes⟩

def Definition.ofJson? (value : Json) : Option Definition := do
  let [mainModule, modules, att] ← value.fields? ["mainModule", "modules", "att"] | none
  let mainModule ← mainModule.bind Json.string?
  let modules ← modules.bind (Json.list? FlatModule.ofJson?)
  let attributes ← Attributes.ofField? att
  return ⟨mainModule, modules, attributes⟩

end KDispatch
