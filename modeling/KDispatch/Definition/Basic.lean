import KDispatch.Rule.Basic

/-!
Definitions: modules with imports and sentences. Rules and productions are looked up in document
order, that is by module and by sentence within it; sentences and production items of any other kind
are kept as `other`.
-/

namespace KDispatch

inductive ProductionItem where
  | terminal (text : String)
  | nonTerminal (sort : String)
  | other
  deriving DecidableEq

structure Production where
  label : Option String
  sort : Option String
  items : List ProductionItem
  attributes : Attributes
  deriving DecidableEq

inductive Sentence where
  | production (production : Production)
  | rule (rule : Rule)
  | other
  deriving DecidableEq

structure FlatModule where
  name : String
  imports : List String
  sentences : List Sentence
  attributes : Attributes
  deriving DecidableEq

structure Definition where
  mainModule : String
  modules : List FlatModule
  attributes : Attributes
  deriving DecidableEq

namespace ProductionItem

def isNonTerminal : ProductionItem → Bool
  | .nonTerminal _ => true
  | _ => false

def terminal? : ProductionItem → Option String
  | .terminal text => some text
  | _ => none

end ProductionItem

namespace Production

/-- The number of argument positions. -/
def arity (production : Production) : Nat := production.items.countP (·.isNonTerminal)

def withoutSourceMap (production : Production) : Production :=
  { production with attributes := production.attributes.withoutSourceMap }

end Production

namespace Sentence

def rule? : Sentence → Option Rule
  | .rule r => some r
  | _ => none

def production? : Sentence → Option Production
  | .production p => some p
  | _ => none

def withoutSourceMap : Sentence → Sentence
  | .production p => .production p.withoutSourceMap
  | .rule r => .rule r.withoutSourceMap
  | .other => .other

end Sentence

def FlatModule.withoutSourceMap (m : FlatModule) : FlatModule :=
  { m with
    sentences := m.sentences.map Sentence.withoutSourceMap
    attributes := m.attributes.withoutSourceMap }

namespace Definition

/-- The definition without the attributes that point to source text. -/
def withoutSourceMap (definition : Definition) : Definition :=
  { definition with
    modules := definition.modules.map FlatModule.withoutSourceMap
    attributes := definition.attributes.withoutSourceMap }

def sentences (definition : Definition) : List Sentence := definition.modules.flatMap (·.sentences)

def rules (definition : Definition) : List Rule := definition.sentences.filterMap Sentence.rule?

def productions (definition : Definition) : List Production :=
  definition.sentences.filterMap Sentence.production?

/-- The first rule with the given unique identifier. -/
def ruleById? (definition : Definition) (id : String) : Option Rule :=
  definition.rules.find? (·.uniqueId? == some id)

end Definition

end KDispatch
