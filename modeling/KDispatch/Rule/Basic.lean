import KDispatch.Json.Value
import KDispatch.Ordered
import KDispatch.Term.Basic

/-!
Rewrite rules, and the attributes of rules and other sentences.
-/

/-! ## Attributes

Attribute maps of sentences, modules and definitions: JSON values by key. The source-map attributes
say where a sentence stands in the source text.
-/

namespace KDispatch

abbrev Attributes := KeyMap Json

namespace Attributes

/-- The file that a sentence comes from. -/
def sourceKey : String := "org.kframework.attributes.Source"

/-- The line and column span of a sentence. -/
def locationKey : String := "org.kframework.attributes.Location"

/-- The stable identifier of a rule. -/
def uniqueIdKey : String := "UNIQUE_ID"

def labelKey : String := "label"

def cellKey : String := "cell"

/-- The value of `key` if it is a string. -/
def string? (attributes : Attributes) (key : String) : Option String :=
  (attributes.find? key).bind Json.string?

def withoutSourceMap (attributes : Attributes) : Attributes :=
  attributes.eraseAll [sourceKey, locationKey]

end Attributes

/-! ## Rules

Rewrite rules: a body with rewrites in it, the side condition checked before, the condition
guaranteed afterwards, and attributes.
-/

structure Rule where
  body : Term
  requires : Option Term
  ensures : Option Term
  attributes : Attributes
  deriving DecidableEq

namespace Rule

def uniqueId? (rule : Rule) : Option String := rule.attributes.string? Attributes.uniqueIdKey

def withoutSourceMap (rule : Rule) : Rule :=
  { rule with attributes := rule.attributes.withoutSourceMap }

end Rule

end KDispatch
