import KDispatch.Definition.Basic

/-!
Looking up rules and productions, which finds the first one in document order. Leaving out the source-map attributes leaves the sentences in their
order, with the same identifiers, labels, items and cell marks, so that each look-up finds the sentence
in the same place.
-/

namespace KDispatch

namespace Attributes

theorem find?_withoutSourceMap (attributes : Attributes) (key : String) :
    attributes.withoutSourceMap.find? key =
      if key ∈ [sourceKey, locationKey] then none else attributes.find? key :=
  KeyMap.find?_eraseAll attributes [sourceKey, locationKey] key

@[simp] theorem string?_withoutSourceMap_uniqueIdKey (attributes : Attributes) :
    attributes.withoutSourceMap.string? uniqueIdKey = attributes.string? uniqueIdKey := by
  rw [string?, string?, find?_withoutSourceMap, if_neg (by decide)]

@[simp] theorem contains_withoutSourceMap_cellKey (attributes : Attributes) :
    attributes.withoutSourceMap.contains cellKey = attributes.contains cellKey := by
  rw [KeyMap.contains, KeyMap.contains, find?_withoutSourceMap, if_neg (by decide)]

end Attributes

@[simp] theorem Rule.uniqueId?_withoutSourceMap (rule : Rule) :
    rule.withoutSourceMap.uniqueId? = rule.uniqueId? :=
  Attributes.string?_withoutSourceMap_uniqueIdKey rule.attributes

namespace Definition

theorem sentences_withoutSourceMap (definition : Definition) :
    definition.withoutSourceMap.sentences = definition.sentences.map Sentence.withoutSourceMap := by
  simp [sentences, withoutSourceMap, FlatModule.withoutSourceMap, List.flatMap_map,
    List.map_flatMap]

theorem rules_withoutSourceMap (definition : Definition) :
    definition.withoutSourceMap.rules = definition.rules.map Rule.withoutSourceMap := by
  rw [rules, rules, sentences_withoutSourceMap, List.filterMap_map, List.map_filterMap]
  congr 1
  funext sentence
  cases sentence <;> rfl

theorem productions_withoutSourceMap (definition : Definition) :
    definition.withoutSourceMap.productions =
      definition.productions.map Production.withoutSourceMap := by
  rw [productions, productions, sentences_withoutSourceMap, List.filterMap_map,
    List.map_filterMap]
  congr 1
  funext sentence
  cases sentence <;> rfl

theorem ruleById?_eq_none_iff {definition : Definition} {id : String} :
    definition.ruleById? id = none ↔ ∀ rule ∈ definition.rules, rule.uniqueId? ≠ some id := by
  simp [ruleById?]

theorem ruleById?_withoutSourceMap (definition : Definition) (id : String) :
    definition.withoutSourceMap.ruleById? id =
      (definition.ruleById? id).map Rule.withoutSourceMap := by
  rw [ruleById?, rules_withoutSourceMap, List.find?_map, ruleById?]
  simp only [Function.comp_def, Rule.uniqueId?_withoutSourceMap]

theorem mem_productions_iff {definition : Definition} {production : Production} :
    production ∈ definition.productions ↔
      ∃ m ∈ definition.modules, .production production ∈ m.sentences := by
  have hproduction (sentence : Sentence) :
      sentence.production? = some production ↔ sentence = .production production := by
    cases sentence <;> simp [Sentence.production?]
  simp [productions, sentences, hproduction]

/-- Some production of some module has the label. -/
def Declares (definition : Definition) (label : String) : Prop :=
  ∃ m ∈ definition.modules, ∃ production,
    .production production ∈ m.sentences ∧ production.label = some label

theorem declares_iff {definition : Definition} {label : String} :
    definition.Declares label ↔
      ∃ production ∈ definition.productions, production.label = some label := by
  simp only [mem_productions_iff, Declares]
  constructor
  · rintro ⟨m, hm, production, hmem, hlabel⟩
    exact ⟨production, ⟨m, hm, hmem⟩, hlabel⟩
  · rintro ⟨production, ⟨m, hm, hmem⟩, hlabel⟩
    exact ⟨m, hm, production, hmem, hlabel⟩

/-- The production has the label, and none before it in document order does. -/
def DeclaresFirst (definition : Definition) (label : String) (first : Production) : Prop :=
  first.label = some label ∧ ∃ earlier later, definition.productions = earlier ++ first :: later ∧
    ∀ other ∈ earlier, other.label ≠ some label

/-- The first production with the given label. -/
def productionByLabel? (definition : Definition) (label : String) : Option Production :=
  definition.productions.find? (·.label == some label)

theorem isSome_productionByLabel?_iff {definition : Definition} {label : String} :
    (definition.productionByLabel? label).isSome ↔ definition.Declares label := by
  simp [productionByLabel?, declares_iff]

theorem productionByLabel?_eq_some_iff {definition : Definition} {label : String}
    {first : Production} :
    definition.productionByLabel? label = some first ↔ definition.DeclaresFirst label first := by
  simp [productionByLabel?, DeclaresFirst, List.find?_eq_some_iff_append]

theorem productionByLabel?_withoutSourceMap (definition : Definition) (label : String) :
    definition.withoutSourceMap.productionByLabel? label =
      (definition.productionByLabel? label).map Production.withoutSourceMap := by
  rw [productionByLabel?, productions_withoutSourceMap, List.find?_map]
  rfl

end Definition

end KDispatch
