import KDispatch.ImportGraph
import KDispatch.Printing.Rule
import KDispatch.Proofs.Definition.Lookup
import KDispatch.Proofs.Printing.SymbolTable
import Mathlib.Data.List.Forall2

/-!
Leaving out the source map. It takes the entries that point to source text out of every attribute map of a
definition and changes nothing else; so rules are found where they were, and import graphs and printed terms stay
the same.
-/

/-! ## What a definition loses

One relation for each level of a definition, down to the attribute maps. Each of them leaves one choice for what
there is afterwards.
-/

namespace KDispatch

/-- The entries of `b` are those of `a` that do not point to source text. -/
def Attributes.LosesSourceMap (a b : Attributes) : Prop :=
  ∀ entry, entry ∈ b.entries ↔ entry ∈ a.entries ∧ entry.1 ≠ sourceKey ∧ entry.1 ≠ locationKey

structure Rule.LosesSourceMap (r s : Rule) : Prop where
  body : s.body = r.body
  requires : s.requires = r.requires
  ensures : s.ensures = r.ensures
  attributes : r.attributes.LosesSourceMap s.attributes

structure Production.LosesSourceMap (p q : Production) : Prop where
  label : q.label = p.label
  sort : q.sort = p.sort
  items : q.items = p.items
  attributes : p.attributes.LosesSourceMap q.attributes

/-- Sentences of one kind, the second one without its source map. -/
inductive Sentence.LosesSourceMap : Sentence → Sentence → Prop
  | production {p q : Production} (h : p.LosesSourceMap q) : LosesSourceMap (.production p) (.production q)
  | rule {r s : Rule} (h : r.LosesSourceMap s) : LosesSourceMap (.rule r) (.rule s)
  | other : LosesSourceMap .other .other

structure FlatModule.LosesSourceMap (m n : FlatModule) : Prop where
  name : n.name = m.name
  imports : n.imports = m.imports
  sentences : List.Forall₂ Sentence.LosesSourceMap m.sentences n.sentences
  attributes : m.attributes.LosesSourceMap n.attributes

/-- The definition `e` is `d` without the entries that point to source text, wherever there are attributes. -/
structure Definition.LosesSourceMap (d e : Definition) : Prop where
  mainModule : e.mainModule = d.mainModule
  modules : List.Forall₂ FlatModule.LosesSourceMap d.modules e.modules
  attributes : d.attributes.LosesSourceMap e.attributes

theorem Attributes.losesSourceMap_iff {a b : Attributes} :
    a.LosesSourceMap b ↔ b = a.withoutSourceMap := by
  have hkept (entry : String × Json) : entry ∈ a.withoutSourceMap.entries ↔
      entry ∈ a.entries ∧ entry.1 ≠ sourceKey ∧ entry.1 ≠ locationKey := by
    simp [withoutSourceMap, KeyMap.eraseAll]
  constructor
  · intro h
    -- keys stand once, so that a map is known by its entries in whatever order
    refine KeyMap.ext_find? fun key => Option.ext fun value => ?_
    rw [← KeyMap.mem_entries_iff, ← KeyMap.mem_entries_iff, h, hkept]
  · rintro rfl
    exact hkept

theorem Rule.losesSourceMap_iff {r s : Rule} : r.LosesSourceMap s ↔ s = r.withoutSourceMap := by
  constructor
  · rintro ⟨hbody, hrequires, hensures, hattributes⟩
    cases s
    simp_all [withoutSourceMap, Attributes.losesSourceMap_iff]
  · rintro rfl
    exact ⟨rfl, rfl, rfl, Attributes.losesSourceMap_iff.2 rfl⟩

theorem Production.losesSourceMap_iff {p q : Production} :
    p.LosesSourceMap q ↔ q = p.withoutSourceMap := by
  constructor
  · rintro ⟨hlabel, hsort, hitems, hattributes⟩
    cases q
    simp_all [withoutSourceMap, Attributes.losesSourceMap_iff]
  · rintro rfl
    exact ⟨rfl, rfl, rfl, Attributes.losesSourceMap_iff.2 rfl⟩

theorem Sentence.losesSourceMap_iff {s t : Sentence} :
    s.LosesSourceMap t ↔ t = s.withoutSourceMap := by
  constructor
  · rintro (h | h | -)
    · exact congrArg _ (Production.losesSourceMap_iff.1 h)
    · exact congrArg _ (Rule.losesSourceMap_iff.1 h)
    · rfl
  · rintro rfl
    cases s with
    | production p => exact .production (Production.losesSourceMap_iff.2 rfl)
    | rule r => exact .rule (Rule.losesSourceMap_iff.2 rfl)
    | other => exact .other

/-- Lists are related element by element to what a function makes of them and to nothing else. -/
theorem forall₂_iff_eq_map {α β : Type} {R : α → β → Prop} {f : α → β}
    (h : ∀ a b, R a b ↔ b = f a) {as : List α} {bs : List β} :
    List.Forall₂ R as bs ↔ bs = as.map f := by
  have hR : R = fun a b => f a = b := by
    funext a b
    exact propext ((h a b).trans eq_comm)
  rw [hR, ← List.forall₂_map_left_iff, List.forall₂_eq_eq_eq, eq_comm]

theorem Sentence.forall₂_losesSourceMap_iff {ss ts : List Sentence} :
    List.Forall₂ LosesSourceMap ss ts ↔ ts = ss.map withoutSourceMap :=
  forall₂_iff_eq_map @losesSourceMap_iff

theorem FlatModule.losesSourceMap_iff {m n : FlatModule} :
    m.LosesSourceMap n ↔ n = m.withoutSourceMap := by
  constructor
  · rintro ⟨hname, himports, hsentences, hattributes⟩
    cases n
    simp_all [withoutSourceMap, Attributes.losesSourceMap_iff, Sentence.forall₂_losesSourceMap_iff]
  · rintro rfl
    exact ⟨rfl, rfl, Sentence.forall₂_losesSourceMap_iff.2 rfl, Attributes.losesSourceMap_iff.2 rfl⟩

theorem FlatModule.forall₂_losesSourceMap_iff {ms ns : List FlatModule} :
    List.Forall₂ LosesSourceMap ms ns ↔ ns = ms.map withoutSourceMap :=
  forall₂_iff_eq_map @losesSourceMap_iff

theorem Definition.losesSourceMap_iff {d e : Definition} :
    d.LosesSourceMap e ↔ e = d.withoutSourceMap := by
  constructor
  · rintro ⟨hmain, hmodules, hattributes⟩
    cases e
    simp_all [withoutSourceMap, Attributes.losesSourceMap_iff, FlatModule.forall₂_losesSourceMap_iff]
  · rintro rfl
    exact ⟨rfl, FlatModule.forall₂_losesSourceMap_iff.2 rfl, Attributes.losesSourceMap_iff.2 rfl⟩

/-! ## What it does not change -/

@[simp] theorem Attributes.withoutSourceMap_withoutSourceMap (attributes : Attributes) :
    attributes.withoutSourceMap.withoutSourceMap = attributes.withoutSourceMap := by
  simp [withoutSourceMap, KeyMap.eraseAll]

@[simp] theorem Sentence.withoutSourceMap_withoutSourceMap (sentence : Sentence) :
    sentence.withoutSourceMap.withoutSourceMap = sentence.withoutSourceMap := by
  cases sentence <;> simp [withoutSourceMap, Production.withoutSourceMap, Rule.withoutSourceMap]

@[simp] theorem FlatModule.withoutSourceMap_withoutSourceMap (m : FlatModule) :
    m.withoutSourceMap.withoutSourceMap = m.withoutSourceMap := by
  simp [withoutSourceMap]

@[simp] theorem ImportGraph.ofDefinition_withoutSourceMap (definition : Definition) :
    ofDefinition definition.withoutSourceMap = ofDefinition definition := by
  simp [ofDefinition, names, imports, Definition.withoutSourceMap, FlatModule.withoutSourceMap,
    List.flatMap_map]

def Sentence.attributes? : Sentence → Option Attributes
  | .production p => some p.attributes
  | .rule r => some r.attributes
  | .other => none

namespace Definition

/-- The attribute maps of the definition, of its modules and of their productions and rules. -/
def attributeMaps (definition : Definition) : List Attributes :=
  definition.attributes :: definition.modules.flatMap fun m =>
    m.attributes :: m.sentences.filterMap Sentence.attributes?

theorem attributeMaps_withoutSourceMap (definition : Definition) :
    definition.withoutSourceMap.attributeMaps =
      definition.attributeMaps.map Attributes.withoutSourceMap := by
  have hsentence (sentence : Sentence) : sentence.withoutSourceMap.attributes? =
      sentence.attributes?.map Attributes.withoutSourceMap := by
    cases sentence <;> rfl
  simp [attributeMaps, withoutSourceMap, FlatModule.withoutSourceMap, List.flatMap_map, List.map_flatMap,
    List.filterMap_map, List.map_filterMap, hsentence]

/-- The rule that is found by an identifier, and how many sentences stand before it in document order, none of them
a rule with this identifier. -/
structure FindsAt (definition : Definition) (id : String) (position : Nat) (rule : Rule) : Prop where
  found : definition.ruleById? id = some rule
  stands : definition.sentences[position]? = some (.rule rule)
  first : ∀ i < position, ∀ other, definition.sentences[i]? = some (.rule other) → other.uniqueId? ≠ some id

theorem exists_findsAt {definition : Definition} {id : String} {rule : Rule}
    (h : definition.ruleById? id = some rule) : ∃ position, definition.FindsAt id position rule := by
  -- the rules are found among the sentences, so the first one that fits is the first sentence that does
  have hfind := h
  rw [ruleById?, rules, List.find?_filterMap, Option.bind_eq_some_iff] at hfind
  obtain ⟨sentence, hsentence, hrule⟩ := hfind
  obtain ⟨-, position, hlt, hstands, hfirst⟩ := List.find?_eq_some_iff_getElem.1 hsentence
  have hkind : sentence = .rule rule := by
    cases sentence <;> simp_all [Sentence.rule?]
  refine ⟨position, h, ?_, fun i hi other hother hid => ?_⟩
  · rw [List.getElem?_eq_getElem hlt, hstands, hkind]
  · obtain ⟨hilt, hi'⟩ := List.getElem?_eq_some_iff.1 hother
    have hnot := hfirst i hi
    simp [hi', Sentence.rule?, hid] at hnot

theorem FindsAt.withoutSourceMap {definition : Definition} {id : String} {position : Nat} {rule : Rule}
    (h : definition.FindsAt id position rule) :
    definition.withoutSourceMap.FindsAt id position rule.withoutSourceMap := by
  refine ⟨?_, ?_, fun i hi other hother => ?_⟩
  · rw [ruleById?_withoutSourceMap, h.found, Option.map_some]
  · rw [sentences_withoutSourceMap, List.getElem?_map, h.stands, Option.map_some, Sentence.withoutSourceMap]
  · rw [sentences_withoutSourceMap, List.getElem?_map, Option.map_eq_some_iff] at hother
    obtain ⟨sentence, hsentence, hmapped⟩ := hother
    -- kinds of sentences stay, so that only a rule can have become the other rule
    cases sentence with
    | rule r =>
      cases hmapped
      rw [Rule.uniqueId?_withoutSourceMap]
      exact h.first i hi r hsentence
    | production | other => contradiction

/-- Afterwards no attribute map has a key that points to source text, and everything else is as it was. By each
identifier either no rule is found, before and afterwards, or one at the same place. The import graph and the printed
terms are the same, and nothing is left to be taken out. -/
theorem withoutSourceMap_loses_source_map_only (definition : Definition) :
    (∀ attributes ∈ definition.withoutSourceMap.attributeMaps,
      attributes.contains Attributes.sourceKey = false ∧ attributes.contains Attributes.locationKey = false) ∧
    (∀ e, definition.LosesSourceMap e ↔ e = definition.withoutSourceMap) ∧
    (∀ id, definition.ruleById? id = none ∧ definition.withoutSourceMap.ruleById? id = none ∨
      ∃ position rule rule', definition.FindsAt id position rule ∧
        definition.withoutSourceMap.FindsAt id position rule' ∧ rule.LosesSourceMap rule') ∧
    ImportGraph.ofDefinition definition.withoutSourceMap = ImportGraph.ofDefinition definition ∧
    (∀ t : Term, t.print (SymbolTable.ofDefinition definition.withoutSourceMap) =
      t.print (SymbolTable.ofDefinition definition)) ∧
    definition.withoutSourceMap.withoutSourceMap = definition.withoutSourceMap := by
  refine ⟨?_, fun e => losesSourceMap_iff, fun id => ?_, ImportGraph.ofDefinition_withoutSourceMap definition,
    fun t => by rw [SymbolTable.ofDefinition_withoutSourceMap], ?_⟩
  · rw [attributeMaps_withoutSourceMap, List.forall_mem_map]
    intro attributes _
    simp [KeyMap.contains, Attributes.find?_withoutSourceMap]
  · cases hfind : definition.ruleById? id with
    | none => simp [ruleById?_withoutSourceMap, hfind]
    | some rule =>
      obtain ⟨position, hposition⟩ := exists_findsAt hfind
      exact .inr ⟨position, rule, rule.withoutSourceMap, hposition, hposition.withoutSourceMap,
        Rule.losesSourceMap_iff.2 rfl⟩
  · simp [withoutSourceMap]

end Definition

end KDispatch
