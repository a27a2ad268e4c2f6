import KDispatch.Definition.Decode
import KDispatch.Proofs.Term.Encoding

/-!
Encodings of definitions and of their parts. In object form the decoder accepts exactly the encodings, with what
they encode.
-/

namespace KDispatch

/-! ## Attributes -/

namespace Attributes

/-- Attributes are encoded by an object that has them as its member `att`, or else by the object itself. -/
inductive Encodes : Json → Attributes → Prop
  | node {value : Json} {attributes : Attributes}
      (h : value.member? "att" = some (.object attributes.entries)) : Encodes value attributes
  | bare {attributes : Attributes}
      (h : ∀ members, (Json.object attributes.entries).member? "att" ≠ some (.object members)) :
      Encodes (.object attributes.entries) attributes

/-- An absent member encodes the empty attributes. -/
inductive EncodesField : Option Json → Attributes → Prop
  | absent : EncodesField none KeyMap.empty
  | present {value : Json} {attributes : Attributes} (h : Encodes value attributes) :
      EncodesField (some value) attributes

variable {value : Json} {attributes : Attributes}

theorem ofList_entries (attributes : Attributes) : KeyMap.ofList attributes.entries = attributes :=
  KeyMap.ext (KeyMap.entries_ofList attributes.ascending)

theorem ofJson?_eq_some_iff (hordered : value.IsOrdered) :
    ofJson? value = some attributes ↔ Encodes value attributes := by
  constructor
  · intro h
    cases value with
    | object members =>
      unfold ofJson? at h
      dsimp only at h
      split at h
      case h_1 inner hatt =>
        obtain rfl := Option.some.inj h
        have hmember : (Json.object members).member? "att" = some (.object inner) := hatt
        have hinner : (Json.object inner).IsOrdered := hordered.member hmember
        refine .node ?_
        rw [KeyMap.entries_ofList hinner.ascending]
        exact hmember
      case h_2 hatt =>
        obtain rfl := Option.some.inj h
        have hentries := KeyMap.entries_ofList hordered.ascending
        have hbare : Encodes (.object (KeyMap.ofList members).entries) (KeyMap.ofList members) := by
          refine .bare ?_
          rw [hentries]
          exact hatt
        rwa [hentries] at hbare
    | null | bool _ | number _ | string _ | array _ => contradiction
  · intro h
    cases h with
    | node h =>
      obtain ⟨members, rfl⟩ := Json.eq_object_of_isObject (Json.isObject_of_member? h)
      have hatt : members.lookup "att" = some (.object attributes.entries) := h
      simp [ofJson?, hatt, ofList_entries]
    | bare h =>
      unfold ofJson?
      dsimp only
      split
      case h_1 inner hatt => exact absurd hatt (h inner)
      case h_2 => rw [ofList_entries]

theorem ofField?_eq_some_iff (hordered : value.IsOrdered) :
    ofField? (value.member? "att") = some attributes ↔ EncodesField (value.member? "att") attributes := by
  cases hmember : value.member? "att" with
  | none =>
    constructor
    · intro h
      obtain rfl := Option.some.inj h
      exact .absent
    · intro h
      cases h
      rfl
  | some inner =>
    have hinner : inner.IsOrdered := hordered.member hmember
    constructor
    · exact fun h => .present ((ofJson?_eq_some_iff hinner).1 h)
    · intro h
      cases h with
      | present h => exact (ofJson?_eq_some_iff hinner).2 h

end Attributes

/-! ## Rules -/

namespace Rule

structure Encodes (value : Json) (rule : Rule) : Prop where
  body : ∃ encoded, value.member? "body" = some encoded ∧ Term.Encodes encoded rule.body
  requires : Json.EncodesOption Term.Encodes (value.member? "requires") rule.requires
  ensures : Json.EncodesOption Term.Encodes (value.member? "ensures") rule.ensures
  attributes : Attributes.EncodesField (value.member? "att") rule.attributes

variable {value : Json} {rule : Rule}

theorem ofJson?_object (indexed : Bool) (members : List (String × Json)) :
    ofJson? indexed (.object members) = do
      let body ← ((Json.object members).member? "body").bind (Term.ofJson? indexed)
      let requires ← Json.orNull (Term.ofJson? indexed) ((Json.object members).member? "requires")
      let ensures ← Json.orNull (Term.ofJson? indexed) ((Json.object members).member? "ensures")
      let attributes ← Attributes.ofField? ((Json.object members).member? "att")
      return ⟨body, requires, ensures, attributes⟩ := rfl

theorem ofJson?_eq_some_iff {indexed : Bool} (hordered : value.IsOrdered) (hform : InObjectForm .rule value) :
    ofJson? indexed value = some rule ↔ Encodes value rule := by
  obtain ⟨members, rfl⟩ := hform.eq_object
  have hrequires : ∀ v, (Json.object members).member? "requires" = some v → v ≠ .null → InObjectForm .term v :=
    fun v hmember hnull => hform.inside (.requires hmember hnull)
  have hensures : ∀ v, (Json.object members).member? "ensures" = some v → v ≠ .null → InObjectForm .term v :=
    fun v hmember hnull => hform.inside (.ensures hmember hnull)
  rw [ofJson?_object]
  simp only [Option.bind_eq_bind, Option.bind_eq_some_iff, Option.pure_def,
    Term.orNull_ofJson?_eq_some_iff hrequires, Term.orNull_ofJson?_eq_some_iff hensures,
    Attributes.ofField?_eq_some_iff hordered]
  constructor
  · rintro ⟨body, ⟨encoded, hmember, hbody⟩, requires, hrequires, ensures, hensures, attributes, hattributes, h⟩
    obtain rfl := Option.some.inj h
    have hencodes := (Term.ofJson?_eq_some_iff (hform.inside (.body hmember))).1 hbody
    exact ⟨⟨encoded, hmember, hencodes⟩, hrequires, hensures, hattributes⟩
  · rintro ⟨⟨encoded, hmember, hbody⟩, hrequires, hensures, hattributes⟩
    have hdecoded := Term.ofJson?_of_encodes hbody indexed
    exact ⟨_, ⟨encoded, hmember, hdecoded⟩, _, hrequires, _, hensures, _, hattributes, rfl⟩

end Rule

/-! ## Productions -/

namespace ProductionItem

/-- An item with any other tag is kept as `other`. -/
inductive Encodes : Json → ProductionItem → Prop
  | terminal {value : Json} {text : String} (htag : value.HasTag "KTerminal")
      (htext : value.member? "value" = some (.string text)) : Encodes value (.terminal text)
  | nonTerminal {value encoded : Json} {sort : String} (htag : value.HasTag "KNonTerminal")
      (hmember : value.member? "sort" = some encoded) (hsort : encoded.EncodesName sort) :
      Encodes value (.nonTerminal sort)
  | other {value : Json} {tag : String} (htag : value.HasTag tag)
      (hother : tag ∉ ["KTerminal", "KNonTerminal"]) : Encodes value .other

variable {value : Json} {item : ProductionItem}

theorem lookup_kinds (tag : String) : kinds.lookup tag =
    if tag = "KTerminal" then some .terminal else if tag = "KNonTerminal" then some .nonTerminal else none := by
  simp only [kinds, lookup_cons_eq_ite, List.lookup_nil]

theorem ofJson?_of_hasTag {tag : String} (htag : value.HasTag tag) (indexed : Bool) : ofJson? indexed value =
    match kinds.lookup tag with
    | some .terminal => ((value.member? "value").bind Json.string?).map .terminal
    | some .nonTerminal => ((value.member? "sort").bind Json.name?).map .nonTerminal
    | none => some .other := by
  unfold ofJson?
  rw [Json.node?_of_hasTag htag]
  obtain ⟨members, rfl⟩ := Json.eq_object_of_isObject (Json.isObject_of_member? htag)
  simp only [Option.bind_eq_bind, Option.bind_some, Json.kind?]
  rcases kinds.lookup tag with _ | _ | _ <;> rfl

/-- In object form, a value is decoded to an item exactly if it is an encoding of it. -/
theorem ofJson?_eq_some_iff {indexed : Bool} (hform : InObjectForm .item value) :
    ofJson? indexed value = some item ↔ Encodes value item := by
  constructor
  · intro h
    obtain ⟨members, rfl⟩ := hform.eq_object
    rcases hform.member?_node trivial with hnone | ⟨tag, htag⟩
    · simp [ofJson?, Json.node?_of_no_tag hnone] at h
    rw [ofJson?_of_hasTag htag, lookup_kinds] at h
    by_cases hterminal : tag = "KTerminal"
    · obtain rfl := hterminal
      obtain ⟨text, htext, rfl⟩ := Option.map_eq_some_iff.1 h
      exact .terminal htag (Json.bind_string?_eq_some_iff.1 htext)
    · by_cases hnonTerminal : tag = "KNonTerminal"
      · obtain rfl := hnonTerminal
        obtain ⟨sort, hsort, rfl⟩ := Option.map_eq_some_iff.1 h
        obtain ⟨encoded, hmember, hsort⟩ := Option.bind_eq_some_iff.1 hsort
        exact .nonTerminal htag hmember (Json.name?_eq_some_iff.1 hsort)
      · rw [if_neg hterminal, if_neg hnonTerminal] at h
        obtain rfl := Option.some.inj h
        exact .other htag (by simp [hterminal, hnonTerminal])
  · intro h
    cases h with
    | terminal htag htext =>
      rw [ofJson?_of_hasTag htag, lookup_kinds]
      simp [htext, Json.string?]
    | nonTerminal htag hmember hsort =>
      rw [ofJson?_of_hasTag htag, lookup_kinds]
      simp [hmember, Json.name?_eq_some_iff.2 hsort]
    | other htag hother =>
      obtain ⟨hterminal, hnonTerminal⟩ : _ ≠ "KTerminal" ∧ _ ≠ "KNonTerminal" := by simpa using hother
      rw [ofJson?_of_hasTag htag, lookup_kinds, if_neg hterminal, if_neg hnonTerminal]

end ProductionItem

namespace Production

structure Encodes (value : Json) (production : Production) : Prop where
  isObject : value.isObject = true
  label : Json.EncodesOption Json.EncodesName (value.member? "klabel") production.label
  sort : Json.EncodesOption Json.EncodesName (value.member? "sort") production.sort
  items : Json.EncodesList ProductionItem.Encodes (value.member? "productionItems") production.items
  attributes : Attributes.EncodesField (value.member? "att") production.attributes

variable {value : Json} {production : Production}

theorem ofJson?_object (indexed : Bool) (members : List (String × Json)) :
    ofJson? indexed (.object members) = do
      let label ← Json.orNull Json.name? ((Json.object members).member? "klabel")
      let sort ← Json.orNull Json.name? ((Json.object members).member? "sort")
      let items ← Json.orDefault [] (Json.list? (ProductionItem.ofJson? indexed))
        ((Json.object members).member? "productionItems")
      let attributes ← Attributes.ofField? ((Json.object members).member? "att")
      return ⟨label, sort, items, attributes⟩ := rfl

/-- In object form, a value is decoded to a production exactly if it is an encoding of it. -/
theorem ofJson?_eq_some_iff {indexed : Bool} (hordered : value.IsOrdered)
    (hform : InObjectForm .production value) :
    ofJson? indexed value = some production ↔ Encodes value production := by
  obtain ⟨members, rfl⟩ := hform.eq_object
  have hname (v : Json) (name : String) : v.name? = some name ↔ v.EncodesName name := Json.name?_eq_some_iff
  have hitems : ∀ values, (Json.object members).member? "productionItems" = some (.array values) →
      ∀ v ∈ values, ∀ item, ProductionItem.ofJson? indexed v = some item ↔ ProductionItem.Encodes v item :=
    fun values hmember v hv item => ProductionItem.ofJson?_eq_some_iff (hform.inside (.item hmember hv))
  rw [ofJson?_object]
  simp only [Option.bind_eq_bind, Option.bind_eq_some_iff, Option.pure_def,
    Json.orNull_iff_encodesOption rfl Json.not_encodesName_null fun v _ _ => hname v,
    Json.orDefault_list?_iff_encodesList hitems, Attributes.ofField?_eq_some_iff hordered]
  constructor
  · rintro ⟨label, hlabel, sort, hsort, items, hitems, attributes, hattributes, h⟩
    obtain rfl := Option.some.inj h
    exact ⟨rfl, hlabel, hsort, hitems, hattributes⟩
  · rintro ⟨-, hlabel, hsort, hitems, hattributes⟩
    exact ⟨_, hlabel, _, hsort, _, hitems, _, hattributes, rfl⟩

end Production

/-! ## Sentences -/

namespace Sentence

/-- A sentence with any other tag is kept as `other`. -/
inductive Encodes : Json → Sentence → Prop
  | production {value : Json} {production : Production} (htag : value.HasTag "KProduction")
      (h : Production.Encodes value production) : Encodes value (.production production)
  | rule {value : Json} {rule : Rule} (htag : value.HasTag "KRule") (h : Rule.Encodes value rule) :
      Encodes value (.rule rule)
  | other {value : Json} {tag : String} (htag : value.HasTag tag) (hother : tag ∉ ["KProduction", "KRule"]) :
      Encodes value .other

variable {value : Json} {sentence : Sentence}

theorem lookup_kinds (tag : String) : kinds.lookup tag =
    if tag = "KProduction" then some .production else if tag = "KRule" then some .rule else none := by
  simp only [kinds, lookup_cons_eq_ite, List.lookup_nil]

theorem ofJson?_of_hasTag {tag : String} (htag : value.HasTag tag) : ofJson? value =
    match kinds.lookup tag with
    | some .production => (Production.ofJson? true value).map .production
    | some .rule => (Rule.ofJson? true value).map .rule
    | none => some .other := by
  unfold ofJson?
  rw [Json.node?_of_hasTag htag]
  obtain ⟨members, rfl⟩ := Json.eq_object_of_isObject (Json.isObject_of_member? htag)
  simp only [Option.bind_eq_bind, Option.bind_some, Json.kind?]
  rcases kinds.lookup tag with _ | _ | _ <;> rfl

/-- In object form, a value is decoded to a sentence exactly if it is an encoding of it. -/
theorem ofJson?_eq_some_iff (hordered : value.IsOrdered) (hform : InObjectForm .sentence value) :
    ofJson? value = some sentence ↔ Encodes value sentence := by
  have hproduction {production : Production} (htag : value.HasTag "KProduction") :
      Production.ofJson? true value = some production ↔ Production.Encodes value production :=
    Production.ofJson?_eq_some_iff hordered (hform.inside (.production htag))
  have hrule {rule : Rule} (htag : value.HasTag "KRule") :
      Rule.ofJson? true value = some rule ↔ Rule.Encodes value rule :=
    Rule.ofJson?_eq_some_iff hordered (hform.inside (.rule htag))
  constructor
  · intro h
    obtain ⟨members, rfl⟩ := hform.eq_object
    rcases hform.member?_node trivial with hnone | ⟨tag, htag⟩
    · simp [ofJson?, Json.node?_of_no_tag hnone] at h
    rw [ofJson?_of_hasTag htag, lookup_kinds] at h
    by_cases hproductionTag : tag = "KProduction"
    · obtain rfl := hproductionTag
      obtain ⟨production, hdecoded, rfl⟩ := Option.map_eq_some_iff.1 h
      exact .production htag ((hproduction htag).1 hdecoded)
    · by_cases hruleTag : tag = "KRule"
      · obtain rfl := hruleTag
        obtain ⟨rule, hdecoded, rfl⟩ := Option.map_eq_some_iff.1 h
        exact .rule htag ((hrule htag).1 hdecoded)
      · rw [if_neg hproductionTag, if_neg hruleTag] at h
        obtain rfl := Option.some.inj h
        exact .other htag (by simp [hproductionTag, hruleTag])
  · intro h
    cases h with
    | production htag h =>
      rw [ofJson?_of_hasTag htag, lookup_kinds]
      simp [(hproduction htag).2 h]
    | rule htag h =>
      rw [ofJson?_of_hasTag htag, lookup_kinds]
      simp [(hrule htag).2 h]
    | other htag hother =>
      obtain ⟨hproductionTag, hruleTag⟩ : _ ≠ "KProduction" ∧ _ ≠ "KRule" := by simpa using hother
      rw [ofJson?_of_hasTag htag, lookup_kinds, if_neg hproductionTag, if_neg hruleTag]

end Sentence

/-! ## Modules and definitions -/

namespace FlatModule

structure Encodes (value : Json) (m : FlatModule) : Prop where
  name : value.member? "name" = some (.string m.name)
  imports : Json.EncodesList Json.EncodesName (value.member? "imports") m.imports
  sentences : Json.EncodesList Sentence.Encodes (value.member? "localSentences") m.sentences
  attributes : Attributes.EncodesField (value.member? "att") m.attributes

variable {value : Json} {m : FlatModule}

theorem ofJson?_object (members : List (String × Json)) :
    ofJson? (.object members) = do
      let name ← ((Json.object members).member? "name").bind Json.string?
      let imports ← Json.orDefault [] (Json.list? Json.name?) ((Json.object members).member? "imports")
      let sentences ← Json.orDefault [] (Json.list? Sentence.ofJson?)
        ((Json.object members).member? "localSentences")
      let attributes ← Attributes.ofField? ((Json.object members).member? "att")
      return ⟨name, imports, sentences, attributes⟩ := rfl

/-- In object form, a value is decoded to a module exactly if it is an encoding of it. -/
theorem ofJson?_eq_some_iff (hordered : value.IsOrdered) (hform : InObjectForm .flatModule value) :
    ofJson? value = some m ↔ Encodes value m := by
  obtain ⟨members, rfl⟩ := hform.eq_object
  have himports : ∀ values, (Json.object members).member? "imports" = some (.array values) →
      ∀ v ∈ values, ∀ name, v.name? = some name ↔ v.EncodesName name := fun _ _ _ _ _ => Json.name?_eq_some_iff
  have hsentences : ∀ values, (Json.object members).member? "localSentences" = some (.array values) →
      ∀ v ∈ values, ∀ sentence, Sentence.ofJson? v = some sentence ↔ Sentence.Encodes v sentence :=
    fun values hmember v hv sentence => Sentence.ofJson?_eq_some_iff
      (Json.isOrdered_of_mem_array hordered hmember hv) (hform.inside (.sentence hmember hv))
  rw [ofJson?_object]
  simp only [Option.bind_eq_bind, Option.bind_eq_some_iff, Option.pure_def,
    Json.orDefault_list?_iff_encodesList himports, Json.orDefault_list?_iff_encodesList hsentences,
    Attributes.ofField?_eq_some_iff hordered]
  constructor
  · rintro ⟨name, hname, imports, himports, sentences, hsentences, attributes, hattributes, h⟩
    obtain rfl := Option.some.inj h
    exact ⟨Json.bind_string?_eq_some_iff.1 (Option.bind_eq_some_iff.2 hname), himports, hsentences, hattributes⟩
  · rintro ⟨hname, himports, hsentences, hattributes⟩
    exact ⟨_, ⟨_, hname, rfl⟩, _, himports, _, hsentences, _, hattributes, rfl⟩

end FlatModule

namespace Definition

structure Encodes (value : Json) (definition : Definition) : Prop where
  mainModule : value.member? "mainModule" = some (.string definition.mainModule)
  modules : ∃ values, value.member? "modules" = some (.array values) ∧
    List.Forall₂ FlatModule.Encodes values definition.modules
  attributes : Attributes.EncodesField (value.member? "att") definition.attributes

variable {value : Json} {definition : Definition}

theorem ofJson?_object (members : List (String × Json)) :
    ofJson? (.object members) = do
      let mainModule ← ((Json.object members).member? "mainModule").bind Json.string?
      let modules ← ((Json.object members).member? "modules").bind (Json.list? FlatModule.ofJson?)
      let attributes ← Attributes.ofField? ((Json.object members).member? "att")
      return ⟨mainModule, modules, attributes⟩ := rfl

/-- In object form, a value is decoded to a definition exactly if it is an encoding of it. -/
theorem ofJson?_eq_some_iff (hordered : value.IsOrdered) (hform : InObjectForm .definition value) :
    ofJson? value = some definition ↔ Encodes value definition := by
  obtain ⟨members, rfl⟩ := hform.eq_object
  have hmodule {values : List Json} (hmember : (Json.object members).member? "modules" = some (.array values))
      (v : Json) (hv : v ∈ values) (m : FlatModule) : FlatModule.ofJson? v = some m ↔ FlatModule.Encodes v m :=
    FlatModule.ofJson?_eq_some_iff (Json.isOrdered_of_mem_array hordered hmember hv)
      (hform.inside (.flatModule hmember hv))
  have hatt {attributes : Attributes} : Attributes.ofField? ((Json.object members).member? "att") =
      some attributes ↔ Attributes.EncodesField ((Json.object members).member? "att") attributes :=
    Attributes.ofField?_eq_some_iff hordered
  rw [ofJson?_object]
  constructor
  · intro h
    obtain ⟨mainModule, hmain, h⟩ := Option.bind_eq_some_iff.1 h
    obtain ⟨modules, hmodules, h⟩ := Option.bind_eq_some_iff.1 h
    obtain ⟨attributes, hattributes, h⟩ := Option.bind_eq_some_iff.1 h
    obtain rfl := Option.some.inj h
    obtain ⟨listed, hmember, hlist⟩ := Option.bind_eq_some_iff.1 hmodules
    obtain ⟨values, rfl, hvalues⟩ := Json.list?_eq_some_iff.1 hlist
    have hencodes := Json.forall₂_imp hvalues fun v hv m _ => (hmodule hmember v hv m).1
    exact ⟨Json.bind_string?_eq_some_iff.1 hmain, ⟨values, hmember, hencodes⟩, hatt.1 hattributes⟩
  · rintro ⟨hmain, ⟨values, hmember, hencodes⟩, hattributes⟩
    have hlist : ((Json.object members).member? "modules").bind (Json.list? FlatModule.ofJson?) =
        some definition.modules := by
      rw [hmember, Option.bind_some]
      exact Json.list?_eq_some_iff.2
        ⟨values, rfl, Json.forall₂_imp hencodes fun v hv m _ => (hmodule hmember v hv m).2⟩
    simp [Json.bind_string?_eq_some_iff.2 hmain, hlist, hatt.2 hattributes]

end Definition

end KDispatch
