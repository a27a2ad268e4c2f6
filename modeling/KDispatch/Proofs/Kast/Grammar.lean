import KDispatch.Proofs.Definition.Encoding
import KDispatch.Proofs.Kast.Document

/-!
The grammar of documents in object form. Whatever a value in object form is read as, it is decoded to exactly what
it encodes, and a document is read as the definition that its term encodes.
-/

namespace KDispatch

namespace Shape

/-- What the values of a shape are decoded to. -/
def Decoded : Shape → Type
  | .term => Term
  | .rule => Rule
  | .item => ProductionItem
  | .production => Production
  | .sentence => Sentence
  | .flatModule => FlatModule
  | .definition => KDispatch.Definition

/-- Decodes a value. Where tags are accepted by position is up to `indexed`, as far as a shape leaves it open. -/
def decode? (indexed : Bool) : (shape : Shape) → Json → Option shape.Decoded
  | .term => Term.ofJson? indexed
  | .rule => Rule.ofJson? indexed
  | .item => ProductionItem.ofJson? indexed
  | .production => Production.ofJson? indexed
  | .sentence => Sentence.ofJson?
  | .flatModule => FlatModule.ofJson?
  | .definition => Definition.ofJson?

/-- Whether a value encodes something as a shape. -/
def Encodes : (shape : Shape) → Json → shape.Decoded → Prop
  | .term => Term.Encodes
  | .rule => Rule.Encodes
  | .item => ProductionItem.Encodes
  | .production => Production.Encodes
  | .sentence => Sentence.Encodes
  | .flatModule => FlatModule.Encodes
  | .definition => Definition.Encodes

end Shape

namespace Document

variable {fs : FileSystem} {path : String} {definition : Definition}

theorem nodeName_eq_iff {term : Json} : nodeName term = definitionNode ↔ term.HasTag definitionNode := by
  unfold nodeName Json.HasTag
  rw [Option.getD_eq_iff, Json.bind_string?_eq_some_iff]
  simp [definitionNode]

/-- A document is read as a definition exactly if its term has the node of one and encodes it. -/
theorem readDefinition_eq_ok_iff {envelope : Envelope} (hread : read fs path = .ok envelope)
    (hform : InObjectForm .definition envelope.term) : readDefinition fs path = .ok definition ↔
      envelope.term.HasTag definitionNode ∧ Definition.Encodes envelope.term definition := by
  have hdecoded : Definition.ofJson? envelope.term = some definition ↔
      Definition.Encodes envelope.term definition := Definition.ofJson?_eq_some_iff (isOrdered_of_read hread) hform
  rw [← nodeName_eq_iff, ← hdecoded]
  unfold readDefinition Document.definition
  rw [hread]
  dsimp only
  by_cases hnode : nodeName envelope.term = definitionNode
  · rw [if_pos hnode]
    cases Definition.ofJson? envelope.term <;> simp [hnode]
  · simp [hnode]

end Document

/-- The decoder accepts exactly the grammar of object form: as any shape, a value is decoded to something exactly if
it is an encoding of it, and so are names and attributes. A document is read as the definition that its term
encodes. -/
theorem decode?_eq_some_iff_encodes :
    (∀ (shape : Shape) (value : Json), value.IsOrdered → InObjectForm shape value →
      ∀ (indexed : Bool) (decoded : shape.Decoded),
        shape.decode? indexed value = some decoded ↔ shape.Encodes value decoded) ∧
    (∀ (value : Json) (name : String), value.name? = some name ↔ value.EncodesName name) ∧
    (∀ value : Json, value.IsOrdered → ∀ attributes : Attributes,
      Attributes.ofJson? value = some attributes ↔ Attributes.Encodes value attributes) ∧
    ∀ (fs : FileSystem) (path : String) (envelope : Envelope), Document.read fs path = .ok envelope →
      InObjectForm .definition envelope.term → ∀ definition, Document.readDefinition fs path = .ok definition ↔
        envelope.term.HasTag definitionNode ∧ Definition.Encodes envelope.term definition := by
  refine ⟨fun shape value hordered hform indexed decoded => ?_, fun value name => Json.name?_eq_some_iff,
    fun value hordered attributes => Attributes.ofJson?_eq_some_iff hordered,
    fun fs path envelope hread hform definition => Document.readDefinition_eq_ok_iff hread hform⟩
  cases shape with
  | term => exact Term.ofJson?_eq_some_iff hform
  | rule => exact Rule.ofJson?_eq_some_iff hordered hform
  | item => exact ProductionItem.ofJson?_eq_some_iff hform
  | production => exact Production.ofJson?_eq_some_iff hordered hform
  | sentence => exact Sentence.ofJson?_eq_some_iff hordered hform
  | flatModule => exact FlatModule.ofJson?_eq_some_iff hordered hform
  | definition => exact Definition.ofJson?_eq_some_iff hordered hform

/-! A rule without a condition, whose attributes have a member `att` that is no object. -/

def plainRuleValue : Json :=
  .object [("att", .object [("att", .bool true)]),
    ("body", .object [("name", .string "X"), ("node", .string "KVariable")]), ("requires", .null)]

def plainRule : Rule := ⟨.var "X", none, none, ⟨[("att", .bool true)], by simp⟩⟩

theorem isOrdered_plainRuleValue : plainRuleValue.IsOrdered := by
  simp [plainRuleValue, Json.IsOrdered, Json.HasAscendingKeys]
  decide

theorem inObjectForm_plainRuleValue : InObjectForm .rule plainRuleValue := by
  refine .intro rfl (fun h => h.elim) fun shape value hholds => ?_
  cases hholds with
  | body h =>
    cases h
    refine .intro rfl (fun _ tag htag => ⟨"KVariable", (Option.some.inj htag).symm⟩) fun shape value hholds => ?_
    cases hholds <;> contradiction
  | requires h hnull =>
    cases h
    contradiction
  | ensures h _ => contradiction

theorem decode?_eq_some_iff_encodes_plainRule :
    plainRuleValue.IsOrdered ∧ InObjectForm .rule plainRuleValue ∧
      Shape.rule.decode? false plainRuleValue = some plainRule ∧
      Shape.rule.Encodes plainRuleValue plainRule := by
  have hordered := isOrdered_plainRuleValue
  have hform := inObjectForm_plainRuleValue
  have hdecoded : Shape.rule.decode? false plainRuleValue = some plainRule := rfl
  exact ⟨hordered, hform, hdecoded,
    (decode?_eq_some_iff_encodes.1 .rule plainRuleValue hordered hform false plainRule).1 hdecoded⟩

end KDispatch
