import KDispatch.Printing.SymbolTable
import KDispatch.Proofs.Definition.Lookup
import KDispatch.Proofs.KeyMap

/-!
What the symbol table of a definition depends on: of each label the first production, and of this one
the items and whether it is a cell. Labels without a production are those of the connectives.
-/

namespace KDispatch

namespace SymbolTable

theorem find?_declare (production : Production) (table : SymbolTable) (label : String) :
    (declare production table).find? label =
      if production.label = some label then some (Layout.ofProduction label production)
      else table.find? label := by
  unfold declare
  cases production.label with
  | none => simp
  | some declared =>
    by_cases heq : declared = label
    · simp [KeyMap.find?_insert, heq]
    · simp [KeyMap.find?_insert, heq, Ne.symm heq]

theorem find?_ofProductions (productions : List Production) (label : String) :
    (ofProductions productions).find? label =
      ((productions.find? (·.label == some label)).map (Layout.ofProduction label)).or
        (basic.find? label) := by
  unfold ofProductions
  induction productions with
  | nil => simp
  | cons production productions ih =>
    rw [List.foldr_cons, find?_declare, ih, List.find?_cons]
    by_cases heq : production.label = some label
    · simp [heq]
    · rw [if_neg heq, show (production.label == some label) = false by simpa using heq]

theorem find?_ofDefinition (definition : Definition) (label : String) :
    (ofDefinition definition).find? label =
      ((definition.productionByLabel? label).map (Layout.ofProduction label)).or
        (basic.find? label) :=
  find?_ofProductions definition.productions label

end SymbolTable

/-- What the layout of a production depends on besides its label. -/
def Production.shape (production : Production) : List ProductionItem × Bool :=
  (production.items, production.attributes.contains Attributes.cellKey)

@[simp] theorem Production.shape_withoutSourceMap (production : Production) :
    production.withoutSourceMap.shape = production.shape := by
  simp [shape, withoutSourceMap]

theorem Layout.ofProduction_eq_of_shape {p q : Production} (h : p.shape = q.shape) (label : String) :
    ofProduction label p = ofProduction label q := by
  obtain ⟨hitems, hcell⟩ := Prod.ext_iff.1 h
  simp only [Production.shape] at hitems hcell
  simp only [ofProduction, hitems, hcell]

namespace SymbolTable

/-- Definitions whose first productions have the same shapes have the same table. -/
theorem ofDefinition_congr {d e : Definition}
    (h : ∀ label, (d.productionByLabel? label).map Production.shape =
      (e.productionByLabel? label).map Production.shape) :
    ofDefinition d = ofDefinition e := by
  refine KeyMap.ext_find? fun label => ?_
  rw [find?_ofDefinition, find?_ofDefinition]
  congr 1
  have hlabel := h label
  cases hd : d.productionByLabel? label with
  | none =>
    rw [hd, Option.map_none, eq_comm, Option.map_eq_none_iff] at hlabel
    rw [hlabel]
  | some p =>
    rw [hd, Option.map_some, eq_comm, Option.map_eq_some_iff] at hlabel
    obtain ⟨q, hq, hshape⟩ := hlabel
    rw [hq, Option.map_some, Option.map_some, Layout.ofProduction_eq_of_shape hshape]

@[simp] theorem ofDefinition_withoutSourceMap (definition : Definition) :
    ofDefinition definition.withoutSourceMap = ofDefinition definition := by
  refine ofDefinition_congr fun label => ?_
  rw [Definition.productionByLabel?_withoutSourceMap, Option.map_map]
  congr 1
  funext production
  exact production.shape_withoutSourceMap

variable {definition : Definition} {label : String}

theorem contains_ofDefinition :
    (ofDefinition definition).contains label ↔
      label ∈ connectives.map (·.1) ∨ definition.Declares label := by
  rw [KeyMap.contains, find?_ofDefinition, Option.isSome_or, Option.isSome_map, Bool.or_eq_true,
    Definition.isSome_productionByLabel?_iff, or_comm]
  exact or_congr_left KeyMap.contains_ofList

theorem find?_of_declaresFirst {first : Production} (h : definition.DeclaresFirst label first) :
    (ofDefinition definition).find? label = some (Layout.ofProduction label first) := by
  rw [find?_ofDefinition, Definition.productionByLabel?_eq_some_iff.2 h, Option.map_some, Option.some_or]

theorem find?_of_not_declares (h : ¬ definition.Declares label) :
    (ofDefinition definition).find? label = basic.find? label := by
  rw [← Definition.isSome_productionByLabel?_iff, Option.not_isSome_iff_eq_none] at h
  rw [find?_ofDefinition, h, Option.map_none, Option.none_or]

theorem size_ofDefinition :
    (ofDefinition definition).size =
      (connectives.map (·.1) ++ definition.productions.filterMap (·.label)).dedup.length := by
  refine KeyMap.size_eq_length_dedup fun label => ?_
  rw [contains_ofDefinition, Definition.declares_iff, List.mem_append, List.mem_filterMap]

theorem render_congr {table table' : SymbolTable} (h : table.find? label = table'.find? label)
    (args : List Text) : table.render label args = table'.render label args := by
  rw [render, render, h]

/-- A label is in the table exactly if it is a connective or some module has a production with it. Its
applications are printed as under any definition that holds only the first of these productions, and as
under the table of the connectives if there is none. The table has one layout for each of these labels. -/
theorem ofDefinition_keeps_first_declarations (definition : Definition) :
    (∀ label, (ofDefinition definition).contains label ↔
      label ∈ connectives.map (·.1) ∨ definition.Declares label) ∧
    (∀ label, definition.Declares label → ∃ first, definition.DeclaresFirst label first ∧
      ∀ single : Definition, single.productions = [first] → ∀ args,
        (ofDefinition definition).render label args = (ofDefinition single).render label args) ∧
    (∀ label, ¬ definition.Declares label → ∀ args,
      (ofDefinition definition).render label args = basic.render label args) ∧
    (ofDefinition definition).size =
      (connectives.map (·.1) ++ definition.productions.filterMap (·.label)).dedup.length := by
  refine ⟨fun label => contains_ofDefinition, fun label hdeclares => ?_, fun label hnot args => ?_,
    size_ofDefinition⟩
  · obtain ⟨first, hfind⟩ :=
      Option.isSome_iff_exists.1 (Definition.isSome_productionByLabel?_iff.2 hdeclares)
    have hfirst := Definition.productionByLabel?_eq_some_iff.1 hfind
    refine ⟨first, hfirst, fun single hsingle args => render_congr ?_ args⟩
    -- its first production with this label is its only one
    have halone : single.DeclaresFirst label first := ⟨hfirst.1, [], [], hsingle, by simp⟩
    rw [find?_of_declaresFirst hfirst, find?_of_declaresFirst halone]
  · exact render_congr (find?_of_not_declares hnot) args

/-- A production that declares one of the connectives. -/
def bothProduction : Production :=
  ⟨some "#And", some "S", [.terminal "both", .nonTerminal "S", .nonTerminal "S"], .empty⟩

/-- Two modules declare a connective, one of them another label twice, and one production has no label. -/
def repeatingDefinition : Definition :=
  ⟨"M", [⟨"EMPTY", [], [], .empty⟩,
    ⟨"M", ["EMPTY"], [.other, .production ⟨none, some "S", [.nonTerminal "S"], .empty⟩,
      .production bothProduction], .empty⟩,
    ⟨"N", ["M"], [.production ⟨some "f", some "S", [.terminal "f", .nonTerminal "S"], .empty⟩,
      .production ⟨some "#And", some "S", [.nonTerminal "S", .terminal "and", .nonTerminal "S"], .empty⟩,
      .production ⟨some "f", some "S", [.terminal "g"], .empty⟩], .empty⟩], .empty⟩

theorem ofDefinition_keeps_first_declarations_repeating :
    repeatingDefinition.Declares "#And" ∧ ¬ repeatingDefinition.Declares "#Or" ∧
      (ofDefinition repeatingDefinition).render "#And" [['X'], ['Y']] = "both X Y".toList ∧
      (ofDefinition repeatingDefinition).render "#Or" [['X'], ['Y']] = "X #Or Y".toList ∧
      (ofDefinition repeatingDefinition).size = 8 := by
  have hdeclares : repeatingDefinition.Declares "#And" := Definition.declares_iff.2 (by decide)
  have hnot : ¬ repeatingDefinition.Declares "#Or" := mt Definition.declares_iff.1 (by decide)
  obtain ⟨-, hdeclared, hother, hsize⟩ := ofDefinition_keeps_first_declarations repeatingDefinition
  obtain ⟨first, hfirst, hrender⟩ := hdeclared "#And" hdeclares
  have hboth : repeatingDefinition.productionByLabel? "#And" = some bothProduction := by decide
  rw [Definition.productionByLabel?_eq_some_iff.2 hfirst, Option.some_inj] at hboth
  let single : Definition := ⟨"N", [⟨"N", [], [.production bothProduction], .empty⟩], .empty⟩
  have hsingle : single.productions = [first] := by rw [hboth]; rfl
  refine ⟨hdeclares, hnot, ?_, ?_, ?_⟩
  · rw [hrender single hsingle]
    decide
  · rw [hother "#Or" hnot]
    decide
  · rw [hsize]
    decide

end SymbolTable

end KDispatch
