import KDispatch.Proofs.Printing.Rule
import KDispatch.Proofs.Printing.SymbolTable
import KDispatch.Proofs.Rule.Stages
import Mathlib.Data.List.Basic

/-!
Applications that their layouts fit. Minimization takes arguments away from cells only and puts conjunctions
of two arguments together; so if cells have cell layouts and conjunction has two places, the layouts that fit
the applications of a rule still fit after it is minimized, and none is printed in applied form instead.
-/

namespace KDispatch

namespace Layout

/-- Whether the layout has places for so many arguments. -/
def takes (layout : Layout) (count : Nat) : Bool := layout.arity?.all (· == count)

theorem isSome_render?_eq_takes (layout : Layout) (args : List Text) :
    (layout.render? args).isSome = layout.takes args.length := by
  cases layout with
  | mixfix segments =>
      by_cases harity : segments.countP Segment.isArg = args.length
      · simp [render?, takes, arity?, harity]
      · simp [render?, takes, arity?, harity]
  | cell opening closing => cases args <;> simp [render?, takes, arity?]

theorem arity?_ofTags (label : String) (terminals : List String) :
    (ofTags label terminals).arity? = none := by
  cases terminals <;> rfl

theorem countP_isArg_filterMap_ofItem? (items : List ProductionItem) :
    (items.filterMap Segment.ofItem?).countP Segment.isArg =
      items.countP ProductionItem.isNonTerminal := by
  rw [List.countP_filterMap]
  refine List.countP_congr fun item _ => ?_
  cases item <;> simp [Segment.ofItem?, Segment.isArg, ProductionItem.isNonTerminal]

/-- The layout of a production that is no cell asks for the arguments of the production. -/
theorem arity?_ofProduction (label : String) (production : Production) :
    (ofProduction label production).arity? =
      if production.attributes.contains Attributes.cellKey then none else some production.arity := by
  unfold ofProduction
  split
  · exact arity?_ofTags _ _
  · rw [arity?, countP_isArg_filterMap_ofItem?, Production.arity]

end Layout

namespace SymbolTable

/-- Labels in the table are applied to as many arguments as their layouts have places for. -/
def signature (table : SymbolTable) : Signature :=
  fun label count => (table.find? label).all (·.takes count)

/-- What the signature allows is printed by the layout of its label. -/
theorem render?_eq_some_render {table : SymbolTable} {label : String} {args : List Text}
    (h : table.signature label args.length) {layout : Layout} (hfind : table.find? label = some layout) :
    layout.render? args = some (table.render label args) := by
  have hsome : (layout.render? args).isSome := by
    rw [layout.isSome_render?_eq_takes]
    simpa [signature, hfind] using h
  obtain ⟨text, htext⟩ := Option.isSome_iff_exists.1 hsome
  rw [render, hfind, Option.bind_some, htext, Option.getD_some]

theorem mem_connectives_of_find?_basic {label : String} {layout : Layout}
    (h : basic.find? label = some layout) : (label, layout) ∈ connectives :=
  KeyMap.mem_of_mem_ofList (KeyMap.mem_entries_iff.2 h)

theorem find?_basic_of_isCellLabel {label : String} (h : isCellLabel label) :
    basic.find? label = none := by
  rw [Option.eq_none_iff_forall_ne_some]
  intro layout hfind
  have hnone : ∀ e ∈ connectives, isCellLabel e.1 = false := by decide
  rw [hnone _ (mem_connectives_of_find?_basic hfind)] at h
  contradiction

theorem find?_basic_conjunctionLabel : basic.find? Condition.conjunctionLabel = none := by
  decide

end SymbolTable

/-- A definition with layouts that take what minimization makes of cells and of conditions. -/
structure Definition.FitsMinimization (definition : Definition) : Prop where
  /-- Labels that look like cells are declared as cells. -/
  cells : ∀ production ∈ definition.productions, ∀ label ∈ production.label, isCellLabel label →
    production.attributes.contains Attributes.cellKey
  /-- The production of conjunction that counts has two places. -/
  conjunction : ∀ production ∈ definition.productionByLabel? Condition.conjunctionLabel,
    production.arity = 2

namespace Definition.FitsMinimization

variable {definition : Definition}

theorem signature_of_isCellLabel (h : definition.FitsMinimization) (label : String) (count : Nat)
    (hlabel : isCellLabel label) : (SymbolTable.ofDefinition definition).signature label count := by
  rw [SymbolTable.signature, SymbolTable.find?_ofDefinition, SymbolTable.find?_basic_of_isCellLabel hlabel,
    Option.or_none]
  cases hfind : definition.productionByLabel? label with
  | none => rfl
  | some production =>
      have hmem : production ∈ definition.productions := List.mem_of_find?_eq_some hfind
      have hdeclared : production.label = some label := by simpa using List.find?_some hfind
      have hcell := h.cells production hmem label hdeclared hlabel
      simp [Layout.takes, Layout.arity?_ofProduction, hcell]

theorem signature_conjunctionLabel (h : definition.FitsMinimization) :
    (SymbolTable.ofDefinition definition).signature Condition.conjunctionLabel 2 := by
  rw [SymbolTable.signature, SymbolTable.find?_ofDefinition, SymbolTable.find?_basic_conjunctionLabel,
    Option.or_none]
  cases hfind : definition.productionByLabel? Condition.conjunctionLabel with
  | none => rfl
  | some production =>
      have harity := h.conjunction production hfind
      rw [Option.map_some, Option.all_some, Layout.takes, Layout.arity?_ofProduction]
      split
      · rfl
      · rw [harity]
        rfl

end Definition.FitsMinimization

namespace Rule

theorem over_minimize {signature : Signature}
    (hcells : ∀ label count, isCellLabel label → signature label count)
    (hand : signature Condition.conjunctionLabel 2) {rule : Rule}
    (h : ∀ t ∈ rule.terms, t.Over signature) : ∀ t ∈ rule.minimize.terms, t.Over signature := by
  obtain ⟨hbody, hrequires, hensures⟩ := forall_mem_terms_iff.1 h
  have hcondition {condition : Option Term} (h : ∀ c ∈ condition, c.Over signature) :
      ∀ c ∈ condition.bind Condition.simplify?, c.Over signature := by
    intro c hc
    obtain ⟨d, hd, hsimplify⟩ := Option.bind_eq_some_iff.1 hc
    exact Condition.over_of_simplify? (h d hd) hand hsimplify
  refine forall_mem_terms_iff.2 ⟨?_, hcondition hrequires, hcondition hensures⟩
  rw [body_minimize]
  exact hbody.removeCasts.pushDown.abridge hcells

/-- If in a rule all applications of labels that the table knows fit their layouts, they do in the minimized
rule, and there each of them is printed by its layout. -/
theorem minimize_fits_layouts {definition : Definition} (hdefinition : definition.FitsMinimization)
    {rule : Rule} (h : ∀ t ∈ rule.terms, t.Over (SymbolTable.ofDefinition definition).signature) :
    ∀ t ∈ rule.minimize.terms, t.Over (SymbolTable.ofDefinition definition).signature ∧
      ∀ label args, .apply label args ∈ t.preorder →
        ∀ layout, (SymbolTable.ofDefinition definition).find? label = some layout →
          layout.render? (args.map (Term.text (SymbolTable.ofDefinition definition))) =
            some ((Term.apply label args).text (SymbolTable.ofDefinition definition)) := by
  have hminimized := over_minimize hdefinition.signature_of_isCellLabel
    hdefinition.signature_conjunctionLabel h
  intro t ht
  refine ⟨hminimized t ht, fun label args hmem layout hfind => ?_⟩
  have hfits := hminimized t ht _ hmem
  rw [Term.isOver, ← List.length_map (Term.text (SymbolTable.ofDefinition definition))] at hfits
  rw [SymbolTable.render?_eq_some_render hfits hfind, Term.text_apply]

def cellProduction (label closing : String) (items : List ProductionItem) : Production :=
  ⟨some label, some "Cell", .terminal label :: (items ++ [.terminal closing]),
    KeyMap.ofList [(Attributes.cellKey, .string "")]⟩

def infixProduction (label operator sort : String) : Production :=
  ⟨some label, some sort, [.nonTerminal sort, .terminal operator, .nonTerminal sort], .empty⟩

/-- A cell of three cells, addition and conjunction. -/
def additionDefinition : Definition :=
  ⟨"M", [⟨"M", [],
    [.production (cellProduction "<top>" "</top>" [.nonTerminal "K", .nonTerminal "Env", .nonTerminal "Mem"]),
      .production (cellProduction "<k>" "</k>" [.nonTerminal "K"]),
      .production (infixProduction "_+Int_" "+Int" "Int"),
      .production (infixProduction Condition.conjunctionLabel "andBool" "Bool")], .empty⟩], .empty⟩

/-- A rule that looks at one of three cells, with a conjunct that is always true among others. -/
def additionRule : Rule where
  body := .apply "<top>"
    [.apply "<k>" [.rewrite (.apply "_+Int_" [.apply "#SemanticCastToInt" [.var "X"], .var "Y"])
      (.var "X")], .var "ENV", .var "MEM"]
  requires := some (Condition.and (.token "true" "Bool")
    (Condition.and (.apply "isInt" [.var "X"]) (.apply "isZero" [.var "Y"])))
  ensures := none
  attributes := .empty

theorem minimize_fits_layouts_additionRule :
    additionDefinition.FitsMinimization ∧
      (∀ t ∈ additionRule.terms, t.Over (SymbolTable.ofDefinition additionDefinition).signature) ∧
      (∀ t ∈ additionRule.minimize.terms,
        t.Over (SymbolTable.ofDefinition additionDefinition).signature) ∧
      -- one cell has lost an argument
      ∃ contents, additionRule.minimize.body = .apply "<top>" [contents, Term.dots] ∧
        (Layout.cell "<top>" "</top>").render?
            ([contents, Term.dots].map (Term.text (SymbolTable.ofDefinition additionDefinition))) =
          some (additionRule.minimize.body.text (SymbolTable.ofDefinition additionDefinition)) := by
  have hdefinition : additionDefinition.FitsMinimization := ⟨by decide +kernel, by decide +kernel⟩
  have hrule : ∀ t ∈ additionRule.terms,
      t.Over (SymbolTable.ofDefinition additionDefinition).signature := by
    decide +kernel
  have hfits := minimize_fits_layouts hdefinition hrule
  obtain ⟨contents, hbody⟩ :
      ∃ contents, additionRule.minimize.body = .apply "<top>" [contents, Term.dots] :=
    ⟨.apply "<k>" [.rewrite (.apply "_+Int_" [.var "X", .var "Y"]) (.var "X")], by decide +kernel⟩
  refine ⟨hdefinition, hrule, fun t ht => (hfits t ht).1, contents, hbody, ?_⟩
  have hmem : additionRule.minimize.body ∈ additionRule.minimize.terms := List.mem_cons_self
  rw [hbody] at hmem ⊢
  exact (hfits _ hmem).2 "<top>" [contents, Term.dots] (Term.mem_preorder_self _)
    (.cell "<top>" "</top>") (by decide +kernel)

end Rule

end KDispatch
