import KDispatch.Proofs.Rule.Stages
import KDispatch.Proofs.Term.Renaming

/-!
The variables of a rule: which ones a minimized rule keeps, and that their names do not matter.
-/

/-! ## Elided variables

Minimization elides a variable exactly if it occurs once in the
pushed body, directly in a cell, and in no condition; all others stay at all their places.
-/

namespace KDispatch.Rule

open Term

/-- Whether a rule says nothing about a variable: it occurs at one place of the pushed body, as an
argument of a cell, and in no condition. -/
structure Ignores (rule : Rule) (name : String) : Prop where
  once : rule.pushedBody.occurrences name = 1
  inCell : ∃ cell ∈ rule.pushedBody.preorder, cell.isCell ∧ .var name ∈ cell.children
  notRequired : ∀ condition ∈ rule.requires, condition.occurrences name = 0
  notEnsured : ∀ condition ∈ rule.ensures, condition.occurrences name = 0

/-- Conditions may be looked at before or after they are simplified. -/
theorem elides_iff (rule : Rule) (name : String) :
    rule.elides name ↔
      rule.pushedBody.occurrences name = 1 ∧
        (∀ condition ∈ rule.requires, condition.occurrences name = 0) ∧
          ∀ condition ∈ rule.ensures, condition.occurrences name = 0 := by
  rw [elides, isUseless, Bool.and_eq_true, Bool.and_eq_true, beq_iff_eq,
    Condition.all_occurrences_bind_simplify?, Condition.all_occurrences_bind_simplify?, and_assoc]

theorem ignores_iff (rule : Rule) (name : String) :
    rule.Ignores name ↔ name ∈ rule.pushedBody.cellVars.filter rule.elides := by
  rw [List.mem_filter, mem_cellVars_iff, elides_iff]
  refine ⟨fun h => ⟨h.inCell, h.once, h.notRequired, h.notEnsured⟩, ?_⟩
  rintro ⟨hcell, honce, hrequired, hensured⟩
  exact ⟨honce, hcell, hrequired, hensured⟩

theorem Ignores.occurrences_minimize {rule : Rule} {name : String} (h : rule.Ignores name) :
    rule.minimize.body.occurrences name = 0 := by
  have hsum := occurrences_abridge_add rule.elides true name rule.pushedBody
  have hpos := List.count_pos_iff.2 ((ignores_iff rule name).1 h)
  -- the one place is among those where the variable has been elided
  rw [h.once] at hsum
  rw [body_minimize]
  omega

theorem occurrences_minimize_of_not_ignores {rule : Rule} {name : String}
    (h : ¬ rule.Ignores name) :
    rule.minimize.body.occurrences name = rule.pushedBody.occurrences name := by
  rw [ignores_iff] at h
  rw [body_minimize, ← occurrences_abridge_add rule.elides true name rule.pushedBody,
    List.count_eq_zero_of_not_mem h, Nat.add_zero]

theorem mem_varNames_pushedBody {rule : Rule} {name : String} :
    name ∈ rule.pushedBody.varNames ↔ name ∈ rule.body.varNames := by
  rw [pushedBody, mem_varNames_pushDown, varNames_removeCasts]

/-- A variable that the rule ignores is gone from the minimized body, and any other one occurs there as
often as in the pushed body; so a variable of a condition stays in the body if it was there. -/
theorem minimize_elides_ignored_variables (rule : Rule) (name : String) :
    (rule.Ignores name → rule.minimize.body.occurrences name = 0) ∧
      (¬ rule.Ignores name →
        rule.minimize.body.occurrences name = rule.pushedBody.occurrences name) ∧
      ((∃ condition, (condition ∈ rule.requires ∨ condition ∈ rule.ensures) ∧
          name ∈ condition.varNames) →
        name ∈ rule.body.varNames → name ∈ rule.minimize.body.varNames) := by
  refine ⟨Ignores.occurrences_minimize, occurrences_minimize_of_not_ignores, ?_⟩
  rintro ⟨condition, hcondition, hname⟩ hbody
  have hoccurs : condition.occurrences name ≠ 0 := (List.count_pos_iff.2 hname).ne'
  have hnot : ¬ rule.Ignores name := by
    intro hignores
    rcases hcondition with hrequired | hensured
    · exact hoccurs (hignores.notRequired condition hrequired)
    · exact hoccurs (hignores.notEnsured condition hensured)
  rw [← mem_varNames_pushedBody, ← List.count_pos_iff] at hbody
  rw [← List.count_pos_iff]
  exact hbody.trans_eq (occurrences_minimize_of_not_ignores hnot).symm

end KDispatch.Rule

/-! ## Other names

If a renaming keeps different names apart, then recovering and
minimizing a renamed rule gives the renamed result of the rule.
-/

namespace KDispatch.Rule

/-- The rule with every variable renamed, in its body and in its conditions. -/
def rename (s : String → String) (rule : Rule) : Rule :=
  { rule with
    body := rule.body.rename s
    requires := rule.requires.map (Term.rename s)
    ensures := rule.ensures.map (Term.rename s) }

variable {s : String → String}

theorem rename_stripCoverageLogger (rule : Rule) :
    rule.stripCoverageLogger.rename s = (rule.rename s).stripCoverageLogger := by
  rw [rename, rename, stripCoverageLogger, stripCoverageLogger, Term.rename_stripCoverageLogger]

theorem pushedBody_rename (hs : Function.Injective s) (rule : Rule) :
    (rule.rename s).pushedBody = rule.pushedBody.rename s := by
  rw [pushedBody, pushedBody, Term.rename_pushDown hs, Term.rename_removeCasts]
  rfl

theorem map_rename_bind_simplify? (condition : Option Term) :
    (condition.map (Term.rename s)).bind Condition.simplify? =
      (condition.bind Condition.simplify?).map (Term.rename s) := by
  cases condition with
  | none => rfl
  | some t => exact Condition.simplify?_rename t

theorem isUseless_rename (hs : Function.Injective s) (body : Term) (requires ensures : Option Term)
    (name : String) :
    isUseless (body.rename s) (requires.map (Term.rename s)) (ensures.map (Term.rename s))
      (s name) = isUseless body requires ensures name := by
  have hcondition (condition : Option Term) :
      (condition.map (Term.rename s)).all (·.occurrences (s name) == 0) =
        condition.all (·.occurrences name == 0) := by
    cases condition with
    | none => rfl
    | some t => simp [Term.occurrences_rename hs]
  rw [isUseless, isUseless, Term.occurrences_rename hs, hcondition, hcondition]

theorem elides_rename (hs : Function.Injective s) (rule : Rule) (name : String) :
    (rule.rename s).elides (s name) = rule.elides name := by
  rw [elides, pushedBody_rename hs, rename, map_rename_bind_simplify?, map_rename_bind_simplify?,
    isUseless_rename hs, elides]

theorem minimize_rename (hs : Function.Injective s) (rule : Rule) :
    (rule.rename s).minimize = rule.minimize.rename s := by
  have hbody : (rule.rename s).pushedBody.abridge (rule.rename s).elides true =
      (rule.pushedBody.abridge rule.elides true).rename s := by
    rw [Term.abridge, Term.abridge, Term.rename_collapseDots,
      Term.rename_elide (elides_rename hs rule), pushedBody_rename hs]
  rw [minimize_eq, hbody, minimize_eq]
  simp only [rename, map_rename_bind_simplify?]

/-- Recovering and minimizing a rule does not depend on how its variables are called. -/
theorem minimize_stripCoverageLogger_rename (hs : Function.Injective s) (rule : Rule) :
    (rule.rename s).stripCoverageLogger.minimize =
      rule.stripCoverageLogger.minimize.rename s := by
  rw [← rename_stripCoverageLogger, minimize_rename hs]

/-- A compiled rule with a variable that a condition needs, one that nothing needs, and the name of a
variable as the text of a token. -/
def storeRule : Rule where
  body := .rewrite
    (.apply "<top>" [.apply "<k>" [.apply "#SemanticCastToInt" [.var "X"]],
      .apply "<store>" [.var "S"], .apply "<log>" [.var "L"]])
    (.apply "project:Top" [.sequence [.apply "#logToFile" [],
      .apply "<top>" [.apply "<k>" [.token "S" "Id"], .apply "<store>" [.var "S"],
        .apply "<log>" [.var "L"]]]])
  requires := some (.apply "_andBool_" [.token "true" "Bool", .apply "isMap" [.var "L"]])
  ensures := none
  attributes := .empty

/-- Appending a letter keeps names apart. -/
theorem minimize_stripCoverageLogger_rename_storeRule :
    Function.Injective (· ++ "S") ∧
      (storeRule.rename (· ++ "S")).stripCoverageLogger.minimize =
        storeRule.stripCoverageLogger.minimize.rename (· ++ "S") := by
  have hs : Function.Injective (· ++ "S") := fun a b h => by
    have htexts := congrArg String.toList h
    exact String.toList_inj.1 (by simpa using htexts)
  exact ⟨hs, minimize_stripCoverageLogger_rename hs storeRule⟩

end KDispatch.Rule
