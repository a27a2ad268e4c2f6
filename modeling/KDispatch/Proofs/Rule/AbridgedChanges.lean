import KDispatch.Proofs.Rule.Stages

/-!
The changes of a minimized rule. Their sides have been abridged after the rewrites had sunk; whether they still
differ then, and whether they could sink again, decides what a rule shows and whether one run is enough.
-/

/-! ## What is shown

A minimized rule shows that it changes something exactly if one of the rewrites of the pushed body has sides
that still differ once they are abridged; a cell that becomes another one can vanish on both sides, and then
nothing is left of the change.
-/

namespace KDispatch

/-- The sides of the change differ, whatever rewrites stand in them. -/
def Change.Differs (c : Change) : Prop := c.lhs.projection .left ≠ c.rhs.projection .right

namespace Rule

theorem sides_differ_iff (t : Term) :
    t.projection .left ≠ t.projection .right ↔ ∃ c ∈ t.changes true, c.Differs := by
  rw [Ne, Term.projection_eq_iff true]
  simp [Change.Differs]

/-- A rule shows a change exactly if a rewrite of its pushed body differs in its abridged sides. -/
theorem minimize_sides_differ_iff (rule : Rule) :
    rule.minimize.body.projection .left ≠ rule.minimize.body.projection .right ↔
      ∃ c ∈ rule.pushedBody.changes true, (c.map (Term.abridge rule.elides)).Differs := by
  rw [sides_differ_iff, changes_minimize]
  simp only [List.mem_map, exists_exists_and_eq_and]

/-- A change between sides without cells is always shown. -/
theorem minimize_sides_differ_of_cellFree {rule : Rule} {c : Change}
    (hc : c ∈ rule.pushedBody.changes true) (hdiffers : c.Differs) (hl : c.lhs.CellFree)
    (hr : c.rhs.CellFree) :
    rule.minimize.body.projection .left ≠ rule.minimize.body.projection .right := by
  refine (minimize_sides_differ_iff rule).2 ⟨c, hc, ?_⟩
  rwa [Change.map, hl.abridge, hr.abridge]

/-- A change is shown after minimization exactly if there was none, or a rewrite of the pushed body
differs in its sides after variables and cells have become dots there. -/
theorem minimize_shows_change_iff (rule : Rule) :
    (rule.body.removeCasts.projection .left ≠ rule.body.removeCasts.projection .right →
        rule.minimize.body.projection .left ≠ rule.minimize.body.projection .right) ↔
      ((∃ c ∈ rule.pushedBody.changes true, c.Differs) →
        ∃ c ∈ rule.pushedBody.changes true, (c.map (Term.abridge rule.elides)).Differs) := by
  rw [← projection_pushedBody, ← projection_pushedBody, sides_differ_iff, minimize_sides_differ_iff]

/-- A cell within a cell becomes another one, and either holds a variable that occurs nowhere else. -/
def cellReplacement : Rule where
  body := .apply "<generatedTop>"
    [.rewrite (.apply "<k>" [.var "X"]) (.apply "<state>" [.var "Y"])]
  requires := none
  ensures := none
  attributes := .empty

theorem cellReplacement_change_hidden :
    cellReplacement.body.removeCasts.projection .left ≠
        cellReplacement.body.removeCasts.projection .right ∧
      cellReplacement.minimize.body.projection .left =
        cellReplacement.minimize.body.projection .right := by
  decide

end Rule

end KDispatch

/-! ## A second run

The second run finds something to do exactly if one of the rewrites, whose sides the first run abridged after it
had sunk, could sink again.
-/

namespace KDispatch.Rule

open Term

theorem removeCasts_minimize (rule : Rule) :
    rule.minimize.body.removeCasts = rule.minimize.body :=
  rule.castFree_body_minimize.removeCasts

/-- A variable that one run keeps is not useless to the next one. -/
theorem elides_minimize_eq_false {rule : Rule}
    (hpushed : rule.minimize.pushedBody = rule.minimize.body) {name : String}
    (h : rule.elides name = false) : rule.minimize.elides name = false := by
  rw [elides, hpushed, minimize_eq, Condition.bind_simplify?_bind_simplify?,
    Condition.bind_simplify?_bind_simplify?, isUseless, occurrences_abridge h]
  exact h

theorem minimize_minimize_of_not_sinks {rule : Rule}
    (h : ∀ c ∈ rule.minimize.body.changes true, ¬ Sinks c.lhs c.rhs) :
    rule.minimize.minimize = rule.minimize := by
  have hpushed : rule.minimize.pushedBody = rule.minimize.body := by
    rw [pushedBody, removeCasts_minimize]
    exact (pushDown_eq_self_iff true _).2 h
  have hbody : rule.minimize.pushedBody.abridge rule.minimize.elides true = rule.minimize.body := by
    rw [hpushed]
    exact abridge_abridge fun name => elides_minimize_eq_false hpushed
  rw [minimize_eq rule.minimize, hbody, minimize_eq rule]
  simp only [Condition.bind_simplify?_bind_simplify?]

/-- If the second run finds nothing to do, it pushed nothing down: a rewrite that sinks would lose nodes,
and abridging gives none back. -/
theorem not_sinks_of_minimize_minimize {rule : Rule} (h : rule.minimize.minimize = rule.minimize) :
    ∀ c ∈ rule.minimize.body.changes true, ¬ Sinks c.lhs c.rhs := by
  rw [← pushDown_eq_self_iff]
  refine pushDown_eq_self_of_changesSize_le true ?_
  have hbody : rule.minimize.body.pushDown.abridge rule.minimize.elides true =
      rule.minimize.body := by
    rw [minimize_eq rule.minimize, pushedBody, removeCasts_minimize] at h
    exact congrArg body h
  calc
    rule.minimize.body.changesSize true =
        (rule.minimize.body.pushDown.abridge rule.minimize.elides true).changesSize true := by
      rw [hbody]
    _ ≤ rule.minimize.body.pushDown.changesSize true := changesSize_abridge_le _

/-- What keeps a flat rule from being minimized in one run: a rewrite whose sides become equal, or one
between cells of the same label that come to hold equally many arguments. -/
theorem sinks_abridge_cases {rule : Rule} (hflat : rule.body.RewritesFlat) {c : Change}
    (hc : c ∈ rule.pushedBody.changes true)
    (hsinks : Sinks (c.lhs.abridge rule.elides c.outermost)
      (c.rhs.abridge rule.elides c.outermost)) :
    c.lhs.abridge rule.elides c.outermost = c.rhs.abridge rule.elides c.outermost ∨
      ∃ label as bs, isCellLabel label ∧ as.length ≠ bs.length ∧
        c.lhs = .apply label as ∧ c.rhs = .apply label bs := by
  have hstays := not_sinks_of_mem_changes_pushDown hflat.removeCasts true c hc
  generalize hl : c.lhs.abridge rule.elides c.outermost = l at hsinks ⊢
  generalize hr : c.rhs.abridge rule.elides c.outermost = r at hsinks ⊢
  cases hsinks with
  | same => exact .inl rfl
  | apply label hlength =>
      obtain ⟨as, has, hl⟩ := exists_of_abridge_eq_apply hl
      obtain ⟨bs, hbs, hr⟩ := exists_of_abridge_eq_apply hr
      rw [has, hbs] at hstays
      -- the rewrite did not sink before, so the numbers of arguments have changed since
      have hne : as.length ≠ bs.length := fun h => hstays (.apply label h)
      have hcell : isCellLabel label := by
        rcases hl with hcell | hl
        · exact hcell
        · exact hr.resolve_right fun hr => hne ((hl.trans hlength).trans hr.symm)
      exact .inr ⟨label, as, bs, hcell, hne, has, hbs⟩
  | sequence hlength =>
      obtain ⟨as, has, hl⟩ := exists_of_abridge_eq_sequence hl
      obtain ⟨bs, hbs, hr⟩ := exists_of_abridge_eq_sequence hr
      rw [has, hbs] at hstays
      exact absurd (.sequence ((hl.trans hlength).trans hr.symm)) hstays

/-- One run is enough for a flat rule whose changes have no cells in their sides. -/
theorem minimize_minimize_of_cellFree {rule : Rule} (hflat : rule.body.RewritesFlat)
    (hcells : ∀ c ∈ rule.pushedBody.changes true, c.lhs.CellFree ∧ c.rhs.CellFree) :
    rule.minimize.minimize = rule.minimize := by
  refine minimize_minimize_of_not_sinks ?_
  rw [changes_minimize, List.forall_mem_map]
  intro c hc
  rw [Change.map, (hcells c hc).1.abridge, (hcells c hc).2.abridge]
  exact not_sinks_of_mem_changes_pushDown hflat.removeCasts true c hc

/-- Minimizing twice is minimizing once exactly if no rewrite of the pushed body sinks again when its
sides have been abridged. -/
theorem minimize_minimize_iff (rule : Rule) :
    rule.minimize.minimize = rule.minimize ↔
      ∀ c ∈ rule.pushedBody.changes true,
        ¬ Sinks (c.lhs.abridge rule.elides c.outermost) (c.rhs.abridge rule.elides c.outermost) := by
  have hchanges : (∀ c ∈ rule.minimize.body.changes true, ¬ Sinks c.lhs c.rhs) ↔
      ∀ c ∈ rule.pushedBody.changes true,
        ¬ Sinks (c.lhs.abridge rule.elides c.outermost)
          (c.rhs.abridge rule.elides c.outermost) := by
    rw [changes_minimize, List.forall_mem_map]
    rfl
  rw [← hchanges]
  exact ⟨not_sinks_of_minimize_minimize, minimize_minimize_of_not_sinks⟩

theorem cellReplacement_minimize_minimize :
    cellReplacement.body.RewritesFlat ∧
      cellReplacement.minimize.minimize ≠ cellReplacement.minimize := by
  decide

end KDispatch.Rule
