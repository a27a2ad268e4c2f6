import KDispatch.Proofs.Condition.Simplification
import KDispatch.Proofs.Dots.Collapse
import KDispatch.Rule.Minimize

/-!
Minimization in stages. The body is first pushed down and then abridged, that is, useless variables are
elided and dots are collapsed; abridging works on the sides of each change on their own. No cast is left in
the body, while those of the conditions stay.
-/

namespace KDispatch

namespace Term

/-- The term with dots for useless variables and for cells that hold nothing else. -/
def abridge (useless : String → Bool) (outermost : Bool) (t : Term) : Term :=
  (t.elide useless).collapseDots outermost

variable {useless : String → Bool} {outermost : Bool}

theorem changes_abridge (t : Term) :
    (t.abridge useless outermost).changes outermost =
      (t.changes outermost).map (Change.map (abridge useless)) := by
  rw [abridge, changes_collapseDots, changes_elide, List.map_map]
  rfl

theorem size_abridge_le (t : Term) : (t.abridge useless outermost).size ≤ t.size :=
  (size_collapseDots_le outermost _).trans (size_elide t).le

theorem changesSize_abridge_le (t : Term) :
    (t.abridge useless outermost).changesSize outermost ≤ t.changesSize outermost := by
  rw [changesSize, changes_abridge, List.map_map]
  exact List.sum_le_sum fun c _ => Nat.add_le_add (size_abridge_le c.lhs) (size_abridge_le c.rhs)

theorem Over.abridge {signature : Signature} {t : Term} (h : t.Over signature)
    (hcells : ∀ label count, isCellLabel label → signature label count) :
    (t.abridge useless outermost).Over signature :=
  h.elide.collapseDots hcells outermost

theorem CastFree.abridge {t : Term} (h : t.CastFree) : (t.abridge useless outermost).CastFree := by
  refine castFree_iff_over.2 ((castFree_iff_over.1 h).abridge fun label count hlabel => ?_)
  simp [castFreeSignature, not_isCastLabel_of_isCellLabel hlabel]

theorem cellVars_abridge (t : Term) :
    (t.abridge useless outermost).cellVars = t.cellVars.filter (!useless ·) := by
  rw [abridge, cellVars_collapseDots, cellVars_elide]

theorem occurrences_abridge_add (useless : String → Bool) (outermost : Bool) (name : String)
    (t : Term) :
    (t.abridge useless outermost).occurrences name + (t.cellVars.filter useless).count name =
      t.occurrences name := by
  rw [← occurrences_elide_add name t, occurrences, occurrences, abridge, varNames_collapseDots]

theorem occurrences_abridge {name : String} (h : useless name = false) (t : Term) :
    (t.abridge useless outermost).occurrences name = t.occurrences name := by
  rw [← occurrences_elide h t, occurrences, occurrences, abridge, varNames_collapseDots]

/-- An abridged term stays as it is if of the variables left directly in cells none is useless. -/
theorem abridge_abridge {useless' : String → Bool} {t : Term}
    (h : ∀ name, useless name = false → useless' name = false) :
    (t.abridge useless outermost).abridge useless' outermost = t.abridge useless outermost := by
  have helide : (t.abridge useless outermost).elide useless' = t.abridge useless outermost := by
    rw [elide_eq_self_iff]
    intro name hname
    rw [cellVars_abridge] at hname
    exact h name (by simpa using (List.mem_filter.1 hname).2)
  rw [abridge, helide]
  exact collapseDots_collapseDots outermost _

/-- An application is abridged to dots or keeps its label, and unless it is a cell it keeps the number
of its arguments. -/
theorem abridge_apply_cases (useless : String → Bool) (outermost : Bool) (label : String)
    (args : List Term) :
    (apply label args).abridge useless outermost = dots ∨
      ∃ args', (apply label args).abridge useless outermost = .apply label args' ∧
        (isCellLabel label ∨ args.length = args'.length) := by
  rw [abridge, elide_apply, collapseDots_apply]
  split
  case isTrue hcell =>
      rcases foldCell_eq outermost label (mergeDots false
        ((args.map (elideArg useless label)).map (collapseDots false))) with heq | ⟨heq, -⟩
      · exact .inr ⟨_, heq, .inl hcell⟩
      · exact .inl heq
  case isFalse => exact .inr ⟨_, rfl, .inr (by simp)⟩

theorem abridge_sequence (useless : String → Bool) (outermost : Bool) (items : List Term) :
    (sequence items).abridge useless outermost =
      .sequence (items.map (abridge useless outermost)) := by
  rw [abridge, elide_sequence, collapseDots_sequence, List.map_map]
  rfl

/-- An abridged application comes from one of the same label, with equally many arguments unless it is
a cell. -/
theorem exists_of_abridge_eq_apply {t : Term} {label : String} {args' : List Term}
    (h : t.abridge useless outermost = .apply label args') :
    ∃ args, t = .apply label args ∧ (isCellLabel label ∨ args.length = args'.length) := by
  cases t with
  | apply label' args =>
      rcases abridge_apply_cases useless outermost label' args with heq | ⟨_, heq, hlength⟩
      · cases heq.symm.trans h
      · obtain ⟨rfl, rfl⟩ := apply.inj (heq.symm.trans h)
        exact ⟨args, rfl, hlength⟩
  | sequence items =>
      rw [abridge_sequence] at h
      cases h
  | var | token | asPattern | rewrite => cases h

theorem exists_of_abridge_eq_sequence {t : Term} {items' : List Term}
    (h : t.abridge useless outermost = .sequence items') :
    ∃ items, t = .sequence items ∧ items.length = items'.length := by
  cases t with
  | apply label args =>
      rcases abridge_apply_cases useless outermost label args with heq | ⟨_, heq, -⟩
      · cases heq.symm.trans h
      · cases heq.symm.trans h
  | sequence items =>
      rw [abridge_sequence] at h
      obtain rfl := sequence.inj h
      exact ⟨items, rfl, by simp⟩
  | var | token | asPattern | rewrite => cases h

section CellFree

def CellFree (t : Term) : Prop := ∀ s ∈ t.preorder, s.isCell = false

theorem cellFree_iff (t : Term) :
    t.CellFree ↔ t.isCell = false ∧ ∀ c ∈ t.children, c.CellFree :=
  forall_mem_preorder_iff t

theorem CellFree.collapseDots {t : Term} (h : t.CellFree) : t.collapseDots outermost = t := by
  induction t using children_induction with
  | step t ih =>
      obtain ⟨hcell, hchildren⟩ := (cellFree_iff t).1 h
      rw [collapseDots_of_not_isCell hcell]
      exact mapChildren_eq_self fun c hc => ih c hc (hchildren c hc)

/-- Where there are no cells, nothing is abridged. -/
theorem CellFree.abridge {t : Term} (h : t.CellFree) : t.abridge useless outermost = t := by
  have helide : t.elide useless = t := by
    rw [elide_eq_self_iff]
    intro name hname
    obtain ⟨s, hs, hname⟩ := List.mem_flatMap.1 hname
    simp [directVars, h s hs] at hname
  rw [Term.abridge, helide, h.collapseDots]

end CellFree

end Term

namespace Rule

/-- The body without casts and with its rewrites pushed down, before any dots are put. -/
def pushedBody (rule : Rule) : Term := rule.body.removeCasts.pushDown

/-- The variables that minimization elides where they stand directly in cells. -/
def elides (rule : Rule) : String → Bool :=
  isUseless rule.pushedBody (rule.requires.bind Condition.simplify?)
    (rule.ensures.bind Condition.simplify?)

theorem minimize_eq (rule : Rule) :
    rule.minimize =
      ⟨rule.pushedBody.abridge rule.elides true, rule.requires.bind Condition.simplify?,
        rule.ensures.bind Condition.simplify?, rule.attributes⟩ := rfl

theorem body_minimize (rule : Rule) :
    rule.minimize.body = rule.pushedBody.abridge rule.elides true := rfl

theorem minimize_congr {a b : Rule} (hbody : a.pushedBody = b.pushedBody)
    (hrequires : a.requires = b.requires) (hensures : a.ensures = b.ensures)
    (hattributes : a.attributes = b.attributes) : a.minimize = b.minimize := by
  rw [minimize_eq, minimize_eq, elides, elides, hbody, hrequires, hensures, hattributes]

theorem projection_pushedBody (rule : Rule) (side : Side) :
    rule.pushedBody.projection side = rule.body.removeCasts.projection side :=
  Term.projection_pushDown side _

theorem changes_minimize (rule : Rule) :
    rule.minimize.body.changes true =
      (rule.pushedBody.changes true).map (Change.map (Term.abridge rule.elides)) :=
  Term.changes_abridge _

theorem castFree_pushedBody (rule : Rule) : rule.pushedBody.CastFree :=
  (Term.castFree_removeCasts _).pushDown

theorem castFree_body_minimize (rule : Rule) : rule.minimize.body.CastFree :=
  rule.castFree_pushedBody.abridge

/-- No cast stands in the body or in a condition. -/
structure CastFree (rule : Rule) : Prop where
  body : rule.body.CastFree
  requires : ∀ condition ∈ rule.requires, condition.CastFree
  ensures : ∀ condition ∈ rule.ensures, condition.CastFree

/-- A minimized rule is free of casts exactly if its conditions were: no cast is left in the body, and in
the conditions the same casts stand as before. -/
theorem minimize_castFree_iff (rule : Rule) :
    (rule.minimize.CastFree ↔
        (∀ condition ∈ rule.requires, condition.CastFree) ∧
          ∀ condition ∈ rule.ensures, condition.CastFree) ∧
      rule.minimize.body.CastFree ∧
      Condition.casts rule.minimize.requires = Condition.casts rule.requires ∧
      Condition.casts rule.minimize.ensures = Condition.casts rule.ensures := by
  have hrequires : (∀ condition ∈ rule.minimize.requires, condition.CastFree) ↔
      ∀ condition ∈ rule.requires, condition.CastFree := Condition.castFree_bind_simplify?_iff
  have hensures : (∀ condition ∈ rule.minimize.ensures, condition.CastFree) ↔
      ∀ condition ∈ rule.ensures, condition.CastFree := Condition.castFree_bind_simplify?_iff
  refine ⟨⟨fun h => ?_, fun h => ?_⟩, rule.castFree_body_minimize,
    Condition.casts_bind_simplify? rule.requires, Condition.casts_bind_simplify? rule.ensures⟩
  · exact ⟨hrequires.1 h.requires, hensures.1 h.ensures⟩
  · exact ⟨rule.castFree_body_minimize, hrequires.2 h.1, hensures.2 h.2⟩

/-- A variable that the compiler casts in the body and in the condition. -/
def castedVariable : Rule where
  body := .apply "<k>"
    [.rewrite (.apply "#SemanticCastToInt" [.var "X"]) (.token "0" "Int")]
  requires := some (.apply "_>Int_"
    [.apply "#SemanticCastToInt" [.var "X"], .token "0" "Int"])
  ensures := none
  attributes := .empty

theorem castedVariable_keeps_cast : ¬ castedVariable.minimize.CastFree := by
  intro h
  exact absurd (Condition.castFree_iff.1 h.requires) (by decide)

end Rule

end KDispatch
