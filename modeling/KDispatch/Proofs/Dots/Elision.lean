import KDispatch.Proofs.Rewrites.Changes
import KDispatch.Term.Passes

/-!
Eliding variables. `elide` touches only the variables that stand directly in cells, which `cellVars`
lists: it keeps every other occurrence, the shape of every change and the number of nodes.
-/

namespace KDispatch.Term

/-- What elision makes of an argument of the given label. -/
def elideArg (useless : String → Bool) (label : String) (t : Term) : Term :=
  if isCellLabel label then elideVar useless (t.elide useless) else t.elide useless

variable (useless : String → Bool)

@[simp] theorem elide_var (name : String) : (var name).elide useless = .var name := rfl

@[simp] theorem elide_token (text sort : String) :
    (token text sort).elide useless = .token text sort := rfl

@[simp] theorem elide_apply (label : String) (args : List Term) :
    (apply label args).elide useless = .apply label (args.map (elideArg useless label)) := by
  rw [elide, bottomUp_eq, mapChildren, elideArgs]
  split <;> simp_all [elideArg, elide, List.map_map, Function.comp_def]

@[simp] theorem elide_asPattern (pattern binder : Term) :
    (asPattern pattern binder).elide useless =
      .asPattern (pattern.elide useless) (binder.elide useless) := rfl

@[simp] theorem elide_rewrite (lhs rhs : Term) :
    (rewrite lhs rhs).elide useless = .rewrite (lhs.elide useless) (rhs.elide useless) := rfl

@[simp] theorem elide_sequence (items : List Term) :
    (sequence items).elide useless = .sequence (items.map (elide useless)) :=
  bottomUp_eq _ _

variable {useless}

/-- An argument is elided like any other term unless it is a useless variable in a cell. -/
theorem elideArg_eq (label : String) (t : Term) :
    elideArg useless label t = t.elide useless ∨
      ∃ name, t = .var name ∧ useless name ∧ isCellLabel label ∧
        elideArg useless label t = dots := by
  unfold elideArg
  split
  case isFalse => exact .inl rfl
  case isTrue hcell =>
      cases t with
      | var name =>
          by_cases hname : useless name
          · exact .inr ⟨name, rfl, hname, hcell, by simp [elideVar, hname]⟩
          · exact .inl (by simp [elideVar, hname])
      | _ => exact .inl (by simp [elideVar])

/-- What does not tell dots from a variable does not notice that a variable is elided. -/
theorem apply_elideArg {β : Type} (g : Term → β) (hg : ∀ name, g dots = g (.var name))
    (label : String) (t : Term) : g (elideArg useless label t) = g (t.elide useless) := by
  rcases elideArg_eq label t with heq | ⟨name, rfl, -, -, heq⟩
  · rw [heq]
  · rw [heq, elide_var, hg name]

/-- Elision changes the sides of changes, and neither their number nor their order. -/
theorem changes_elide (outermost : Bool) (t : Term) :
    (t.elide useless).changes outermost =
      (t.changes outermost).map (Change.map fun _ => elide useless) := by
  induction t generalizing outermost with
  | var | token => rfl
  | apply label args ih =>
      rw [elide_apply, changes_apply, changes_apply, List.flatMap_map, List.map_flatMap]
      refine List.flatMap_congr fun a ha => ?_
      rw [apply_elideArg (changes _) fun _ => rfl, ih a ha]
  | asPattern pattern binder ihp ihb => simp [ihp, ihb]
  | rewrite lhs rhs => rfl
  | sequence items ih =>
      rw [elide_sequence, changes_sequence, changes_sequence, List.flatMap_map, List.map_flatMap]
      exact List.flatMap_congr fun a ha => ih a ha outermost

theorem size_elide (t : Term) : (t.elide useless).size = t.size := by
  induction t with
  | var | token => rfl
  | apply label args ih =>
      rw [elide_apply, size_eq, size_eq, children_apply, children_apply, List.map_map]
      congr 2
      refine List.map_congr_left fun a ha => ?_
      rw [Function.comp_apply, apply_elideArg size fun _ => rfl, ih a ha]
  | asPattern pattern binder ihp ihb =>
      rw [elide_asPattern, size_eq, size_eq]
      simp [ihp, ihb]
  | rewrite lhs rhs ihl ihr =>
      rw [elide_rewrite, size_eq, size_eq]
      simp [ihl, ihr]
  | sequence items ih =>
      rw [elide_sequence, size_eq, size_eq, children_sequence, children_sequence, List.map_map]
      congr 2
      exact List.map_congr_left ih

theorem Over.elide {signature : Signature} {t : Term} (h : t.Over signature) :
    (t.elide useless).Over signature := by
  induction t with
  | var | token => exact h
  | apply label args ih =>
      rw [over_apply] at h
      rw [elide_apply, over_apply, List.length_map, List.forall_mem_map]
      refine ⟨h.1, fun a ha => ?_⟩
      rcases elideArg_eq label a with heq | ⟨_, -, -, -, heq⟩
      · exact heq ▸ ih a ha (h.2 a ha)
      · exact heq ▸ over_token _ _
  | asPattern pattern binder ihp ihb =>
      rw [over_asPattern] at h
      exact (over_asPattern _ _).2 ⟨ihp h.1, ihb h.2⟩
  | rewrite lhs rhs ihl ihr =>
      rw [over_rewrite] at h
      exact (over_rewrite _ _).2 ⟨ihl h.1, ihr h.2⟩
  | sequence items ih =>
      rw [over_sequence] at h
      rw [elide_sequence, over_sequence]
      exact List.forall_mem_map.2 fun a ha => ih a ha (h a ha)

section Variables

/-- The variables that stand directly in the term if it is a cell. -/
def directVars (t : Term) : List String :=
  if t.isCell then t.children.filterMap varName? else []

/-- The variables that stand directly in cells, one for each place where one stands. -/
def cellVars (t : Term) : List String := t.preorder.flatMap directVars

theorem cellVars_eq (t : Term) : t.cellVars = t.directVars ++ t.children.flatMap cellVars := by
  rw [cellVars, preorder_eq, List.flatMap_cons, List.flatMap_assoc]
  rfl

@[simp] theorem cellVars_var (name : String) : (var name).cellVars = [] := rfl

@[simp] theorem cellVars_token (text sort : String) : (token text sort).cellVars = [] := rfl

@[simp] theorem cellVars_apply (label : String) (args : List Term) :
    (apply label args).cellVars =
      (if isCellLabel label then args.filterMap varName? else []) ++ args.flatMap cellVars :=
  cellVars_eq _

@[simp] theorem cellVars_asPattern (pattern binder : Term) :
    (asPattern pattern binder).cellVars = pattern.cellVars ++ binder.cellVars := by
  simp [cellVars_eq (.asPattern _ _), directVars, isCell]

@[simp] theorem cellVars_rewrite (lhs rhs : Term) :
    (rewrite lhs rhs).cellVars = lhs.cellVars ++ rhs.cellVars := by
  simp [cellVars_eq (.rewrite _ _), directVars, isCell]

@[simp] theorem cellVars_sequence (items : List Term) :
    (sequence items).cellVars = items.flatMap cellVars :=
  cellVars_eq _

theorem elideArg_eq_self_iff (label : String) (t : Term) :
    elideArg useless label t = t ↔
      t.elide useless = t ∧
        (isCellLabel label → ∀ name, t.varName? = some name → useless name = false) := by
  unfold elideArg
  split
  case isFalse hcell => simp [hcell]
  case isTrue hcell =>
      cases t with
      | var name => cases hname : useless name <;> simp [elideVar, dots, hcell, hname]
      | _ => simp [elideVar]

/-- Elision leaves a term alone exactly if no useless variable stands directly in a cell. -/
theorem elide_eq_self_iff (t : Term) :
    t.elide useless = t ↔ ∀ name ∈ t.cellVars, useless name = false := by
  induction t with
  | var | token => simp
  | apply label args ih =>
      -- the variables directly in this cell, argument by argument like those below
      have hdirect : (∀ name ∈ if isCellLabel label then args.filterMap varName? else [],
          useless name = false) ↔
          ∀ a ∈ args, isCellLabel label → ∀ name, a.varName? = some name →
            useless name = false := by
        split
        case isTrue hcell =>
            simp only [List.mem_filterMap, hcell, true_imp_iff]
            exact ⟨fun h a ha name hname => h name ⟨a, ha, hname⟩,
              fun h name ⟨a, ha, hname⟩ => h a ha name hname⟩
        case isFalse hcell => simp [hcell]
      simp only [elide_apply, apply.injEq, true_and, map_eq_self_iff, elideArg_eq_self_iff,
        cellVars_apply, List.forall_mem_append, List.forall_mem_flatMap, hdirect]
      rw [and_comm, ← forall₂_and]
      exact forall₂_congr fun a ha => and_congr_left' (ih a ha)
  | asPattern pattern binder ihp ihb => simp [ihp, ihb, or_imp, forall_and]
  | rewrite lhs rhs ihl ihr => simp [ihl, ihr, or_imp, forall_and]
  | sequence items ih =>
      simp only [elide_sequence, sequence.injEq, map_eq_self_iff, cellVars_sequence,
        List.forall_mem_flatMap]
      exact forall₂_congr ih

theorem varName?_elideArg {label : String} (hcell : isCellLabel label) (t : Term) :
    (elideArg useless label t).varName? = t.varName?.filter (!useless ·) := by
  cases t with
  | var name =>
      cases hname : useless name <;>
        simp [elideArg, hcell, elideVar, dots, hname, Option.filter]
  | _ => simp [elideArg, hcell, elideVar]

/-- Elision takes the useless ones away from the variables that stand directly in cells. -/
theorem cellVars_elide (t : Term) :
    (t.elide useless).cellVars = t.cellVars.filter (!useless ·) := by
  induction t with
  | var | token => rfl
  | apply label args ih =>
      have hbelow : (args.map (elideArg useless label)).flatMap cellVars =
          (args.flatMap cellVars).filter (!useless ·) := by
        rw [List.flatMap_map, List.filter_flatMap]
        refine List.flatMap_congr fun a ha => ?_
        rw [apply_elideArg cellVars fun _ => rfl, ih a ha]
      rw [elide_apply, cellVars_apply, cellVars_apply, List.filter_append, hbelow]
      congr 1
      split
      case isTrue hcell =>
          rw [List.filterMap_map, List.filter_filterMap]
          exact List.filterMap_congr fun a _ => varName?_elideArg hcell a
      case isFalse => rfl
  | asPattern pattern binder ihp ihb => simp [ihp, ihb]
  | rewrite lhs rhs ihl ihr => simp [ihl, ihr]
  | sequence items ih =>
      rw [elide_sequence, cellVars_sequence, cellVars_sequence, List.flatMap_map,
        List.filter_flatMap]
      exact List.flatMap_congr ih

/-- A variable stands directly in a cell if it is an argument of one. -/
theorem mem_cellVars_iff {name : String} {t : Term} :
    name ∈ t.cellVars ↔ ∃ s ∈ t.preorder, s.isCell ∧ var name ∈ s.children := by
  have hdirect (s : Term) : name ∈ s.directVars ↔ s.isCell ∧ var name ∈ s.children := by
    rw [directVars]
    split
    case isTrue hcell =>
        simp only [List.mem_filterMap, hcell, true_and]
        refine ⟨?_, fun h => ⟨_, h, rfl⟩⟩
        rintro ⟨c, hc, hname⟩
        cases c with
        | var => exact Option.some.inj hname ▸ hc
        | _ => cases hname
    case isFalse hcell => simp [hcell]
  simp only [cellVars, List.mem_flatMap, hdirect]

/-- The variables of an argument after elision, and itself if it is elided. -/
theorem varNames_elideArg_perm (label : String) {t : Term}
    (h : ((t.elide useless).varNames ++ t.cellVars.filter useless).Perm t.varNames) :
    ((elideArg useless label t).varNames ++
        ((if isCellLabel label then t.varName?.toList else []) ++ t.cellVars).filter useless).Perm
      t.varNames := by
  cases t with
  | var name =>
      cases hcell : isCellLabel label <;> cases hname : useless name <;>
        simp [elideArg, elideVar, dots, hcell, hname]
  | _ => simp_all [elideArg, elideVar]

theorem flatMap_varNames_elide_perm (ts : List Term)
    (h : ∀ t ∈ ts, ((t.elide useless).varNames ++ t.cellVars.filter useless).Perm t.varNames) :
    (ts.flatMap (fun t => (t.elide useless).varNames) ++
      (ts.flatMap cellVars).filter useless).Perm (ts.flatMap varNames) := by
  rw [List.filter_flatMap]
  exact (List.flatMap_append_perm ts _ _).trans (List.Perm.flatMap_left ts h)

/-- Elision takes the useless variables directly in cells away, each place for itself, and no others. -/
theorem varNames_elide_perm (t : Term) :
    ((t.elide useless).varNames ++ t.cellVars.filter useless).Perm t.varNames := by
  induction t with
  | var | token => simp
  | apply label args ih =>
      have hdirect : (if isCellLabel label then args.filterMap varName? else []) =
          args.flatMap fun a => if isCellLabel label then a.varName?.toList else [] := by
        split
        · exact List.filterMap_eq_flatMap_toList _ _
        · simp
      -- the variables directly in this cell and those below it, argument by argument
      have hcells : ((apply label args).cellVars.filter useless).Perm
          (args.flatMap fun a =>
            ((if isCellLabel label then a.varName?.toList else []) ++ a.cellVars).filter
              useless) := by
        rw [cellVars_apply, hdirect, ← List.filter_flatMap]
        exact (List.flatMap_append_perm args _ _).filter useless
      rw [elide_apply, varNames_apply, varNames_apply, List.flatMap_map]
      refine (hcells.append_left _).trans ((List.flatMap_append_perm args _ _).trans ?_)
      exact List.Perm.flatMap_left args fun a ha => varNames_elideArg_perm label (ih a ha)
  | asPattern pattern binder ihp ihb =>
      simpa using flatMap_varNames_elide_perm [pattern, binder] (by simp [ihp, ihb])
  | rewrite lhs rhs ihl ihr =>
      simpa using flatMap_varNames_elide_perm [lhs, rhs] (by simp [ihl, ihr])
  | sequence items ih =>
      rw [elide_sequence, varNames_sequence, varNames_sequence, cellVars_sequence,
        List.flatMap_map]
      exact flatMap_varNames_elide_perm items ih

/-- How often elision leaves a variable, and at how many places it does not. -/
theorem occurrences_elide_add (name : String) (t : Term) :
    (t.elide useless).occurrences name + (t.cellVars.filter useless).count name =
      t.occurrences name := by
  rw [occurrences, occurrences, ← List.count_append]
  exact (varNames_elide_perm t).count_eq name

theorem occurrences_elide {name : String} (h : useless name = false) (t : Term) :
    (t.elide useless).occurrences name = t.occurrences name := by
  have hkept : name ∉ t.cellVars.filter useless := by simp [h]
  rw [← occurrences_elide_add name t, List.count_eq_zero_of_not_mem hkept, Nat.add_zero]

end Variables

end KDispatch.Term
