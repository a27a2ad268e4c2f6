import KDispatch.Proofs.Condition.Simplification
import KDispatch.Proofs.Dots.Collapse
import KDispatch.Rule.CoverageLogger
import Mathlib.Data.List.Count

/-!
Renaming variables. No pass over terms asks how a variable is called, so each of them commutes with a
renaming; those that compare terms or names do if the renaming keeps different names apart.
-/

namespace KDispatch

namespace Term

/-- A variable under its new name, and any other node itself. -/
def renameVar (s : String → String) : Term → Term
  | .var name => .var (s name)
  | t => t

/-- The term with every variable renamed. -/
def rename (s : String → String) (t : Term) : Term := t.bottomUp (renameVar s)

variable (s : String → String)

@[simp] theorem rename_var (name : String) : (var name).rename s = .var (s name) := rfl

@[simp] theorem rename_token (text sort : String) :
    (token text sort).rename s = .token text sort := rfl

@[simp] theorem rename_apply (label : String) (args : List Term) :
    (apply label args).rename s = .apply label (args.map (rename s)) :=
  bottomUp_eq _ _

@[simp] theorem rename_asPattern (pattern binder : Term) :
    (asPattern pattern binder).rename s = .asPattern (pattern.rename s) (binder.rename s) := rfl

@[simp] theorem rename_rewrite (lhs rhs : Term) :
    (rewrite lhs rhs).rename s = .rewrite (lhs.rename s) (rhs.rename s) := rfl

@[simp] theorem rename_sequence (items : List Term) :
    (sequence items).rename s = .sequence (items.map (rename s)) :=
  bottomUp_eq _ _

@[simp] theorem rename_id (t : Term) : t.rename id = t := by
  induction t with
  | var | token => rfl
  | apply label args ih => rw [rename_apply, map_eq_self_iff.2 ih]
  | asPattern pattern binder ihp ihb => rw [rename_asPattern, ihp, ihb]
  | rewrite lhs rhs ihl ihr => rw [rename_rewrite, ihl, ihr]
  | sequence items ih => rw [rename_sequence, map_eq_self_iff.2 ih]

theorem rename_rename (r : String → String) (t : Term) :
    (t.rename s).rename r = t.rename (r ∘ s) := by
  induction t with
  | var | token => rfl
  | apply label args ih =>
      rw [rename_apply, rename_apply, rename_apply, List.map_map]
      exact congrArg _ (List.map_congr_left ih)
  | asPattern pattern binder ihp ihb => simp [ihp, ihb]
  | rewrite lhs rhs ihl ihr => simp [ihl, ihr]
  | sequence items ih =>
      rw [rename_sequence, rename_sequence, rename_sequence, List.map_map]
      exact congrArg _ (List.map_congr_left ih)

variable {s}

/-- Names that are kept apart can be taken back. -/
theorem rename_injective (hs : Function.Injective s) : Function.Injective (rename s) := by
  intro t u h
  have hback := congrArg (rename (Function.invFun s)) h
  rw [rename_rename, rename_rename, Function.invFun_comp hs, rename_id, rename_id] at hback
  exact hback

@[simp] theorem varNames_rename (t : Term) : (t.rename s).varNames = t.varNames.map s := by
  induction t with
  | var | token => rfl
  | apply label args ih =>
      rw [rename_apply, varNames_apply, varNames_apply, List.flatMap_map, List.map_flatMap]
      exact List.flatMap_congr ih
  | asPattern pattern binder ihp ihb => simp [ihp, ihb]
  | rewrite lhs rhs ihl ihr => simp [ihl, ihr]
  | sequence items ih =>
      rw [rename_sequence, varNames_sequence, varNames_sequence, List.flatMap_map,
        List.map_flatMap]
      exact List.flatMap_congr ih

theorem occurrences_rename (hs : Function.Injective s) (name : String) (t : Term) :
    (t.rename s).occurrences (s name) = t.occurrences name := by
  rw [occurrences, varNames_rename, List.count_map_of_injective _ _ hs, occurrences]

section Casts

theorem rename_uncast (t : Term) : t.uncast.rename s = (t.rename s).uncast := by
  cases t with
  | apply label args =>
      match args with
      | [arg] =>
          simp only [uncast, rename_apply, List.map_cons, List.map_nil]
          split <;> simp
      | [] | _ :: _ :: _ => simp [uncast]
  | sequence => simp [uncast]
  | _ => rfl

theorem rename_removeCasts (t : Term) : t.removeCasts.rename s = (t.rename s).removeCasts := by
  induction t with
  | var | token => rfl
  | apply label args ih =>
      rw [removeCasts_apply, rename_uncast, rename_apply, rename_apply, removeCasts_apply,
        List.map_map, List.map_map]
      exact congrArg (fun args => (apply label args).uncast) (List.map_congr_left ih)
  | asPattern pattern binder ihp ihb => simp [ihp, ihb]
  | rewrite lhs rhs ihl ihr => simp [ihl, ihr]
  | sequence items ih =>
      rw [removeCasts_sequence, rename_sequence, rename_sequence, removeCasts_sequence,
        List.map_map, List.map_map]
      exact congrArg _ (List.map_congr_left ih)

theorem loggedTerm?_rename (t : Term) :
    (t.rename s).loggedTerm? = t.loggedTerm?.map (rename s) := by
  cases t with
  | apply label args =>
      match args with
      | .sequence [_, _] :: _ =>
          simp only [loggedTerm?, rename_apply, rename_sequence, List.map_cons, List.map_nil]
          split <;> rfl
      | .sequence [] :: _ | .sequence [_] :: _ | .sequence (_ :: _ :: _ :: _) :: _ =>
          simp [loggedTerm?]
      | [] | .var _ :: _ | .token _ _ :: _ | .apply _ _ :: _ | .asPattern _ _ :: _
      | .rewrite _ _ :: _ => simp [loggedTerm?]
  | sequence => simp [loggedTerm?]
  | _ => rfl

theorem rename_stripCoverageLogger (t : Term) :
    t.stripCoverageLogger.rename s = (t.rename s).stripCoverageLogger := by
  cases t with
  | rewrite lhs rhs =>
      simp only [stripCoverageLogger, rename_rewrite, loggedTerm?_rename]
      cases rhs.loggedTerm? <;> rfl
  | apply | sequence => simp [stripCoverageLogger]
  | _ => rfl

end Casts

section Rewrites

theorem exists_of_rename_eq_apply {t : Term} {label : String} {args' : List Term}
    (h : t.rename s = .apply label args') :
    ∃ args, t = .apply label args ∧ args.map (rename s) = args' := by
  cases t with
  | apply label₀ args =>
      rw [rename_apply] at h
      obtain ⟨rfl, hargs⟩ := apply.inj h
      exact ⟨args, rfl, hargs⟩
  | sequence items =>
      rw [rename_sequence] at h
      cases h
  | var | token | asPattern | rewrite => cases h

theorem exists_of_rename_eq_sequence {t : Term} {items' : List Term}
    (h : t.rename s = .sequence items') :
    ∃ items, t = .sequence items ∧ items.map (rename s) = items' := by
  cases t with
  | apply label args =>
      rw [rename_apply] at h
      cases h
  | sequence items =>
      rw [rename_sequence] at h
      exact ⟨items, rfl, sequence.inj h⟩
  | var | token | asPattern | rewrite => cases h

theorem sinks_rename_iff (hs : Function.Injective s) {l r : Term} :
    Sinks (l.rename s) (r.rename s) ↔ Sinks l r := by
  constructor
  · intro h
    generalize hl : l.rename s = l' at h
    generalize hr : r.rename s = r' at h
    cases h with
    | same => exact rename_injective hs (hl.trans hr.symm) ▸ .same l
    | apply label hlength =>
        obtain ⟨as, rfl, rfl⟩ := exists_of_rename_eq_apply hl
        obtain ⟨bs, rfl, rfl⟩ := exists_of_rename_eq_apply hr
        exact .apply label (by simpa using hlength)
    | sequence hlength =>
        obtain ⟨as, rfl, rfl⟩ := exists_of_rename_eq_sequence hl
        obtain ⟨bs, rfl, rfl⟩ := exists_of_rename_eq_sequence hr
        exact .sequence (by simpa using hlength)
  · rintro (⟨⟩ | ⟨label, hlength⟩ | hlength)
    · exact .same _
    · simpa using Sinks.apply label (by simpa using hlength)
    · simpa using Sinks.sequence (by simpa using hlength)

theorem map_rename_zipWith {as bs : List Term}
    (h : List.Forall₂ (fun a b =>
      (pushRewrite a b).rename s = pushRewrite (a.rename s) (b.rename s)) as bs) :
    (List.zipWith pushRewrite as bs).map (rename s) =
      List.zipWith pushRewrite (as.map (rename s)) (bs.map (rename s)) := by
  induction h with
  | nil => rfl
  | cons hab _ ih => rw [List.zipWith_cons_cons, List.map_cons, hab, ih]; rfl

/-- Sides that differ also differ under their new names, so the same rewrites sink. -/
theorem rename_pushRewrite (hs : Function.Injective s) (l r : Term) :
    (pushRewrite l r).rename s = pushRewrite (l.rename s) (r.rename s) := by
  induction l, r using sinking_induction with
  | same t => rw [pushRewrite_self, pushRewrite_self]
  | apply label as bs h =>
      rw [pushRewrite_apply label h.length_eq, rename_apply, rename_apply, rename_apply,
        pushRewrite_apply label (by simpa using h.length_eq), map_rename_zipWith h]
  | sequence as bs h =>
      rw [pushRewrite_sequence h.length_eq, rename_sequence, rename_sequence, rename_sequence,
        pushRewrite_sequence (by simpa using h.length_eq), map_rename_zipWith h]
  | stays l r h =>
      rw [pushRewrite_of_not_sinks h, rename_rewrite,
        pushRewrite_of_not_sinks (mt (sinks_rename_iff hs).1 h)]

theorem rename_pushDown (hs : Function.Injective s) (t : Term) :
    t.pushDown.rename s = (t.rename s).pushDown := by
  induction t with
  | var | token => rfl
  | apply label args ih =>
      rw [pushDown_apply, rename_apply, rename_apply, pushDown_apply, List.map_map, List.map_map]
      exact congrArg _ (List.map_congr_left ih)
  | asPattern pattern binder ihp ihb => simp [ihp, ihb]
  | rewrite lhs rhs =>
      rw [pushDown_rewrite, rename_pushRewrite hs, rename_rewrite, pushDown_rewrite]
  | sequence items ih =>
      rw [pushDown_sequence, rename_sequence, rename_sequence, pushDown_sequence, List.map_map,
        List.map_map]
      exact congrArg _ (List.map_congr_left ih)

end Rewrites

section Dots

theorem rename_elideArg {useless useless' : String → Bool}
    (h : ∀ name, useless' (s name) = useless name) (label : String) {t : Term}
    (ht : (t.elide useless).rename s = (t.rename s).elide useless') :
    (elideArg useless label t).rename s = elideArg useless' label (t.rename s) := by
  unfold elideArg
  split
  case isFalse => exact ht
  case isTrue =>
      cases t with
      | var name => cases hname : useless name <;> simp [elideVar, h, hname, dots]
      | _ => simp_all [elideVar]

/-- A name is useless under a renaming if the name it has come from was. -/
theorem rename_elide {useless useless' : String → Bool}
    (h : ∀ name, useless' (s name) = useless name) (t : Term) :
    (t.elide useless).rename s = (t.rename s).elide useless' := by
  induction t with
  | var | token => rfl
  | apply label args ih =>
      rw [elide_apply, rename_apply, rename_apply, elide_apply, List.map_map, List.map_map]
      exact congrArg _ (List.map_congr_left fun a ha => rename_elideArg h label (ih a ha))
  | asPattern pattern binder ihp ihb => simp [ihp, ihb]
  | rewrite lhs rhs ihl ihr => simp [ihl, ihr]
  | sequence items ih =>
      rw [elide_sequence, rename_sequence, rename_sequence, elide_sequence, List.map_map,
        List.map_map]
      exact congrArg _ (List.map_congr_left ih)

@[simp] theorem isDots_rename (t : Term) : (t.rename s).isDots = t.isDots := by
  cases t <;> simp [isDots]

theorem mergeDots_map_rename (afterDots : Bool) (ts : List Term) :
    mergeDots afterDots (ts.map (rename s)) = (mergeDots afterDots ts).map (rename s) := by
  induction ts generalizing afterDots with
  | nil => rfl
  | cons t ts ih =>
      rw [List.map_cons, mergeDots_cons, mergeDots_cons, isDots_rename]
      split
      · exact ih true
      · rw [List.map_cons, ih]

theorem rename_foldCell (outermost : Bool) (label : String) (args : List Term) :
    (foldCell outermost label args).rename s = foldCell outermost label (args.map (rename s)) := by
  have hall : (args.map (rename s)).all isDots = args.all isDots := by
    simp [List.all_map, Function.comp_def]
  unfold foldCell
  rw [List.isEmpty_map, hall]
  split
  · rfl
  · exact rename_apply s label args

theorem rename_collapseDots (outermost : Bool) (t : Term) :
    (t.collapseDots outermost).rename s = (t.rename s).collapseDots outermost := by
  induction t generalizing outermost with
  | var | token => rfl
  | apply label args ih =>
      have hargs (outermost : Bool) :
          (args.map (collapseDots outermost)).map (rename s) =
            (args.map (rename s)).map (collapseDots outermost) := by
        rw [List.map_map, List.map_map]
        exact List.map_congr_left fun a ha => ih a ha outermost
      rw [collapseDots_apply, rename_apply, collapseDots_apply]
      split
      · rw [rename_foldCell, ← mergeDots_map_rename, hargs]
      · rw [rename_apply, hargs]
  | asPattern pattern binder ihp ihb => simp [ihp, ihb]
  | rewrite lhs rhs ihl ihr => simp [ihl, ihr]
  | sequence items ih =>
      rw [collapseDots_sequence, rename_sequence, rename_sequence, collapseDots_sequence,
        List.map_map, List.map_map]
      exact congrArg _ (List.map_congr_left fun a ha => ih a ha outermost)

end Dots

end Term

namespace Condition

variable {s : String → String}

theorem conjuncts_rename (t : Term) :
    conjuncts (t.rename s) = (conjuncts t).map (Term.rename s) := by
  induction t with
  | apply label args ih =>
      rw [Term.rename_apply, conjuncts_apply, conjuncts_apply]
      split
      · rw [List.flatMap_map, List.map_flatMap]
        exact List.flatMap_congr ih
      · simp
  | sequence => simp [conjuncts]
  | _ => rfl

@[simp] theorem isTriviallyTrue_rename (t : Term) :
    isTriviallyTrue (t.rename s) = isTriviallyTrue t := by
  cases t <;> simp [isTriviallyTrue]

theorem foldl_and_rename (t : Term) (ts : List Term) :
    ts.foldl (fun a b => and a (b.rename s)) (t.rename s) = (ts.foldl and t).rename s := by
  induction ts generalizing t with
  | nil => rfl
  | cons u us ih =>
      rw [List.foldl_cons, List.foldl_cons, ← ih (and t u)]
      simp [and]

theorem conjunction?_map_rename (ts : List Term) :
    conjunction? (ts.map (Term.rename s)) = (conjunction? ts).map (Term.rename s) := by
  cases ts with
  | nil => rfl
  | cons t ts =>
      rw [List.map_cons, conjunction?, conjunction?, List.foldl_map, Option.map_some]
      exact congrArg some (foldl_and_rename t ts)

theorem simplify?_rename (t : Term) :
    simplify? (t.rename s) = (simplify? t).map (Term.rename s) := by
  rw [simplify?, conjuncts_rename, List.filter_map, conjunction?_map_rename, simplify?]
  simp [Function.comp_def]

end Condition

end KDispatch
