import KDispatch.Proofs.Term.Casts
import KDispatch.Term.Passes
import Mathlib.Data.List.Forall2

/-!
What `pushRewrite` does with two sides. Either the rewrite between them sinks, and then the result is
built from the rewrites between their parts, or it stays as it is. Removed casts do not come back.
-/

namespace KDispatch.Term

/-- A rewrite from the first term to the second does not stay where it is: the terms are equal, or
they are applications of one label, or sequences, with equally many parts. -/
inductive Sinks : Term → Term → Prop
  | same (t : Term) : Sinks t t
  | apply (label : String) {as bs : List Term} (h : as.length = bs.length) :
      Sinks (.apply label as) (.apply label bs)
  | sequence {as bs : List Term} (h : as.length = bs.length) :
      Sinks (.sequence as) (.sequence bs)

@[simp] theorem pushRewrite_self (t : Term) : pushRewrite t t = t := by
  cases t <;> exact if_pos rfl

theorem zipWith_pushRewrite_self (ts : List Term) : List.zipWith pushRewrite ts ts = ts := by
  rw [List.zipWith_self]
  simp

theorem pushRewrite_apply_apply (l m : String) (as bs : List Term) :
    pushRewrite (.apply l as) (.apply m bs) =
      if apply l as = apply m bs then .apply l as
      else if l = m ∧ as.length = bs.length then .apply l (List.zipWith pushRewrite as bs)
      else .rewrite (.apply l as) (.apply m bs) := by
  rw [← zipRewrites_eq_zipWith]
  rfl

theorem pushRewrite_sequence_sequence (as bs : List Term) :
    pushRewrite (.sequence as) (.sequence bs) =
      if sequence as = sequence bs then .sequence as
      else if as ≠ [] ∧ as.length = bs.length then .sequence (List.zipWith pushRewrite as bs)
      else .rewrite (.sequence as) (.sequence bs) := by
  rw [← zipRewrites_eq_zipWith]
  rfl

theorem pushRewrite_apply (label : String) {as bs : List Term} (h : as.length = bs.length) :
    pushRewrite (.apply label as) (.apply label bs) =
      .apply label (List.zipWith pushRewrite as bs) := by
  rw [pushRewrite_apply_apply]
  split
  case isTrue heq =>
      obtain rfl : as = bs := by simpa using heq
      rw [zipWith_pushRewrite_self]
  case isFalse => simp [h]

theorem pushRewrite_sequence {as bs : List Term} (h : as.length = bs.length) :
    pushRewrite (.sequence as) (.sequence bs) =
      .sequence (List.zipWith pushRewrite as bs) := by
  rw [pushRewrite_sequence_sequence]
  split
  case isTrue heq =>
      obtain rfl : as = bs := by simpa using heq
      rw [zipWith_pushRewrite_self]
  case isFalse hne =>
      -- two empty sequences would be equal
      have hnonempty : as ≠ [] := by
        rintro rfl
        cases bs <;> simp_all
      simp [h, hnonempty]

theorem pushRewrite_of_not_sinks {l r : Term} (h : ¬ Sinks l r) :
    pushRewrite l r = .rewrite l r := by
  have hne : l ≠ r := fun heq => h (heq ▸ .same l)
  unfold pushRewrite
  rw [if_neg hne]
  split
  case h_1 =>
      rw [if_neg]
      rintro ⟨rfl, hlength⟩
      exact h (.apply _ hlength)
  case h_2 =>
      rw [if_neg]
      rintro ⟨-, hlength⟩
      exact h (.sequence hlength)
  case h_3 => rfl

theorem pushRewrite_eq_rewrite_iff {l r : Term} :
    pushRewrite l r = .rewrite l r ↔ ¬ Sinks l r := by
  refine ⟨?_, pushRewrite_of_not_sinks⟩
  rintro heq (⟨⟩ | ⟨label, hlength⟩ | hlength)
  · rw [pushRewrite_self] at heq
    exact absurd (congrArg sizeOf heq) (by simp)
  · rw [pushRewrite_apply label hlength] at heq
    cases heq
  · rw [pushRewrite_sequence hlength] at heq
    cases heq

/-- Induction along `pushRewrite`: down into the parts of sides that sink, and no further. -/
theorem sinking_induction {P : Term → Term → Prop} (same : ∀ t, P t t)
    (apply : ∀ label as bs, List.Forall₂ P as bs → P (.apply label as) (.apply label bs))
    (sequence : ∀ as bs, List.Forall₂ P as bs → P (.sequence as) (.sequence bs))
    (stays : ∀ l r, ¬ Sinks l r → P l r) (l r : Term) : P l r := by
  induction l using children_induction generalizing r with
  | step l ih =>
      by_cases h : Sinks l r
      · -- the induction is on the left side alone, whose parts the right side has one by one
        cases h with
        | same => exact same l
        | apply label hlength =>
            refine apply label _ _ (List.forall₂_iff_get.2 ⟨hlength, fun i hl _ => ?_⟩)
            exact ih _ (List.get_mem _ ⟨i, hl⟩) _
        | sequence hlength =>
            refine sequence _ _ (List.forall₂_iff_get.2 ⟨hlength, fun i hl _ => ?_⟩)
            exact ih _ (List.get_mem _ ⟨i, hl⟩) _
      · exact stays l r h

/-- What pushing a rewrite carries over from its two sides it carries over from two lists of parts. -/
theorem forall_mem_zipWith_pushRewrite {P Q : Term → Prop} {as bs : List Term}
    (h : List.Forall₂ (fun a b => P a → P b → Q (pushRewrite a b)) as bs)
    (has : ∀ a ∈ as, P a) (hbs : ∀ b ∈ bs, P b) :
    ∀ c ∈ List.zipWith pushRewrite as bs, Q c := by
  induction h with
  | nil => simp
  | cons hab _ ih =>
      rw [List.forall_mem_cons] at has hbs
      rw [List.zipWith_cons_cons, List.forall_mem_cons]
      exact ⟨hab has.1 hbs.1, ih has.2 hbs.2⟩

/-- Two lists of parts hold the variables of the rewrites between them. -/
theorem mem_varNames_zipWith_pushRewrite {name : String} {as bs : List Term}
    (h : List.Forall₂ (fun a b =>
      name ∈ (pushRewrite a b).varNames ↔ name ∈ a.varNames ∨ name ∈ b.varNames) as bs) :
    name ∈ (List.zipWith pushRewrite as bs).flatMap varNames ↔
      name ∈ as.flatMap varNames ∨ name ∈ bs.flatMap varNames := by
  induction h with
  | nil => simp
  | cons hab _ ih =>
      rw [List.zipWith_cons_cons, List.flatMap_cons, List.flatMap_cons, List.flatMap_cons,
        List.mem_append, List.mem_append, List.mem_append, hab, ih]
      exact or_or_or_comm

/-- A variable may come to stand at fewer places, but it does not vanish. -/
theorem mem_varNames_pushRewrite {name : String} {l r : Term} :
    name ∈ (pushRewrite l r).varNames ↔ name ∈ l.varNames ∨ name ∈ r.varNames := by
  induction l, r using sinking_induction with
  | same t => rw [pushRewrite_self, or_self]
  | apply label as bs h =>
      rw [pushRewrite_apply label h.length_eq, varNames_apply, varNames_apply, varNames_apply,
        mem_varNames_zipWith_pushRewrite h]
  | sequence as bs h =>
      rw [pushRewrite_sequence h.length_eq, varNames_sequence, varNames_sequence,
        varNames_sequence, mem_varNames_zipWith_pushRewrite h]
  | stays l r h => rw [pushRewrite_of_not_sinks h, varNames_rewrite, List.mem_append]

/-- A rewrite sinks into applications with equally many arguments, of which it leaves as many. -/
theorem Over.pushRewrite {signature : Signature} {l r : Term} (hl : l.Over signature)
    (hr : r.Over signature) : (pushRewrite l r).Over signature := by
  induction l, r using sinking_induction with
  | same t => rwa [pushRewrite_self]
  | apply label as bs h =>
      rw [over_apply] at hl hr
      rw [pushRewrite_apply label h.length_eq, over_apply]
      refine ⟨?_, forall_mem_zipWith_pushRewrite h hl.2 hr.2⟩
      simpa [h.length_eq] using hr.1
  | sequence as bs h =>
      rw [over_sequence] at hl hr
      rw [pushRewrite_sequence h.length_eq, over_sequence]
      exact forall_mem_zipWith_pushRewrite h hl hr
  | stays l r h =>
      rw [pushRewrite_of_not_sinks h, over_rewrite]
      exact ⟨hl, hr⟩

@[simp] theorem pushDown_apply (label : String) (args : List Term) :
    (apply label args).pushDown = .apply label (args.map pushDown) := by
  rw [← pushDownAll_eq_map]
  rfl

@[simp] theorem pushDown_asPattern (pattern binder : Term) :
    (asPattern pattern binder).pushDown = .asPattern pattern.pushDown binder.pushDown := rfl

@[simp] theorem pushDown_rewrite (lhs rhs : Term) :
    (rewrite lhs rhs).pushDown = pushRewrite lhs rhs := rfl

@[simp] theorem pushDown_sequence (items : List Term) :
    (sequence items).pushDown = .sequence (items.map pushDown) := by
  rw [← pushDownAll_eq_map]
  rfl

theorem mem_varNames_pushDown {name : String} {t : Term} :
    name ∈ t.pushDown.varNames ↔ name ∈ t.varNames := by
  induction t with
  | var | token => rfl
  | apply label args ih =>
      rw [pushDown_apply, varNames_apply, varNames_apply, List.flatMap_map, List.mem_flatMap,
        List.mem_flatMap]
      exact exists_congr fun a => and_congr_right (ih a)
  | asPattern pattern binder ihp ihb =>
      rw [pushDown_asPattern, varNames_asPattern, varNames_asPattern, List.mem_append,
        List.mem_append, ihp, ihb]
  | rewrite lhs rhs =>
      rw [pushDown_rewrite, mem_varNames_pushRewrite, varNames_rewrite, List.mem_append]
  | sequence items ih =>
      rw [pushDown_sequence, varNames_sequence, varNames_sequence, List.flatMap_map,
        List.mem_flatMap, List.mem_flatMap]
      exact exists_congr fun a => and_congr_right (ih a)

theorem Over.pushDown {signature : Signature} {t : Term} (h : t.Over signature) :
    t.pushDown.Over signature := by
  induction t with
  | var | token => exact h
  | apply label args ih =>
      rw [over_apply] at h
      rw [pushDown_apply, over_apply, List.length_map]
      exact ⟨h.1, List.forall_mem_map.2 fun a ha => ih a ha (h.2 a ha)⟩
  | asPattern pattern binder ihp ihb =>
      rw [over_asPattern] at h
      exact (over_asPattern _ _).2 ⟨ihp h.1, ihb h.2⟩
  | rewrite lhs rhs =>
      rw [over_rewrite] at h
      exact h.1.pushRewrite h.2
  | sequence items ih =>
      rw [over_sequence] at h
      rw [pushDown_sequence, over_sequence]
      exact List.forall_mem_map.2 fun a ha => ih a ha (h a ha)

theorem CastFree.pushDown {t : Term} (h : t.CastFree) : t.pushDown.CastFree :=
  castFree_iff_over.2 (castFree_iff_over.1 h).pushDown

end KDispatch.Term
