import KDispatch.Proofs.Term.Casts

/-!
Where rewrites may stand in a term: nowhere, in no side of another rewrite, or in no pattern with an
alias. Removing casts keeps each of the three.
-/

namespace KDispatch.Term

def isRewrite : Term → Bool
  | .rewrite _ _ => true
  | _ => false

def isAsPattern : Term → Bool
  | .asPattern _ _ => true
  | _ => false

@[simp] theorem isRewrite_apply (label : String) (args : List Term) : (apply label args).isRewrite = false := rfl

@[simp] theorem isRewrite_asPattern (pattern binder : Term) : (asPattern pattern binder).isRewrite = false := rfl

@[simp] theorem isRewrite_rewrite (lhs rhs : Term) : (rewrite lhs rhs).isRewrite = true := rfl

@[simp] theorem isRewrite_sequence (items : List Term) : (sequence items).isRewrite = false := rfl

@[simp] theorem isAsPattern_asPattern (pattern binder : Term) : (asPattern pattern binder).isAsPattern = true := rfl

def RewriteFree (t : Term) : Prop := ∀ s ∈ t.preorder, s.isRewrite = false

/-- No rewrite stands in a side of another rewrite. -/
def RewritesFlat (t : Term) : Prop :=
  ∀ s ∈ t.preorder, s.isRewrite → ∀ side ∈ s.children, side.RewriteFree

/-- No rewrite stands in a pattern with an alias, nor in the alias. -/
def AliasesRewriteFree (t : Term) : Prop :=
  ∀ s ∈ t.preorder, s.isAsPattern → ∀ part ∈ s.children, part.RewriteFree

instance (t : Term) : Decidable t.RewriteFree := List.decidableBAll _ _

instance (t : Term) : Decidable t.RewritesFlat := List.decidableBAll _ _

instance (t : Term) : Decidable t.AliasesRewriteFree := List.decidableBAll _ _

theorem rewriteFree_iff (t : Term) :
    t.RewriteFree ↔ t.isRewrite = false ∧ ∀ c ∈ t.children, c.RewriteFree :=
  forall_mem_preorder_iff t

theorem rewritesFlat_iff (t : Term) :
    t.RewritesFlat ↔
      (t.isRewrite → ∀ side ∈ t.children, side.RewriteFree) ∧
        ∀ c ∈ t.children, c.RewritesFlat :=
  forall_mem_preorder_iff t

theorem aliasesRewriteFree_iff (t : Term) :
    t.AliasesRewriteFree ↔
      (t.isAsPattern → ∀ part ∈ t.children, part.RewriteFree) ∧
        ∀ c ∈ t.children, c.AliasesRewriteFree :=
  forall_mem_preorder_iff t

@[simp] theorem rewriteFree_apply (label : String) (args : List Term) :
    (apply label args).RewriteFree ↔ ∀ a ∈ args, a.RewriteFree := by
  simp [rewriteFree_iff (.apply _ _)]

@[simp] theorem rewriteFree_asPattern (pattern binder : Term) :
    (asPattern pattern binder).RewriteFree ↔ pattern.RewriteFree ∧ binder.RewriteFree := by
  simp [rewriteFree_iff (.asPattern _ _)]

@[simp] theorem not_rewriteFree_rewrite (lhs rhs : Term) : ¬ (rewrite lhs rhs).RewriteFree := by
  simp [rewriteFree_iff (.rewrite _ _)]

@[simp] theorem rewriteFree_sequence (items : List Term) :
    (sequence items).RewriteFree ↔ ∀ a ∈ items, a.RewriteFree := by
  simp [rewriteFree_iff (.sequence _)]

theorem RewritesFlat.child {t c : Term} (h : t.RewritesFlat) (hc : c ∈ t.children) :
    c.RewritesFlat :=
  ((rewritesFlat_iff t).1 h).2 c hc

theorem AliasesRewriteFree.child {t c : Term} (h : t.AliasesRewriteFree) (hc : c ∈ t.children) :
    c.AliasesRewriteFree :=
  ((aliasesRewriteFree_iff t).1 h).2 c hc

/-- The sides of a rewrite that is flat have no rewrites. -/
theorem RewritesFlat.sides {lhs rhs : Term} (h : (rewrite lhs rhs).RewritesFlat) :
    lhs.RewriteFree ∧ rhs.RewriteFree := by
  simpa using ((rewritesFlat_iff _).1 h).1

theorem AliasesRewriteFree.parts {pattern binder : Term}
    (h : (asPattern pattern binder).AliasesRewriteFree) :
    pattern.RewriteFree ∧ binder.RewriteFree := by
  simpa using ((aliasesRewriteFree_iff _).1 h).1

/-- A term without rewrites has none in a side of another one. -/
theorem RewriteFree.rewritesFlat {t : Term} (h : t.RewriteFree) : t.RewritesFlat := by
  intro s hs hrewrite
  simp [h s hs] at hrewrite

theorem RewriteFree.aliasesRewriteFree {t : Term} (h : t.RewriteFree) :
    t.AliasesRewriteFree := by
  induction t using children_induction with
  | step t ih =>
      have hparts := ((rewriteFree_iff t).1 h).2
      exact (aliasesRewriteFree_iff t).2 ⟨fun _ => hparts, fun c hc => ih c hc (hparts c hc)⟩

@[simp] theorem rewritesFlat_apply (label : String) (args : List Term) :
    (apply label args).RewritesFlat ↔ ∀ a ∈ args, a.RewritesFlat := by
  simp [rewritesFlat_iff (.apply _ _)]

@[simp] theorem rewritesFlat_asPattern (pattern binder : Term) :
    (asPattern pattern binder).RewritesFlat ↔ pattern.RewritesFlat ∧ binder.RewritesFlat := by
  simp [rewritesFlat_iff (.asPattern _ _)]

@[simp] theorem rewritesFlat_rewrite (lhs rhs : Term) :
    (rewrite lhs rhs).RewritesFlat ↔ lhs.RewriteFree ∧ rhs.RewriteFree := by
  refine ⟨RewritesFlat.sides, fun h => (rewritesFlat_iff _).2 ⟨?_, ?_⟩⟩
  · simpa using h
  · simpa using ⟨h.1.rewritesFlat, h.2.rewritesFlat⟩

@[simp] theorem rewritesFlat_sequence (items : List Term) :
    (sequence items).RewritesFlat ↔ ∀ a ∈ items, a.RewritesFlat := by
  simp [rewritesFlat_iff (.sequence _)]

theorem RewriteFree.filter_preorder {t : Term} (h : t.RewriteFree) :
    t.preorder.filter isRewrite = [] :=
  List.filter_eq_nil_iff.2 fun s hs => by simp [h s hs]

@[simp] theorem isRewrite_mapChildren (f : Term → Term) (t : Term) :
    (t.mapChildren f).isRewrite = t.isRewrite := by
  cases t <;> rfl

@[simp] theorem isAsPattern_mapChildren (f : Term → Term) (t : Term) :
    (t.mapChildren f).isAsPattern = t.isAsPattern := by
  cases t <;> rfl

theorem RewriteFree.removeCasts {t : Term} (h : t.RewriteFree) : t.removeCasts.RewriteFree := by
  intro u hu
  obtain ⟨s, hs, rfl⟩ := exists_of_mem_preorder_removeCasts hu
  rw [isRewrite_mapChildren, h s hs]

theorem RewritesFlat.removeCasts {t : Term} (h : t.RewritesFlat) : t.removeCasts.RewritesFlat := by
  intro u hu hrewrite side hside
  obtain ⟨s, hs, rfl⟩ := exists_of_mem_preorder_removeCasts hu
  rw [isRewrite_mapChildren] at hrewrite
  rw [children_mapChildren] at hside
  obtain ⟨c, hc, rfl⟩ := List.mem_map.1 hside
  exact (h s hs hrewrite c hc).removeCasts

theorem AliasesRewriteFree.removeCasts {t : Term} (h : t.AliasesRewriteFree) :
    t.removeCasts.AliasesRewriteFree := by
  intro u hu hpattern part hpart
  obtain ⟨s, hs, rfl⟩ := exists_of_mem_preorder_removeCasts hu
  rw [isAsPattern_mapChildren] at hpattern
  rw [children_mapChildren] at hpart
  obtain ⟨c, hc, rfl⟩ := List.mem_map.1 hpart
  exact (h s hs hpattern c hc).removeCasts

end KDispatch.Term
