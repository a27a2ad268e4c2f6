import KDispatch.Proofs.Rewrites.Projection
import Mathlib.Algebra.Order.BigOperators.Group.List
import Mathlib.Algebra.Order.Group.Nat

/-!
The changes of a term: its rewrites that stand in no side of another rewrite. They decide whether the
two sides of the term differ and whether its rewrites can sink any further. Where all rewrites are changes,
pushing down once brings them into normal form.
-/

namespace KDispatch

/-- A rewrite, and whether no cell stands above it. -/
structure Change where
  outermost : Bool
  lhs : Term
  rhs : Term

namespace Change

/-- The change with both sides replaced, by a function that may ask for a cell above. -/
def map (f : Bool → Term → Term) (c : Change) : Change :=
  ⟨c.outermost, f c.outermost c.lhs, f c.outermost c.rhs⟩

/-- The number of nodes in both sides. -/
def size (c : Change) : Nat := c.lhs.size + c.rhs.size

end Change

namespace Term

mutual

/-- The rewrites in no side of another rewrite, from left to right. -/
def changes (outermost : Bool) : Term → List Change
  | .var _ => []
  | .token _ _ => []
  | .apply label args => changesAll (outermost && !isCellLabel label) args
  | .asPattern pattern binder => changes outermost pattern ++ changes outermost binder
  | .rewrite lhs rhs => [⟨outermost, lhs, rhs⟩]
  | .sequence items => changesAll outermost items

def changesAll (outermost : Bool) : List Term → List Change
  | [] => []
  | t :: ts => changes outermost t ++ changesAll outermost ts

end

@[simp] theorem changesAll_eq_flatMap (outermost : Bool) (ts : List Term) :
    changesAll outermost ts = ts.flatMap (changes outermost) := by
  induction ts with
  | nil => rfl
  | cons t ts ih => simp [changesAll, ih]

@[simp] theorem changes_var (outermost : Bool) (name : String) :
    (var name).changes outermost = [] := rfl

@[simp] theorem changes_token (outermost : Bool) (text sort : String) :
    (token text sort).changes outermost = [] := rfl

@[simp] theorem changes_apply (outermost : Bool) (label : String) (args : List Term) :
    (apply label args).changes outermost =
      args.flatMap (changes (outermost && !isCellLabel label)) := by
  rw [← changesAll_eq_flatMap]
  rfl

@[simp] theorem changes_asPattern (outermost : Bool) (pattern binder : Term) :
    (asPattern pattern binder).changes outermost =
      pattern.changes outermost ++ binder.changes outermost := rfl

@[simp] theorem changes_rewrite (outermost : Bool) (lhs rhs : Term) :
    (rewrite lhs rhs).changes outermost = [⟨outermost, lhs, rhs⟩] := rfl

@[simp] theorem changes_sequence (outermost : Bool) (items : List Term) :
    (sequence items).changes outermost = items.flatMap (changes outermost) := by
  rw [← changesAll_eq_flatMap]
  rfl

/-- The sides of a term are equal exactly if those of each of its changes are. -/
theorem projection_eq_iff (outermost : Bool) (t : Term) :
    t.projection .left = t.projection .right ↔
      ∀ c ∈ t.changes outermost, c.lhs.projection .left = c.rhs.projection .right := by
  induction t generalizing outermost with
  | var | token => simp [projection]
  | apply label args ih =>
      simp only [projection_apply, apply.injEq, true_and, changes_apply, List.map_inj_left,
        List.forall_mem_flatMap]
      exact forall₂_congr fun a ha => ih a ha _
  | asPattern pattern binder ihp ihb =>
      simp only [projection_asPattern, asPattern.injEq, changes_asPattern, List.forall_mem_append]
      exact and_congr (ihp _) (ihb _)
  | rewrite lhs rhs => simp [Side.choose]
  | sequence items ih =>
      simp only [projection_sequence, sequence.injEq, changes_sequence, List.map_inj_left,
        List.forall_mem_flatMap]
      exact forall₂_congr fun a ha => ih a ha _

/-- Nothing is pushed down exactly if no change sinks. -/
theorem pushDown_eq_self_iff (outermost : Bool) (t : Term) :
    t.pushDown = t ↔ ∀ c ∈ t.changes outermost, ¬ Sinks c.lhs c.rhs := by
  induction t generalizing outermost with
  | var | token => simp [pushDown]
  | apply label args ih =>
      simp only [pushDown_apply, apply.injEq, true_and, changes_apply, map_eq_self_iff,
        List.forall_mem_flatMap]
      exact forall₂_congr fun a ha => ih a ha _
  | asPattern pattern binder ihp ihb =>
      simp only [pushDown_asPattern, asPattern.injEq, changes_asPattern, List.forall_mem_append]
      exact and_congr (ihp _) (ihb _)
  | rewrite lhs rhs =>
      rw [pushDown_rewrite, changes_rewrite, List.forall_mem_singleton,
        pushRewrite_eq_rewrite_iff]
  | sequence items ih =>
      simp only [pushDown_sequence, sequence.injEq, changes_sequence, map_eq_self_iff,
        List.forall_mem_flatMap]
      exact forall₂_congr fun a ha => ih a ha _

/-- The changes after pushing down are those that each change is pushed down to. -/
theorem changes_pushDown (outermost : Bool) (t : Term) :
    t.pushDown.changes outermost =
      (t.changes outermost).flatMap fun c => (pushRewrite c.lhs c.rhs).changes c.outermost := by
  induction t generalizing outermost with
  | var | token => rfl
  | apply label args ih =>
      rw [pushDown_apply, changes_apply, changes_apply, List.flatMap_map, List.flatMap_assoc]
      exact List.flatMap_congr fun a ha => ih a ha _
  | asPattern pattern binder ihp ihb => simp [ihp, ihb]
  | rewrite lhs rhs => simp
  | sequence items ih =>
      rw [pushDown_sequence, changes_sequence, changes_sequence, List.flatMap_map,
        List.flatMap_assoc]
      exact List.flatMap_congr fun a ha => ih a ha _

theorem RewriteFree.changes {t : Term} (h : t.RewriteFree) (outermost : Bool) :
    t.changes outermost = [] := by
  induction t generalizing outermost with
  | var | token => rfl
  | apply label args ih =>
      rw [rewriteFree_apply] at h
      rw [changes_apply]
      exact List.flatMap_eq_nil_iff.2 fun a ha => ih a ha (h a ha) _
  | asPattern pattern binder ihp ihb =>
      rw [rewriteFree_asPattern] at h
      rw [changes_asPattern, ihp h.1, ihb h.2, List.append_nil]
  | rewrite lhs rhs => exact absurd h (not_rewriteFree_rewrite lhs rhs)
  | sequence items ih =>
      rw [rewriteFree_sequence] at h
      rw [changes_sequence]
      exact List.flatMap_eq_nil_iff.2 fun a ha => ih a ha (h a ha) _

/-- Between sides without rewrites only rewrites are left that sink no further. -/
theorem not_sinks_of_mem_changes_pushRewrite {l r : Term} (hl : l.RewriteFree)
    (hr : r.RewriteFree) (outermost : Bool) :
    ∀ c ∈ (pushRewrite l r).changes outermost, ¬ Sinks c.lhs c.rhs := by
  induction l, r using sinking_induction generalizing outermost with
  | same t =>
      rw [pushRewrite_self, hl.changes]
      exact fun c hc => absurd hc List.not_mem_nil
  | apply label as bs h =>
      rw [rewriteFree_apply] at hl hr
      rw [pushRewrite_apply label h.length_eq, changes_apply, List.forall_mem_flatMap]
      exact forall_mem_zipWith_pushRewrite
        (h.imp fun a b hab ha hb => hab ha hb (outermost && !isCellLabel label)) hl hr
  | sequence as bs h =>
      rw [rewriteFree_sequence] at hl hr
      rw [pushRewrite_sequence h.length_eq, changes_sequence, List.forall_mem_flatMap]
      exact forall_mem_zipWith_pushRewrite (h.imp fun a b hab ha hb => hab ha hb outermost) hl hr
  | stays l r h =>
      rw [pushRewrite_of_not_sinks h, changes_rewrite, List.forall_mem_singleton]
      exact h

theorem rewriteFree_of_mem_changes {t : Term} (h : t.RewritesFlat) {outermost : Bool} :
    ∀ c ∈ t.changes outermost, c.lhs.RewriteFree ∧ c.rhs.RewriteFree := by
  induction t generalizing outermost with
  | var | token => exact fun c hc => absurd hc List.not_mem_nil
  | apply label args ih =>
      rw [changes_apply, List.forall_mem_flatMap]
      exact fun a ha => ih a ha (h.child ha)
  | asPattern pattern binder ihp ihb =>
      rw [changes_asPattern, List.forall_mem_append]
      exact ⟨ihp (h.child (by simp)), ihb (h.child (by simp))⟩
  | rewrite lhs rhs =>
      rw [changes_rewrite, List.forall_mem_singleton]
      exact h.sides
  | sequence items ih =>
      rw [changes_sequence, List.forall_mem_flatMap]
      exact fun a ha => ih a ha (h.child ha)

/-- What is pushed down from flat rewrites sinks no further. -/
theorem not_sinks_of_mem_changes_pushDown {t : Term} (h : t.RewritesFlat) (outermost : Bool) :
    ∀ c ∈ t.pushDown.changes outermost, ¬ Sinks c.lhs c.rhs := by
  rw [changes_pushDown, List.forall_mem_flatMap]
  intro c hc
  obtain ⟨hl, hr⟩ := rewriteFree_of_mem_changes h c hc
  exact not_sinks_of_mem_changes_pushRewrite hl hr c.outermost

section NormalForm

/-- A rewrite from the first term to the second stands as low as it can. -/
structure Irreducible (l r : Term) : Prop where
  ne : l ≠ r
  /-- The sides are not applications of one label to equally many arguments. -/
  apply : ∀ label as bs, l = .apply label as → r = .apply label bs → as.length ≠ bs.length
  /-- The sides are not sequences of one length other than zero. -/
  sequence : ∀ as bs, l = .sequence as → r = .sequence bs → as ≠ [] → as.length ≠ bs.length

theorem irreducible_iff {l r : Term} : Irreducible l r ↔ ¬ Sinks l r := by
  constructor
  · intro h hsinks
    cases hsinks with
    | same => exact h.ne rfl
    | apply label hlength => exact h.apply label _ _ rfl rfl hlength
    | @sequence as bs hlength =>
        by_cases has : as = []
        · -- two empty sequences are equal
          obtain rfl : bs = [] := List.eq_nil_of_length_eq_zero (by simpa [has] using hlength.symm)
          exact h.ne (congrArg Term.sequence has)
        · exact h.sequence as bs rfl rfl has hlength
  · intro h
    refine ⟨?_, ?_, ?_⟩
    · rintro rfl
      exact h (.same l)
    · rintro label as bs rfl rfl hlength
      exact h (.apply label hlength)
    · rintro as bs rfl rfl - hlength
      exact h (.sequence hlength)

/-- Between sides without rewrites none comes to stand in a side of another one. -/
theorem RewriteFree.rewritesFlat_pushRewrite {l r : Term} (hl : l.RewriteFree)
    (hr : r.RewriteFree) : (pushRewrite l r).RewritesFlat := by
  induction l, r using sinking_induction with
  | same t =>
      rw [pushRewrite_self]
      exact hl.rewritesFlat
  | apply label as bs h =>
      rw [rewriteFree_apply] at hl hr
      rw [pushRewrite_apply label h.length_eq, rewritesFlat_apply]
      exact forall_mem_zipWith_pushRewrite h hl hr
  | sequence as bs h =>
      rw [rewriteFree_sequence] at hl hr
      rw [pushRewrite_sequence h.length_eq, rewritesFlat_sequence]
      exact forall_mem_zipWith_pushRewrite h hl hr
  | stays l r h =>
      rw [pushRewrite_of_not_sinks h, rewritesFlat_rewrite]
      exact ⟨hl, hr⟩

theorem RewritesFlat.pushDown {t : Term} (h : t.RewritesFlat) : t.pushDown.RewritesFlat := by
  induction t with
  | var | token => exact h
  | apply label args ih =>
      rw [rewritesFlat_apply] at h
      rw [pushDown_apply, rewritesFlat_apply]
      exact List.forall_mem_map.2 fun a ha => ih a ha (h a ha)
  | asPattern pattern binder ihp ihb =>
      rw [rewritesFlat_asPattern] at h
      exact (rewritesFlat_asPattern _ _).2 ⟨ihp h.1, ihb h.2⟩
  | rewrite lhs rhs => exact h.sides.1.rewritesFlat_pushRewrite h.sides.2
  | sequence items ih =>
      rw [rewritesFlat_sequence] at h
      rw [pushDown_sequence, rewritesFlat_sequence]
      exact List.forall_mem_map.2 fun a ha => ih a ha (h a ha)

/-- If rewrites are flat, the changes of a term are all its rewrites, in their order. -/
theorem RewritesFlat.filter_preorder {t : Term} (h : t.RewritesFlat) (outermost : Bool) :
    t.preorder.filter isRewrite = (t.changes outermost).map fun c => .rewrite c.lhs c.rhs := by
  induction t generalizing outermost with
  | var | token => rfl
  | apply label args ih =>
      rw [preorder_eq, List.filter_cons_of_neg (by simp), children_apply,
        List.filter_flatMap, changes_apply, List.map_flatMap]
      exact List.flatMap_congr fun a ha => ih a ha (h.child ha) _
  | asPattern pattern binder ihp ihb =>
      rw [rewritesFlat_asPattern] at h
      rw [changes_asPattern, List.map_append, ← ihp h.1, ← ihb h.2, preorder_eq]
      simp
  | rewrite lhs rhs =>
      rw [preorder_eq, List.filter_cons_of_pos (by rfl)]
      simp [h.sides.1.filter_preorder, h.sides.2.filter_preorder]
  | sequence items ih =>
      rw [preorder_eq, List.filter_cons_of_neg (by simp), children_sequence,
        List.filter_flatMap, changes_sequence, List.map_flatMap]
      exact List.flatMap_congr fun a ha => ih a ha (h.child ha) _

/-- Pushing down a term with flat rewrites keeps both its sides and leaves flat rewrites, each as low as
it can stand, so that pushing down again changes nothing. -/
theorem pushDown_reaches_normalForm {t : Term} (h : t.RewritesFlat) :
    (∀ l r, rewrite l r ∈ t.pushDown.preorder → Irreducible l r) ∧
      t.pushDown.RewritesFlat ∧ t.pushDown.pushDown = t.pushDown ∧
        ∀ side, t.pushDown.projection side = t.projection side := by
  have hstays := not_sinks_of_mem_changes_pushDown h true
  refine ⟨fun l r hmem => ?_, h.pushDown, (pushDown_eq_self_iff true _).2 hstays,
    fun side => projection_pushDown side t⟩
  have hrewrite : rewrite l r ∈ t.pushDown.preorder.filter isRewrite :=
    List.mem_filter.2 ⟨hmem, rfl⟩
  rw [h.pushDown.filter_preorder true] at hrewrite
  obtain ⟨c, hc, heq⟩ := List.mem_map.1 hrewrite
  obtain ⟨rfl, rfl⟩ := rewrite.inj heq
  exact irreducible_iff.2 (hstays c hc)

/-- A computation that changes in its first item beside a cell whose contents become fewer. -/
def sinkingSample : Term :=
  .apply "<top>"
    [.rewrite (.apply "<k>" [.sequence [.var "A", .var "REST"]])
        (.apply "<k>" [.sequence [.var "B", .var "REST"]]),
      .rewrite (.apply "<env>" [.var "X", .var "Y"]) (.apply "<env>" [.var "X"])]

theorem pushDown_reaches_normalForm_sample :
    sinkingSample.RewritesFlat ∧ Irreducible (.var "A") (.var "B") ∧
      Irreducible (.apply "<env>" [.var "X", .var "Y"]) (.apply "<env>" [.var "X"]) ∧
        sinkingSample.pushDown.RewritesFlat ∧
          sinkingSample.pushDown.pushDown = sinkingSample.pushDown := by
  have hflat : sinkingSample.RewritesFlat := by decide
  obtain ⟨hirreducible, hpushed, hagain, -⟩ := pushDown_reaches_normalForm hflat
  exact ⟨hflat, hirreducible _ _ (by decide), hirreducible _ _ (by decide), hpushed, hagain⟩

end NormalForm

section Size

/-- The number of nodes in both sides of all changes. -/
def changesSize (outermost : Bool) (t : Term) : Nat := ((t.changes outermost).map Change.size).sum

theorem sum_size_flatMap_changes (outermost : Bool) (ts : List Term) :
    ((ts.flatMap (changes outermost)).map Change.size).sum =
      (ts.map (changesSize outermost)).sum := by
  induction ts with
  | nil => rfl
  | cons t ts ih => simp [changesSize, ih]

theorem changesSize_le_size (outermost : Bool) (t : Term) :
    t.changesSize outermost ≤ t.size := by
  induction t generalizing outermost with
  | var | token => exact Nat.zero_le _
  | apply label args ih =>
      rw [changesSize, changes_apply, sum_size_flatMap_changes, size_eq]
      exact (List.sum_le_sum fun a ha => ih a ha _).trans (Nat.le_succ _)
  | asPattern pattern binder ihp ihb =>
      have hp := ihp outermost
      have hb := ihb outermost
      simp only [changesSize, changes_asPattern, List.map_append, List.sum_append, size_eq,
        children_asPattern, List.map_cons, List.map_nil, List.sum_cons, List.sum_nil] at hp hb ⊢
      omega
  | rewrite lhs rhs =>
      simp [changesSize, Change.size, size_eq (.rewrite lhs rhs)]
  | sequence items ih =>
      rw [changesSize, changes_sequence, sum_size_flatMap_changes, size_eq]
      exact (List.sum_le_sum fun a ha => ih a ha _).trans (Nat.le_succ _)

theorem sum_changesSize_zipWith {outermost : Bool} {as bs : List Term}
    (h : List.Forall₂
      (fun a b => (pushRewrite a b).changesSize outermost ≤ a.size + b.size) as bs) :
    ((List.zipWith pushRewrite as bs).map (changesSize outermost)).sum ≤
      (as.map size).sum + (bs.map size).sum := by
  induction h with
  | nil => exact Nat.zero_le _
  | cons hab _ ih =>
      simp only [List.zipWith_cons_cons, List.map_cons, List.sum_cons]
      omega

/-- A rewrite that sinks loses at least the nodes at the roots of its sides. -/
theorem changesSize_pushRewrite (outermost : Bool) (l r : Term) :
    (pushRewrite l r).changesSize outermost ≤ l.size + r.size ∧
      (Sinks l r → (pushRewrite l r).changesSize outermost < l.size + r.size) := by
  induction l, r using sinking_induction generalizing outermost with
  | same t =>
      have hlt : (pushRewrite t t).changesSize outermost < t.size + t.size := by
        -- of the two copies of the term one is left
        rw [pushRewrite_self]
        have hle := changesSize_le_size outermost t
        have hpos := size_pos t
        omega
      exact ⟨hlt.le, fun _ => hlt⟩
  | apply label as bs h =>
      have hlt : (pushRewrite (.apply label as) (.apply label bs)).changesSize outermost <
          (apply label as).size + (apply label bs).size := by
        rw [pushRewrite_apply label h.length_eq, changesSize, changes_apply,
          sum_size_flatMap_changes, size_eq, size_eq]
        have hparts := sum_changesSize_zipWith
          (h.imp fun a b hab => (hab (outermost && !isCellLabel label)).1)
        simp only [children_apply]
        omega
      exact ⟨hlt.le, fun _ => hlt⟩
  | sequence as bs h =>
      have hlt : (pushRewrite (.sequence as) (.sequence bs)).changesSize outermost <
          (sequence as).size + (sequence bs).size := by
        rw [pushRewrite_sequence h.length_eq, changesSize, changes_sequence,
          sum_size_flatMap_changes, size_eq, size_eq]
        have hparts := sum_changesSize_zipWith (h.imp fun a b hab => (hab outermost).1)
        simp only [children_sequence]
        omega
      exact ⟨hlt.le, fun _ => hlt⟩
  | stays l r h =>
      refine ⟨?_, fun hsinks => absurd hsinks h⟩
      simp [pushRewrite_of_not_sinks h, changesSize, Change.size]

theorem changesSize_pushDown (outermost : Bool) (t : Term) :
    t.pushDown.changesSize outermost =
      ((t.changes outermost).map fun c =>
        (pushRewrite c.lhs c.rhs).changesSize c.outermost).sum := by
  rw [changesSize, changes_pushDown]
  induction t.changes outermost with
  | nil => rfl
  | cons c cs ih => simp [changesSize, ih]

/-- If the changes lose no node by being pushed down, none of them sinks. -/
theorem pushDown_eq_self_of_changesSize_le (outermost : Bool) {t : Term}
    (h : t.changesSize outermost ≤ t.pushDown.changesSize outermost) : t.pushDown = t := by
  rw [pushDown_eq_self_iff outermost]
  intro c hc hsinks
  rw [changesSize_pushDown] at h
  -- the one change that sinks makes the sum smaller, for none of the others makes it larger
  have hlt : ((t.changes outermost).map fun d =>
      (pushRewrite d.lhs d.rhs).changesSize d.outermost).sum < t.changesSize outermost := by
    refine List.sum_lt_sum _ _ (fun d _ => ?_) ⟨c, hc, ?_⟩
    · exact (changesSize_pushRewrite d.outermost d.lhs d.rhs).1
    · exact (changesSize_pushRewrite c.outermost c.lhs c.rhs).2 hsinks
  omega

end Size

end Term

end KDispatch
