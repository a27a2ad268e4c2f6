import KDispatch.Proofs.Rewrites.Nesting
import KDispatch.Proofs.Rewrites.Sinking

/-!
The two sides of a term through the passes that move its rewrites. Pushing rewrites down changes
neither side, removing casts commutes with taking a side, and a term whose rewrites are flat is pushed
down to what `pushRewrite` makes of its two sides.
-/

namespace KDispatch

/-- The one of two values that belongs to a side. -/
def Side.choose {α : Type} : Side → α → α → α
  | .left, l, _ => l
  | .right, _, r => r

namespace Term

@[simp] theorem projection_apply (side : Side) (label : String) (args : List Term) :
    (apply label args).projection side = .apply label (args.map (projection side)) := by
  simp [projection]

@[simp] theorem projection_asPattern (side : Side) (pattern binder : Term) :
    (asPattern pattern binder).projection side =
      .asPattern (pattern.projection side) (binder.projection side) := rfl

@[simp] theorem projection_rewrite (side : Side) (lhs rhs : Term) :
    (rewrite lhs rhs).projection side = (side.choose lhs rhs).projection side := by
  cases side <;> rfl

@[simp] theorem projection_sequence (side : Side) (items : List Term) :
    (sequence items).projection side = .sequence (items.map (projection side)) := by
  simp [projection]

theorem RewriteFree.projection {t : Term} (h : t.RewriteFree) (side : Side) :
    t.projection side = t := by
  induction t with
  | var | token => rfl
  | apply label args ih =>
      rw [rewriteFree_apply] at h
      rw [projection_apply, List.map_congr_left fun a ha => ih a ha (h a ha), List.map_id']
  | asPattern pattern binder ihp ihb =>
      rw [rewriteFree_asPattern] at h
      rw [projection_asPattern, ihp h.1, ihb h.2]
  | rewrite lhs rhs => exact absurd h (not_rewriteFree_rewrite lhs rhs)
  | sequence items ih =>
      rw [rewriteFree_sequence] at h
      rw [projection_sequence, List.map_congr_left fun a ha => ih a ha (h a ha), List.map_id']

/-- Rewrites between the parts of two terms have, on each side, the parts of that side. -/
theorem map_projection_zipWith (side : Side) {as bs : List Term}
    (h : List.Forall₂ (fun a b =>
      (pushRewrite a b).projection side = (side.choose a b).projection side) as bs) :
    (List.zipWith pushRewrite as bs).map (projection side) =
      (side.choose as bs).map (projection side) := by
  induction h with
  | nil => cases side <;> rfl
  | cons hab _ ih =>
      rw [List.zipWith_cons_cons, List.map_cons, hab, ih]
      cases side <;> rfl

theorem projection_pushRewrite (side : Side) (l r : Term) :
    (pushRewrite l r).projection side = (side.choose l r).projection side := by
  induction l, r using sinking_induction with
  | same t => cases side <;> rw [pushRewrite_self] <;> rfl
  | apply label as bs h =>
      rw [pushRewrite_apply label h.length_eq, projection_apply, map_projection_zipWith side h]
      cases side <;> rw [Side.choose, Side.choose, projection_apply]
  | sequence as bs h =>
      rw [pushRewrite_sequence h.length_eq, projection_sequence, map_projection_zipWith side h]
      cases side <;> rw [Side.choose, Side.choose, projection_sequence]
  | stays l r h => rw [pushRewrite_of_not_sinks h, projection_rewrite]

/-- Neither side of a term changes when its rewrites are pushed down. -/
theorem projection_pushDown (side : Side) (t : Term) :
    t.pushDown.projection side = t.projection side := by
  induction t with
  | var | token => rfl
  | apply label args ih =>
      rw [pushDown_apply, projection_apply, projection_apply, List.map_map]
      exact congrArg (apply label) (List.map_congr_left ih)
  | asPattern pattern binder ihp ihb =>
      rw [pushDown_asPattern, projection_asPattern, projection_asPattern, ihp, ihb]
  | rewrite lhs rhs => rw [pushDown_rewrite, projection_pushRewrite, projection_rewrite]
  | sequence items ih =>
      rw [pushDown_sequence, projection_sequence, projection_sequence, List.map_map]
      exact congrArg sequence (List.map_congr_left ih)

/-- Whatever rewrites a term holds, in sides of other rewrites and in patterns with an alias too,
pushing them down changes neither its left nor its right side. -/
theorem pushDown_keeps_both_sides (t : Term) :
    t.pushDown.projection .left = t.projection .left ∧
      t.pushDown.projection .right = t.projection .right :=
  ⟨projection_pushDown .left t, projection_pushDown .right t⟩

theorem projection_uncast_apply (side : Side) (label : String) (args : List Term) :
    (apply label args).uncast.projection side =
      (apply label (args.map (projection side))).uncast := by
  match args with
  | [arg] =>
      simp only [List.map_cons, List.map_nil, uncast]
      split <;> simp
  | [] | _ :: _ :: _ => simp [uncast]

/-- Casts may be removed before or after a side is taken. -/
theorem projection_removeCasts (side : Side) (t : Term) :
    t.removeCasts.projection side = (t.projection side).removeCasts := by
  induction t with
  | var | token => rfl
  | apply label args ih =>
      rw [removeCasts_apply, projection_apply, removeCasts_apply, projection_uncast_apply,
        List.map_map, List.map_map]
      exact congrArg (fun args => (apply label args).uncast) (List.map_congr_left ih)
  | asPattern pattern binder ihp ihb =>
      rw [removeCasts_asPattern, projection_asPattern, projection_asPattern,
        removeCasts_asPattern, ihp, ihb]
  | rewrite lhs rhs ihl ihr =>
      rw [removeCasts_rewrite, projection_rewrite, projection_rewrite]
      cases side
      · exact ihl
      · exact ihr
  | sequence items ih =>
      rw [removeCasts_sequence, projection_sequence, projection_sequence, removeCasts_sequence,
        List.map_map, List.map_map]
      exact congrArg sequence (List.map_congr_left ih)

/-- The rewrites between the two sides of the terms of one list. -/
theorem zipWith_pushRewrite_projections {ts : List Term}
    (h : ∀ t ∈ ts, pushRewrite (t.projection .left) (t.projection .right) = t.pushDown) :
    List.zipWith pushRewrite (ts.map (projection .left)) (ts.map (projection .right)) =
      ts.map pushDown := by
  rw [List.zipWith_map, List.zipWith_self]
  exact List.map_congr_left h

/-- A term with flat rewrites, none of them in an alias, is pushed down to what its two sides
determine, wherever in the term its rewrites stand. -/
theorem pushRewrite_projections {t : Term} (hflat : t.RewritesFlat)
    (halias : t.AliasesRewriteFree) :
    pushRewrite (t.projection .left) (t.projection .right) = t.pushDown := by
  induction t with
  | var | token => exact pushRewrite_self _
  | apply label args ih =>
      rw [projection_apply, projection_apply, pushRewrite_apply label (by simp),
        zipWith_pushRewrite_projections fun a ha => ih a ha (hflat.child ha) (halias.child ha),
        pushDown_apply]
  | asPattern pattern binder ihp ihb =>
      -- either side of the pattern is the pattern itself, which `pushRewrite` leaves alone
      obtain ⟨hp, hb⟩ := halias.parts
      have ihp := ihp hp.rewritesFlat hp.aliasesRewriteFree
      have ihb := ihb hb.rewritesFlat hb.aliasesRewriteFree
      simp only [hp.projection, hb.projection, pushRewrite_self] at ihp ihb
      simp only [projection_asPattern, hp.projection, hb.projection]
      rw [pushRewrite_self, pushDown_asPattern, ← ihp, ← ihb]
  | rewrite lhs rhs =>
      obtain ⟨hl, hr⟩ := hflat.sides
      rw [projection_rewrite, projection_rewrite, Side.choose, Side.choose, hl.projection,
        hr.projection, pushDown_rewrite]
  | sequence items ih =>
      rw [projection_sequence, projection_sequence, pushRewrite_sequence (by simp),
        zipWith_pushRewrite_projections fun a ha => ih a ha (hflat.child ha) (halias.child ha),
        pushDown_sequence]

end Term

end KDispatch
