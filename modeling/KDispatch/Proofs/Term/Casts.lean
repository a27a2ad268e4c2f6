import KDispatch.Proofs.Term.Subterms
import KDispatch.Term.Passes

/-!
Casts and terms without them. Removing casts leaves out nodes and no others, and it leaves no cast, so
that casts need not be removed twice.
-/

namespace KDispatch.Term

def isCast : Term → Bool
  | .apply label args => isCastLabel label && args.length == 1
  | _ => false

def CastFree (t : Term) : Prop := ∀ s ∈ t.preorder, s.isCast = false

theorem castFree_iff (t : Term) :
    t.CastFree ↔ t.isCast = false ∧ ∀ c ∈ t.children, c.CastFree :=
  forall_mem_preorder_iff t

/-- The signature that rules casts out. -/
def castFreeSignature : Signature := fun label count => !(isCastLabel label && count == 1)

theorem castFree_iff_over {t : Term} : t.CastFree ↔ t.Over castFreeSignature := by
  have hroot (s : Term) : s.isCast = false ↔ s.isOver castFreeSignature := by
    cases s with
    | apply label args => exact (Bool.not_eq_true' _).symm.to_iff
    | _ => exact iff_of_true rfl rfl
  exact forall₂_congr fun s _ => hroot s

/-- The casts in the term, from the root on, with all that stands in them. -/
def casts (t : Term) : List Term := t.preorder.filter isCast

theorem castFree_iff_casts_eq_nil {t : Term} : t.CastFree ↔ t.casts = [] := by
  simp [CastFree, casts]

theorem casts_of_not_isCast {t : Term} (h : t.isCast = false) :
    t.casts = t.children.flatMap casts := by
  rw [casts, preorder_eq, List.filter_cons_of_neg (by simp [h]), List.filter_flatMap]
  rfl

theorem removeCasts_eq (t : Term) : t.removeCasts = (t.mapChildren removeCasts).uncast :=
  bottomUp_eq uncast t

@[simp] theorem removeCasts_apply (label : String) (args : List Term) :
    (apply label args).removeCasts = (apply label (args.map removeCasts)).uncast :=
  removeCasts_eq _

@[simp] theorem removeCasts_asPattern (pattern binder : Term) :
    (asPattern pattern binder).removeCasts =
      .asPattern pattern.removeCasts binder.removeCasts := rfl

@[simp] theorem removeCasts_rewrite (lhs rhs : Term) :
    (rewrite lhs rhs).removeCasts = .rewrite lhs.removeCasts rhs.removeCasts := rfl

@[simp] theorem removeCasts_sequence (items : List Term) :
    (sequence items).removeCasts = .sequence (items.map removeCasts) :=
  removeCasts_eq _

/-- A cast becomes its only child, and every other term stays. -/
theorem uncast_cases (t : Term) :
    (t.isCast = false ∧ t.uncast = t) ∨ (t.isCast ∧ t.children = [t.uncast]) := by
  unfold uncast
  split
  case h_1 label arg => cases h : isCastLabel label <;> simp [isCast, h]
  case h_2 hne =>
      refine .inl ⟨?_, rfl⟩
      cases t with
      | apply label args =>
          have hlength : args.length ≠ 1 := fun h => by
            obtain ⟨arg, rfl⟩ := List.length_eq_one_iff.1 h
            exact hne label arg rfl
          simp [isCast, hlength]
      | _ => rfl

theorem varNames_uncast (t : Term) : t.uncast.varNames = t.varNames := by
  rcases uncast_cases t with ⟨-, hself⟩ | ⟨hcast, hchild⟩
  · rw [hself]
  · have hname : t.varName? = none := by
      cases t with
      | var => simp [isCast] at hcast
      | _ => rfl
    rw [varNames_eq t, hname, hchild]
    simp

/-- No variable stands in the label of a cast. -/
@[simp] theorem varNames_removeCasts (t : Term) : t.removeCasts.varNames = t.varNames := by
  induction t using children_induction with
  | step t ih =>
      rw [removeCasts_eq, varNames_uncast, varNames_eq, varNames_eq t, varName?_mapChildren,
        children_mapChildren, List.flatMap_map]
      exact congrArg _ (List.flatMap_congr ih)

theorem castFree_removeCasts (t : Term) : t.removeCasts.CastFree := by
  induction t using children_induction with
  | step t ih =>
      rw [removeCasts_eq]
      rcases uncast_cases (t.mapChildren removeCasts) with ⟨hcast, hself⟩ | ⟨-, hchild⟩
      · rw [hself, castFree_iff, children_mapChildren]
        exact ⟨hcast, List.forall_mem_map.2 ih⟩
      · rw [children_mapChildren] at hchild
        obtain ⟨c, hc, heq⟩ := List.mem_map.1 (hchild ▸ List.mem_singleton_self _)
        exact heq ▸ ih c hc

/-- Where there are no casts, removing them does nothing. -/
theorem CastFree.removeCasts {t : Term} (h : t.CastFree) : t.removeCasts = t := by
  induction t using children_induction with
  | step t ih =>
      obtain ⟨hcast, hchildren⟩ := (castFree_iff t).1 h
      rw [removeCasts_eq, mapChildren_eq_self fun c hc => ih c hc (hchildren c hc)]
      rcases uncast_cases t with ⟨-, hself⟩ | ⟨hcast', -⟩
      · exact hself
      · exact absurd (hcast ▸ hcast') Bool.false_ne_true

/-- Removing casts leaves out nodes, and every node that stays is rebuilt from its children. -/
theorem exists_of_mem_preorder_removeCasts {t u : Term} (hu : u ∈ t.removeCasts.preorder) :
    ∃ s ∈ t.preorder, u = s.mapChildren removeCasts := by
  induction t using children_induction generalizing u with
  | step t ih =>
      have below {c : Term} (hc : c ∈ t.children) (hu : u ∈ c.removeCasts.preorder) :
          ∃ s ∈ t.preorder, u = s.mapChildren removeCasts := by
        obtain ⟨s, hs, rfl⟩ := ih c hc hu
        rw [preorder_eq]
        exact ⟨s, List.mem_cons_of_mem _ (List.mem_flatMap_of_mem hc hs), rfl⟩
      rw [removeCasts_eq] at hu
      rcases uncast_cases (t.mapChildren removeCasts) with ⟨-, hself⟩ | ⟨-, hchild⟩
      · rw [hself, preorder_eq, children_mapChildren, List.mem_cons] at hu
        rcases hu with rfl | hu
        · exact ⟨t, mem_preorder_self t, rfl⟩
        · obtain ⟨d, hd, hu⟩ := List.mem_flatMap.1 hu
          obtain ⟨c, hc, rfl⟩ := List.mem_map.1 hd
          exact below hc hu
      · rw [children_mapChildren] at hchild
        obtain ⟨c, hc, heq⟩ := List.mem_map.1 (hchild ▸ List.mem_singleton_self _)
        exact below hc (heq ▸ hu)

theorem Over.removeCasts {signature : Signature} {t : Term} (h : t.Over signature) :
    t.removeCasts.Over signature := by
  intro u hu
  obtain ⟨s, hs, rfl⟩ := exists_of_mem_preorder_removeCasts hu
  rw [isOver_mapChildren]
  exact h s hs

end KDispatch.Term
