import KDispatch.Proofs.Dots.Elision

/-!
Collapsing dots. `collapseDots` drops dots and cells that hold nothing else: no variable and no change
gets lost, the term does not grow, and a second run finds nothing to do. Whatever is read off the nodes of
a term, dots aside, is read off the collapsed nodes of the collapsed term.
-/

namespace KDispatch

/-- A subterm where it stands, and whether no cell stands above it. -/
structure Spot where
  outermost : Bool
  term : Term
  deriving DecidableEq

namespace Spot

/-- What collapsing dots makes of the term where it stands. -/
def collapse (s : Spot) : Spot := ⟨s.outermost, s.term.collapseDots s.outermost⟩

def isDots (s : Spot) : Bool := s.term.isDots

end Spot

namespace Term

@[simp] theorem collapseDots_var (outermost : Bool) (name : String) :
    (var name).collapseDots outermost = .var name := rfl

@[simp] theorem collapseDots_token (outermost : Bool) (text sort : String) :
    (token text sort).collapseDots outermost = .token text sort := rfl

@[simp] theorem collapseDots_apply (outermost : Bool) (label : String) (args : List Term) :
    (apply label args).collapseDots outermost =
      if isCellLabel label then
        foldCell outermost label (mergeDots false (args.map (collapseDots false)))
      else .apply label (args.map (collapseDots outermost)) := by
  rw [← collapseDotsAll_eq_map, ← collapseDotsAll_eq_map]
  rfl

@[simp] theorem collapseDots_asPattern (outermost : Bool) (pattern binder : Term) :
    (asPattern pattern binder).collapseDots outermost =
      .asPattern (pattern.collapseDots outermost) (binder.collapseDots outermost) := rfl

@[simp] theorem collapseDots_rewrite (outermost : Bool) (lhs rhs : Term) :
    (rewrite lhs rhs).collapseDots outermost =
      .rewrite (lhs.collapseDots outermost) (rhs.collapseDots outermost) := rfl

@[simp] theorem collapseDots_sequence (outermost : Bool) (items : List Term) :
    (sequence items).collapseDots outermost =
      .sequence (items.map (collapseDots outermost)) := by
  rw [← collapseDotsAll_eq_map]
  rfl

section Lists

variable {afterDots : Bool} {ts : List Term}

theorem mem_of_mem_mergeDots {t : Term} (h : t ∈ mergeDots afterDots ts) : t ∈ ts := by
  induction ts generalizing afterDots with
  | nil => exact h
  | cons u us ih =>
      rw [mergeDots_cons] at h
      split at h
      · exact List.mem_cons_of_mem _ (ih h)
      · rcases List.mem_cons.1 h with rfl | h
        · exact List.mem_cons_self
        · exact List.mem_cons_of_mem _ (ih h)

/-- Merging dots loses nothing that is not read off dots. -/
theorem flatMap_mergeDots (afterDots : Bool) (ts : List Term) {β : Type} {g : Term → List β}
    (hg : ∀ t, t.isDots → g t = []) : (mergeDots afterDots ts).flatMap g = ts.flatMap g := by
  induction ts generalizing afterDots with
  | nil => rfl
  | cons t ts ih =>
      rw [mergeDots_cons]
      split
      case isTrue h =>
          rw [ih, List.flatMap_cons, hg t (by simp_all), List.nil_append]
      case isFalse => rw [List.flatMap_cons, List.flatMap_cons, ih]

theorem mergeDots_mergeDots :
    mergeDots afterDots (mergeDots afterDots ts) = mergeDots afterDots ts := by
  induction ts generalizing afterDots with
  | nil => rfl
  | cons t ts ih =>
      by_cases h : afterDots && t.isDots
      · obtain ⟨rfl, -⟩ : afterDots = true ∧ t.isDots = true := by simpa using h
        rw [mergeDots_cons, if_pos h, ih]
      · rw [mergeDots_cons, if_neg h, mergeDots_cons, if_neg h, ih]

theorem sum_size_mergeDots_le (afterDots : Bool) (ts : List Term) :
    ((mergeDots afterDots ts).map size).sum ≤ (ts.map size).sum := by
  induction ts generalizing afterDots with
  | nil => exact Nat.le_refl _
  | cons t ts ih =>
      rw [mergeDots_cons]
      split
      · exact (ih _).trans (Nat.le_add_left _ _)
      · exact Nat.add_le_add_left (ih _) _

end Lists

/-- A cell either stays or becomes dots, and then it held some dots and nothing else. -/
theorem foldCell_eq (outermost : Bool) (label : String) (args : List Term) :
    foldCell outermost label args = .apply label args ∨
      foldCell outermost label args = dots ∧ ∀ a ∈ args, a.isDots := by
  unfold foldCell
  split
  case isTrue h => exact .inr ⟨rfl, by simp_all⟩
  case isFalse => exact .inl rfl

theorem flatMap_eq_nil_of_isDots {β : Type} {g : Term → List β} (hg : ∀ t, t.isDots → g t = [])
    {ts : List Term} (h : ∀ t ∈ ts, t.isDots) : ts.flatMap g = [] :=
  List.flatMap_eq_nil_iff.2 fun t ht => hg t (h t ht)

section Cells

variable {outermost : Bool}

theorem exists_of_isCell {t : Term} (h : t.isCell) :
    ∃ label args, t = .apply label args ∧ isCellLabel label := by
  cases t with
  | apply label args => exact ⟨label, args, rfl, h⟩
  | _ => cases h

theorem isDots_of_isCell {t : Term} (h : t.isCell) : t.isDots = false := by
  cases t <;> simp_all [isCell, isDots]

@[simp] theorem isCell_mapChildren (f : Term → Term) (t : Term) :
    (t.mapChildren f).isCell = t.isCell := by
  cases t <;> rfl

@[simp] theorem isDots_mapChildren (f : Term → Term) (t : Term) :
    (t.mapChildren f).isDots = t.isDots := by
  cases t <;> rfl

theorem collapseDots_of_not_isCell {t : Term} (h : t.isCell = false) :
    t.collapseDots outermost = t.mapChildren (collapseDots outermost) := by
  cases t <;> simp_all [isCell, mapChildren]

theorem isCell_collapseDots_of_not_isCell {t : Term} (h : t.isCell = false) :
    (t.collapseDots outermost).isCell = false := by
  rw [collapseDots_of_not_isCell h, isCell_mapChildren, h]

/-- A cell becomes dots or stays a cell of its label. -/
theorem collapseDots_of_isCell (outermost : Bool) {t : Term} (h : t.isCell) :
    t.collapseDots outermost = dots ∨
      ∃ label args args', t = .apply label args ∧ isCellLabel label ∧
        t.collapseDots outermost = .apply label args' := by
  obtain ⟨label, args, rfl, hlabel⟩ := exists_of_isCell h
  rw [collapseDots_apply, if_pos hlabel]
  rcases foldCell_eq outermost label (mergeDots false (args.map (collapseDots false)))
    with heq | ⟨heq, -⟩
  · exact .inr ⟨label, args, _, rfl, hlabel, heq⟩
  · exact .inl heq

end Cells

section Spots

mutual

/-- The term and its subterms where they stand, each before those below it. -/
def spots (outermost : Bool) : Term → List Spot
  | .var name => [⟨outermost, .var name⟩]
  | .token text sort => [⟨outermost, .token text sort⟩]
  | .apply label args =>
    ⟨outermost, .apply label args⟩ :: spotsAll (outermost && !isCellLabel label) args
  | .asPattern pattern binder =>
    ⟨outermost, .asPattern pattern binder⟩ :: (spots outermost pattern ++ spots outermost binder)
  | .rewrite lhs rhs => ⟨outermost, .rewrite lhs rhs⟩ :: (spots outermost lhs ++ spots outermost rhs)
  | .sequence items => ⟨outermost, .sequence items⟩ :: spotsAll outermost items

def spotsAll (outermost : Bool) : List Term → List Spot
  | [] => []
  | t :: ts => spots outermost t ++ spotsAll outermost ts

end

@[simp] theorem spotsAll_eq_flatMap (outermost : Bool) (ts : List Term) :
    spotsAll outermost ts = ts.flatMap (spots outermost) := by
  induction ts with
  | nil => rfl
  | cons t ts ih => simp [spotsAll, ih]

theorem spots_eq (outermost : Bool) (t : Term) :
    t.spots outermost = ⟨outermost, t⟩ :: t.children.flatMap (spots (outermost && !t.isCell)) := by
  cases t <;> simp [spots, isCell]

theorem map_term_spots (outermost : Bool) (t : Term) :
    (t.spots outermost).map Spot.term = t.preorder := by
  induction t using children_induction generalizing outermost with
  | step t ih =>
      rw [spots_eq, preorder_eq, List.map_cons, List.map_flatMap]
      exact congrArg _ (List.flatMap_congr fun c hc => ih c hc _)

variable {β : Type} {g : Spot → List β}

theorem flatMap_spots (outermost : Bool) (t : Term) :
    (t.spots outermost).flatMap g =
      g ⟨outermost, t⟩ ++
        t.children.flatMap fun c => (c.spots (outermost && !t.isCell)).flatMap g := by
  rw [spots_eq, List.flatMap_cons, List.flatMap_assoc]

theorem flatMap_spots_of_isDots (hg : ∀ s, s.isDots → g s = []) {outermost : Bool} {t : Term}
    (h : t.isDots) : (t.spots outermost).flatMap g = [] := by
  cases t with
  | token text sort => simp [spots_eq, hg ⟨outermost, .token text sort⟩ h]
  | _ => cases h

/-- What is read off a cell whose arguments are merged, dots aside, is read off the cell, which may have
become dots itself, and off its arguments before they were merged. -/
theorem flatMap_spots_foldCell (hg : ∀ s, s.isDots → g s = []) {outermost : Bool} {label : String}
    (hlabel : isCellLabel label) (args : List Term) :
    ((foldCell outermost label (mergeDots false args)).spots outermost).flatMap g =
      g ⟨outermost, foldCell outermost label (mergeDots false args)⟩ ++
        args.flatMap fun a => (a.spots false).flatMap g := by
  have hnone (t : Term) (h : t.isDots) : (t.spots false).flatMap g = [] :=
    flatMap_spots_of_isDots hg h
  rw [← flatMap_mergeDots false args hnone]
  rcases foldCell_eq outermost label (mergeDots false args) with heq | ⟨heq, hdots⟩
  · rw [heq, flatMap_spots]
    simp [isCell, hlabel]
  · rw [heq, flatMap_eq_nil_of_isDots hnone hdots, flatMap_spots_of_isDots hg rfl, hg _ rfl]
    rfl

/-- What is read off the collapsed term, dots aside, is read off what the subterms collapse to where
they stand in the term. -/
theorem flatMap_spots_collapseDots (hg : ∀ s, s.isDots → g s = []) (outermost : Bool) (t : Term) :
    ((t.collapseDots outermost).spots outermost).flatMap g =
      (t.spots outermost).flatMap fun s => g s.collapse := by
  induction t using children_induction generalizing outermost with
  | step t ih =>
      rw [flatMap_spots outermost t, Spot.collapse]
      cases hcell : t.isCell with
      | false =>
          rw [flatMap_spots, collapseDots_of_not_isCell hcell, children_mapChildren,
            isCell_mapChildren, hcell, Bool.not_false, Bool.and_true, List.flatMap_map]
          exact congrArg _ (List.flatMap_congr fun c hc => ih c hc outermost)
      | true =>
          obtain ⟨label, args, rfl, hlabel⟩ := exists_of_isCell hcell
          rw [collapseDots_apply, if_pos hlabel, flatMap_spots_foldCell hg hlabel,
            Bool.not_true, Bool.and_false, List.flatMap_map]
          exact congrArg _ (List.flatMap_congr fun a ha => ih a ha false)

theorem filterMap_spots_collapseDots {g : Spot → Option β} (hg : ∀ s, s.isDots → g s = none)
    (outermost : Bool) (t : Term) :
    ((t.collapseDots outermost).spots outermost).filterMap g =
      (t.spots outermost).filterMap fun s => g s.collapse := by
  simp only [List.filterMap_eq_flatMap_toList]
  exact flatMap_spots_collapseDots (fun s hs => by rw [hg s hs]; rfl) outermost t

/-- The nodes of the collapsed term that are no dots are, one by one, what the nodes of the term collapse
to where this is no dots. -/
theorem filter_spots_collapseDots (outermost : Bool) (t : Term) :
    ((t.collapseDots outermost).spots outermost).filter (!·.isDots) =
      ((t.spots outermost).map Spot.collapse).filter (!·.isDots) := by
  rw [← List.filterMap_eq_filter, filterMap_spots_collapseDots (by simp), List.filterMap_map]
  rfl

theorem exists_of_mem_spots_collapseDots {outermost : Bool} {t : Term} {s : Spot}
    (h : s ∈ (t.collapseDots outermost).spots outermost) (hs : s.isDots = false) :
    ∃ s' ∈ t.spots outermost, s = s'.collapse := by
  have hmem : s ∈ ((t.collapseDots outermost).spots outermost).filter (!·.isDots) :=
    List.mem_filter.2 ⟨h, by simp [hs]⟩
  rw [filter_spots_collapseDots, List.mem_filter] at hmem
  obtain ⟨s', hs', rfl⟩ := List.mem_map.1 hmem.1
  exact ⟨s', hs', rfl⟩

/-- What no term loses by being collapsed, and dots do not have, is left in its order. -/
theorem flatMap_preorder_collapseDots {g : Term → List β} (hdots : ∀ t, t.isDots → g t = [])
    (hg : ∀ outermost t, g (t.collapseDots outermost) = g t) (outermost : Bool) (t : Term) :
    (t.collapseDots outermost).preorder.flatMap g = t.preorder.flatMap g := by
  rw [← map_term_spots outermost, ← map_term_spots outermost t, List.flatMap_map, List.flatMap_map,
    flatMap_spots_collapseDots fun s => hdots s.term]
  exact List.flatMap_congr fun s _ => hg s.outermost s.term

end Spots

section Variables

theorem varName?_of_isDots (t : Term) (h : t.isDots) : t.varName?.toList = [] := by
  cases t <;> simp_all [isDots]

theorem directVars_of_isDots (t : Term) (h : t.isDots) : t.directVars = [] := by
  cases t <;> simp_all [isDots, directVars, isCell]

theorem varName?_collapseDots (outermost : Bool) (t : Term) :
    (t.collapseDots outermost).varName? = t.varName? := by
  cases hcell : t.isCell with
  | false => rw [collapseDots_of_not_isCell hcell, varName?_mapChildren]
  | true =>
      obtain ⟨label, args, rfl, -⟩ := exists_of_isCell hcell
      rcases collapseDots_of_isCell outermost hcell with heq | ⟨_, _, _, -, -, heq⟩
      · rw [heq]
        rfl
      · rw [heq]
        rfl

theorem filterMap_varName?_mergeDots (args : List Term) :
    (mergeDots false (args.map (collapseDots false))).filterMap varName? =
      args.filterMap varName? := by
  simp only [List.filterMap_eq_flatMap_toList]
  rw [flatMap_mergeDots false _ varName?_of_isDots, List.flatMap_map]
  exact List.flatMap_congr fun a _ => by rw [varName?_collapseDots]

theorem directVars_collapseDots (outermost : Bool) (t : Term) :
    (t.collapseDots outermost).directVars = t.directVars := by
  cases hcell : t.isCell with
  | false =>
      rw [directVars, directVars, isCell_collapseDots_of_not_isCell hcell, hcell]
      rfl
  | true =>
      obtain ⟨label, args, rfl, hlabel⟩ := exists_of_isCell hcell
      have hself : (apply label args).directVars =
          (mergeDots false (args.map (collapseDots false))).filterMap varName? := by
        rw [directVars, if_pos hcell, children_apply, filterMap_varName?_mergeDots]
      rw [hself, collapseDots_apply, if_pos hlabel]
      rcases foldCell_eq outermost label (mergeDots false (args.map (collapseDots false)))
        with heq | ⟨heq, hdots⟩
      · rw [heq, directVars, isCell, if_pos hlabel, children_apply]
      · rw [heq, List.filterMap_eq_flatMap_toList,
          flatMap_eq_nil_of_isDots varName?_of_isDots hdots]
        rfl

/-- No variable gets lost. -/
theorem varNames_collapseDots (outermost : Bool) (t : Term) :
    (t.collapseDots outermost).varNames = t.varNames := by
  rw [varNames, varNames, List.filterMap_eq_flatMap_toList, List.filterMap_eq_flatMap_toList]
  exact flatMap_preorder_collapseDots varName?_of_isDots
    (fun outermost t => by rw [varName?_collapseDots]) outermost t

/-- Variables stay directly in cells, and no others get there. -/
theorem cellVars_collapseDots (outermost : Bool) (t : Term) :
    (t.collapseDots outermost).cellVars = t.cellVars :=
  flatMap_preorder_collapseDots directVars_of_isDots directVars_collapseDots outermost t

end Variables

section Changes

theorem changes_of_isDots (outermost : Bool) (t : Term) (h : t.isDots) :
    t.changes outermost = [] := by
  cases t <;> simp_all [isDots]

theorem changes_foldCell {outermost : Bool} {label : String} (hcell : isCellLabel label)
    (args : List Term) :
    (foldCell outermost label (mergeDots false args)).changes outermost =
      args.flatMap (changes false) := by
  rw [← flatMap_mergeDots false args (changes_of_isDots false)]
  rcases foldCell_eq outermost label (mergeDots false args) with heq | ⟨heq, hdots⟩
  · rw [heq, changes_apply, hcell, Bool.not_true, Bool.and_false]
  · rw [heq, flatMap_eq_nil_of_isDots (changes_of_isDots false) hdots]
    rfl

/-- No change gets lost, and none of their sides gains or loses a cell above. -/
theorem changes_collapseDots (outermost : Bool) (t : Term) :
    (t.collapseDots outermost).changes outermost =
      (t.changes outermost).map (Change.map collapseDots) := by
  induction t generalizing outermost with
  | var | token => rfl
  | apply label args ih =>
      rw [collapseDots_apply, changes_apply, List.map_flatMap]
      split
      case isTrue hcell =>
          -- below a cell no change is outermost, in the term and in what it collapses to
          rw [changes_foldCell hcell, List.flatMap_map, hcell, Bool.not_true, Bool.and_false]
          exact List.flatMap_congr fun a ha => ih a ha false
      case isFalse hcell =>
          simp only [changes_apply, hcell, Bool.not_false, Bool.and_true, List.flatMap_map]
          exact List.flatMap_congr fun a ha => ih a ha outermost
  | asPattern pattern binder ihp ihb => simp [ihp, ihb]
  | rewrite lhs rhs => rfl
  | sequence items ih =>
      rw [collapseDots_sequence, changes_sequence, changes_sequence, List.flatMap_map,
        List.map_flatMap]
      exact List.flatMap_congr fun a ha => ih a ha outermost

end Changes

theorem size_foldCell_le {outermost : Bool} {label : String} (args : List Term) :
    (foldCell outermost label (mergeDots false args)).size ≤ (args.map size).sum + 1 := by
  have hmerge := sum_size_mergeDots_le false args
  rcases foldCell_eq outermost label (mergeDots false args) with heq | ⟨heq, -⟩
  · rw [heq, size_eq]
    exact Nat.add_le_add_right hmerge 1
  · rw [heq]
    exact Nat.le_add_left _ _

theorem size_collapseDots_le (outermost : Bool) (t : Term) :
    (t.collapseDots outermost).size ≤ t.size := by
  induction t using children_induction generalizing outermost with
  | step t ih =>
      have hchildren (outermost : Bool) :
          ((t.children.map (collapseDots outermost)).map size).sum ≤ (t.children.map size).sum := by
        rw [List.map_map]
        exact List.sum_le_sum fun c hc => ih c hc outermost
      rw [size_eq t]
      cases hcell : t.isCell with
      | false =>
          rw [collapseDots_of_not_isCell hcell, size_eq, children_mapChildren]
          exact Nat.add_le_add_right (hchildren outermost) 1
      | true =>
          obtain ⟨label, args, rfl, hlabel⟩ := exists_of_isCell hcell
          rw [collapseDots_apply, if_pos hlabel]
          exact (size_foldCell_le _).trans (Nat.add_le_add_right (hchildren false) 1)

theorem not_isCastLabel_of_isCellLabel {label : String} (h : isCellLabel label) :
    isCastLabel label = false := by
  unfold isCellLabel at h
  unfold isCastLabel hasLabelStart
  cases hlabel : label.toList with
  | nil => simp [hlabel] at h
  | cons c cs =>
      obtain rfl : c = '<' := by simp_all
      rfl

section Signatures

variable {signature : Signature}

theorem isOver_of_isDots {t : Term} (h : t.isDots) : t.isOver signature := by
  cases t <;> simp_all [isDots]

/-- Only cells lose arguments, of which they may have any number. -/
theorem isOver_collapseDots (hcells : ∀ label count, isCellLabel label → signature label count)
    (outermost : Bool) {t : Term} (h : t.isOver signature) :
    (t.collapseDots outermost).isOver signature := by
  cases hcell : t.isCell with
  | false => rwa [collapseDots_of_not_isCell hcell, isOver_mapChildren]
  | true =>
      rcases collapseDots_of_isCell outermost hcell with heq | ⟨label, args, args', -, hlabel, heq⟩
      · rw [heq]
        rfl
      · rw [heq]
        exact hcells label args'.length hlabel

theorem Over.collapseDots {t : Term} (h : t.Over signature)
    (hcells : ∀ label count, isCellLabel label → signature label count) (outermost : Bool) :
    (t.collapseDots outermost).Over signature := by
  intro u hu
  rw [← map_term_spots outermost] at hu
  obtain ⟨s, hs, rfl⟩ := List.mem_map.1 hu
  cases hdots : s.isDots with
  | true => exact isOver_of_isDots hdots
  | false =>
      obtain ⟨s', hs', rfl⟩ := exists_of_mem_spots_collapseDots hs hdots
      refine isOver_collapseDots hcells _ (h s'.term ?_)
      rw [← map_term_spots outermost]
      exact List.mem_map_of_mem hs'

end Signatures

/-- A second run finds nothing to merge and no cell to fold. -/
theorem collapseDots_collapseDots (outermost : Bool) (t : Term) :
    (t.collapseDots outermost).collapseDots outermost = t.collapseDots outermost := by
  induction t using children_induction generalizing outermost with
  | step t ih =>
      cases hcell : t.isCell with
      | false =>
          rw [collapseDots_of_not_isCell hcell, collapseDots_of_not_isCell (by simpa using hcell)]
          refine mapChildren_eq_self ?_
          rw [children_mapChildren, List.forall_mem_map]
          exact fun c hc => ih c hc outermost
      | true =>
          obtain ⟨label, args, rfl, hlabel⟩ := exists_of_isCell hcell
          have hargs : (mergeDots false (args.map (collapseDots false))).map (collapseDots false) =
              mergeDots false (args.map (collapseDots false)) := by
            rw [map_eq_self_iff]
            intro u hu
            obtain ⟨a, ha, rfl⟩ := List.mem_map.1 (mem_of_mem_mergeDots hu)
            exact ih a ha false
          rw [collapseDots_apply, if_pos hlabel]
          -- the same arguments reach `foldCell` again, so it decides as before
          rcases foldCell_eq outermost label (mergeDots false (args.map (collapseDots false)))
            with heq | ⟨heq, -⟩
          · rw [heq, collapseDots_apply, if_pos hlabel, hargs, mergeDots_mergeDots, heq]
          · rw [heq]
            rfl

end Term

end KDispatch
