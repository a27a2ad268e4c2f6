import KDispatch.Proofs.Dots.Collapse
import Mathlib.Data.List.Chain

/-!
What collapsing dots leaves of a term. Below other cells exactly the pure cells vanish, those that hold
some dots and otherwise only pure cells; all else stays in its order, and no dots are left next to dots.
-/

namespace KDispatch

namespace Term

mutual

/-- Whether the term is a cell that holds something, and nothing but dots and cells of this kind. -/
def isPure : Term → Bool
  | .var _ => false
  | .token _ _ => false
  | .apply label args => isCellLabel label && !args.isEmpty && holdsDots args
  | .asPattern _ _ => false
  | .rewrite _ _ => false
  | .sequence _ => false

def holdsDots : List Term → Bool
  | [] => true
  | t :: ts => (t.isDots || isPure t) && holdsDots ts

end

theorem holdsDots_iff {ts : List Term} : holdsDots ts ↔ ∀ t ∈ ts, t.isDots ∨ t.isPure := by
  induction ts with
  | nil => simp [holdsDots]
  | cons t ts ih => simp [holdsDots, ih]

theorem isPure_apply {label : String} {args : List Term} :
    (apply label args).isPure ↔
      isCellLabel label ∧ args ≠ [] ∧ ∀ a ∈ args, a.isDots ∨ a.isPure := by
  simp [isPure, holdsDots_iff, and_assoc]

section Merging

variable {afterDots : Bool} {ts : List Term}

/-- Of two terms at most one is dots. -/
def Apart (a b : Term) : Prop := ¬ (a.isDots ∧ b.isDots)

theorem mergeDots_eq_nil_iff : mergeDots false ts = [] ↔ ts = [] := by
  cases ts with
  | nil => rfl
  | cons => simp [mergeDots_cons]

theorem forall_isDots_mergeDots_iff :
    (∀ t ∈ mergeDots afterDots ts, t.isDots) ↔ ∀ t ∈ ts, t.isDots := by
  induction ts generalizing afterDots with
  | nil => rfl
  | cons t ts ih =>
      rw [mergeDots_cons]
      split
      case isTrue h =>
          have hdots : t.isDots := by simp_all
          simp [ih, hdots]
      case isFalse => simp [ih]

/-- The first term that is left after dots is none itself. -/
theorem isDots_of_mem_head?_mergeDots {t : Term} (h : t ∈ (mergeDots true ts).head?) :
    t.isDots = false := by
  induction ts with
  | nil => cases h
  | cons u us ih =>
      rw [mergeDots_cons] at h
      split at h
      case isTrue => exact ih h
      case isFalse hdots =>
          obtain rfl := Option.some.inj h
          simpa using hdots

theorem isChain_mergeDots : (mergeDots afterDots ts).IsChain Apart := by
  induction ts generalizing afterDots with
  | nil => exact .nil
  | cons t ts ih =>
      rw [mergeDots_cons]
      split
      case isTrue => exact ih
      case isFalse =>
          refine List.isChain_cons.2 ⟨?_, ih⟩
          rintro u hu ⟨ht, hdots⟩
          rw [ht] at hu
          exact absurd (isDots_of_mem_head?_mergeDots hu) (by simp [hdots])

end Merging

section Collapse

variable {outermost : Bool}

theorem isDots_foldCell {label : String} {args : List Term} :
    (foldCell outermost label args).isDots ↔
      outermost = false ∧ args ≠ [] ∧ ∀ a ∈ args, a.isDots := by
  unfold foldCell
  split
  case isTrue h => simpa [isDots, dots, and_assoc] using h
  case isFalse h => simpa [isDots, and_assoc] using h

/-- A term collapses to dots exactly if it is dots, or a pure cell below another cell. -/
theorem isDots_collapseDots {t : Term} :
    (t.collapseDots outermost).isDots ↔ t.isDots ∨ outermost = false ∧ t.isPure := by
  induction t generalizing outermost with
  | apply label args ih =>
      rw [collapseDots_apply, isPure_apply]
      split
      case isTrue hcell =>
          have hargs : (∀ a ∈ args.map (collapseDots false), a.isDots) ↔
              ∀ a ∈ args, a.isDots ∨ a.isPure := by
            rw [List.forall_mem_map]
            exact forall₂_congr fun a ha => (ih a ha).trans (by simp)
          rw [isDots_foldCell, forall_isDots_mergeDots_iff, hargs, Ne, mergeDots_eq_nil_iff]
          simp [isDots, hcell]
      case isFalse hcell => simp [isDots, hcell]
  | _ => simp [isDots, isPure, collapseDots]

end Collapse

section Cells

/-- The label of a cell. -/
def cellLabel? : Term → Option String
  | .apply label _ => if isCellLabel label then some label else none
  | _ => none

theorem cellLabel?_of_not_isCell {t : Term} (h : t.isCell = false) : t.cellLabel? = none := by
  cases t <;> simp_all [isCell, cellLabel?]

/-- What does not become dots keeps the label that it has as a cell. -/
theorem cellLabel?_collapse (s : Spot) :
    s.collapse.term.cellLabel? = if s.collapse.isDots then none else s.term.cellLabel? := by
  obtain ⟨outermost, t⟩ := s
  rw [Spot.collapse, Spot.isDots]
  cases hcell : t.isCell with
  | false =>
      rw [cellLabel?_of_not_isCell hcell,
        cellLabel?_of_not_isCell (isCell_collapseDots_of_not_isCell hcell), ite_self]
  | true =>
      dsimp only
      rcases collapseDots_of_isCell outermost hcell with heq | ⟨label, args, args', rfl, -, heq⟩
      · rw [heq]
        rfl
      · rw [heq]
        rfl

/-- A cell that is left holds no dots next to dots, and below another cell it does not hold dots alone. -/
theorem children_of_isCell_collapseDots {outermost : Bool} {t : Term}
    (h : (t.collapseDots outermost).isCell) :
    (t.collapseDots outermost).children.IsChain Apart ∧
      (outermost = false → (t.collapseDots outermost).children = [] ∨
        ∃ a ∈ (t.collapseDots outermost).children, a.isDots = false) := by
  have hcell : t.isCell := by
    by_contra hnot
    rw [isCell_collapseDots_of_not_isCell (Bool.eq_false_of_not_eq_true hnot)] at h
    cases h
  obtain ⟨label, args, rfl, hlabel⟩ := exists_of_isCell hcell
  rw [collapseDots_apply, if_pos hlabel] at h ⊢
  have hchain : (mergeDots false (args.map (collapseDots false))).IsChain Apart := isChain_mergeDots
  generalize mergeDots false (args.map (collapseDots false)) = merged at h hchain ⊢
  rcases foldCell_eq outermost label merged with heq | ⟨heq, -⟩
  · rw [heq]
    refine ⟨hchain, fun hinner => ?_⟩
    -- a cell with some arguments, all of them dots, would have been folded
    by_contra! hdots
    have hfolds : (foldCell outermost label merged).isDots :=
      isDots_foldCell.2 ⟨hinner, hdots.1, fun a ha => Bool.not_eq_false _ ▸ hdots.2 a ha⟩
    rw [heq] at hfolds
    cases hfolds
  · rw [heq] at h
    cases h

/-- The labels of the cells that no other cell stands above, in their order. -/
def outerCells (t : Term) : List String :=
  (t.spots true).filterMap fun s => if s.outermost then s.term.cellLabel? else none

theorem cellLabel?_of_isDots {t : Term} (h : t.isDots) : t.cellLabel? = none := by
  cases t <;> simp_all [isDots, cellLabel?]

theorem outerCells_collapseDots (t : Term) : (t.collapseDots true).outerCells = t.outerCells := by
  rw [outerCells, filterMap_spots_collapseDots]
  · refine List.filterMap_congr fun s _ => ?_
    change (if s.outermost then s.collapse.term.cellLabel? else none) = _
    rw [cellLabel?_collapse]
    split
    case isTrue houter =>
        split
        case isTrue hdots =>
            have hself : s.term.isDots := by simpa [houter] using isDots_collapseDots.1 hdots
            rw [cellLabel?_of_isDots hself]
        case isFalse => rfl
    case isFalse => rfl
  · intro s hs
    rw [cellLabel?_of_isDots hs, ite_self]

end Cells

section PlainNodes

/-- The node alone, with dots for what stands directly below it. -/
def bare (t : Term) : Term := t.mapChildren fun _ => dots

def plainNode? (t : Term) : Option Term := if t.isDots || t.isCell then none else some t.bare

/-- The nodes that are neither dots nor cells, from the root on, each alone. -/
def plainNodes (t : Term) : List Term := t.preorder.filterMap plainNode?

@[simp] theorem bare_mapChildren (f : Term → Term) (t : Term) : (t.mapChildren f).bare = t.bare := by
  cases t <;> simp [bare, mapChildren, Function.comp_def]

theorem plainNode?_collapseDots (outermost : Bool) (t : Term) :
    (t.collapseDots outermost).plainNode? = t.plainNode? := by
  cases hcell : t.isCell with
  | false =>
      rw [collapseDots_of_not_isCell hcell, plainNode?, isDots_mapChildren, isCell_mapChildren,
        bare_mapChildren, plainNode?]
  | true =>
      rw [plainNode?, plainNode?, hcell, Bool.or_true, if_pos rfl]
      rcases collapseDots_of_isCell outermost hcell with heq | ⟨label, args, args', rfl, hlabel, heq⟩
      · simp [heq, isDots, dots]
      · simp [heq, isCell, hlabel]

/-- Neither are nodes lost that are no cells, nor do they change their order. -/
theorem plainNodes_collapseDots (outermost : Bool) (t : Term) :
    (t.collapseDots outermost).plainNodes = t.plainNodes := by
  rw [plainNodes, plainNodes, List.filterMap_eq_flatMap_toList, List.filterMap_eq_flatMap_toList]
  refine flatMap_preorder_collapseDots (fun t ht => ?_) (fun outermost t => ?_) outermost t
  · rw [plainNode?, ht, Bool.true_or, if_pos rfl]
    rfl
  · rw [plainNode?_collapseDots]

end PlainNodes

/-- Collapsing dots is exact: a cell that is left holds no dots next to dots, and below another cell it
is empty or holds something else than dots; the nodes other than dots stay in their order, each collapsed,
and of the cells below another cell exactly the pure ones vanish, while the others keep their labels; the
outermost cells keep their labels, number and order, and so do the nodes that are no cells; and a second
run finds nothing to do. -/
theorem collapseDots_folds_pure_cells (t : Term) :
    (∀ s ∈ (t.collapseDots true).spots true, s.term.isCell →
        s.term.children.IsChain Apart ∧
          (s.outermost = false →
            s.term.children = [] ∨ ∃ a ∈ s.term.children, a.isDots = false)) ∧
      ((t.collapseDots true).spots true).filter (!·.isDots) =
          ((t.spots true).map Spot.collapse).filter (!·.isDots) ∧
      (∀ s ∈ t.spots true, s.term.isCell → s.outermost = false →
        (s.collapse.isDots ↔ s.term.isPure) ∧
          (s.term.isPure = false → s.collapse.term.cellLabel? = s.term.cellLabel?)) ∧
      (t.collapseDots true).outerCells = t.outerCells ∧
      (t.collapseDots true).plainNodes = t.plainNodes ∧
      (t.collapseDots true).collapseDots true = t.collapseDots true := by
  refine ⟨fun s hs hcell => ?_, filter_spots_collapseDots true t, fun s _ hcell hinner => ?_,
    outerCells_collapseDots t, plainNodes_collapseDots true t, collapseDots_collapseDots true t⟩
  · obtain ⟨s', -, rfl⟩ := exists_of_mem_spots_collapseDots hs (isDots_of_isCell hcell)
    exact children_of_isCell_collapseDots hcell
  · have hvanishes : s.collapse.isDots ↔ s.term.isPure :=
      isDots_collapseDots.trans (by simp [isDots_of_isCell hcell, hinner])
    refine ⟨hvanishes, fun hpure => ?_⟩
    rw [cellLabel?_collapse, if_neg]
    simp [hvanishes, hpure]

/-- A cell that changes, one that holds dots at two depths, one that holds dots and one that is empty. -/
def foldingSample : Term :=
  .apply "<top>"
    [.apply "<k>" [.rewrite (.var "X") (.token "1" "Int")],
      .apply "<state>" [.apply "<env>" [dots], dots],
      .apply "<heap>" [dots],
      .apply "<in>" []]

theorem collapseDots_folds_pure_cells_sample :
    foldingSample.collapseDots true =
        .apply "<top>" [.apply "<k>" [.rewrite (.var "X") (.token "1" "Int")], dots,
          .apply "<in>" []] ∧
      (Spot.collapse ⟨false, .apply "<state>" [.apply "<env>" [dots], dots]⟩).isDots ∧
      (Spot.collapse ⟨false, .apply "<in>" []⟩).term.cellLabel? = some "<in>" ∧
      (foldingSample.collapseDots true).outerCells = ["<top>"] := by
  obtain ⟨-, -, hinner, houter, -⟩ := collapseDots_folds_pure_cells foldingSample
  refine ⟨by decide, ?_, ?_, houter.trans (by decide)⟩
  · exact (hinner _ (by decide) (by decide) rfl).1.2 (by decide)
  · exact (hinner ⟨false, .apply "<in>" []⟩ (by decide) (by decide) rfl).2 (by decide)

end Term

end KDispatch
