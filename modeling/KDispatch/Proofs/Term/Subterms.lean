import KDispatch.Term.Traversal
import Mathlib.Algebra.GroupWithZero.Nat
import Mathlib.Data.List.Basic

/-!
Subterms through the direct ones. A term has the properties of its root and of the subterms of its
children, and induction may go from all children to the term whatever its kind. What the labels in a term are
applied to is such a property.
-/

namespace KDispatch.Term

/-- Induction over terms from the children to the term, in one case for all kinds of terms. -/
@[elab_as_elim]
theorem children_induction {P : Term → Prop} (step : ∀ t, (∀ c ∈ t.children, P c) → P t)
    (t : Term) : P t := by
  induction t with
  | var => exact step _ (by simp)
  | token => exact step _ (by simp)
  | apply label args ih => exact step _ ih
  | asPattern pattern binder ihp ihb => exact step _ (by simp [ihp, ihb])
  | rewrite lhs rhs ihl ihr => exact step _ (by simp [ihl, ihr])
  | sequence items ih => exact step _ ih

theorem map_eq_self_iff {f : Term → Term} {ts : List Term} :
    ts.map f = ts ↔ ∀ t ∈ ts, f t = t := by
  induction ts with
  | nil => simp
  | cons t ts ih => simp [ih]

@[simp] theorem children_mapChildren (f : Term → Term) (t : Term) :
    (t.mapChildren f).children = t.children.map f := by
  cases t <;> rfl

@[simp] theorem varName?_mapChildren (f : Term → Term) (t : Term) :
    (t.mapChildren f).varName? = t.varName? := by
  cases t <;> rfl

theorem mapChildren_eq_self {f : Term → Term} {t : Term} (h : ∀ c ∈ t.children, f c = c) :
    t.mapChildren f = t := by
  cases t <;> simp_all [mapChildren, map_eq_self_iff]

theorem mem_preorder_self (t : Term) : t ∈ t.preorder := by
  rw [preorder_eq]
  exact List.mem_cons_self

/-- What holds of all subterms holds of the term itself and of all subterms of its children. -/
theorem forall_mem_preorder_iff {P : Term → Prop} (t : Term) :
    (∀ s ∈ t.preorder, P s) ↔ P t ∧ ∀ c ∈ t.children, ∀ s ∈ c.preorder, P s := by
  rw [preorder_eq, List.forall_mem_cons]
  simp only [List.mem_flatMap]
  constructor
  · rintro ⟨ht, h⟩
    exact ⟨ht, fun c hc s hs => h s ⟨c, hc, hs⟩⟩
  · rintro ⟨ht, h⟩
    exact ⟨ht, fun s ⟨c, hc, hs⟩ => h c hc s hs⟩

/-- The number of nodes. -/
def size (t : Term) : Nat := t.preorder.length

theorem size_eq (t : Term) : t.size = (t.children.map size).sum + 1 := by
  rw [size, preorder_eq, List.length_cons, List.length_flatMap]
  rfl

theorem size_pos (t : Term) : 0 < t.size := by
  rw [size_eq]
  exact Nat.succ_pos _

@[simp] theorem varNames_var (name : String) : (var name).varNames = [name] := rfl

@[simp] theorem varNames_token (text sort : String) : (token text sort).varNames = [] := rfl

@[simp] theorem varNames_apply (label : String) (args : List Term) :
    (apply label args).varNames = args.flatMap varNames :=
  varNames_eq _

@[simp] theorem varNames_asPattern (pattern binder : Term) :
    (asPattern pattern binder).varNames = pattern.varNames ++ binder.varNames := by
  simp [varNames_eq (.asPattern _ _)]

@[simp] theorem varNames_rewrite (lhs rhs : Term) :
    (rewrite lhs rhs).varNames = lhs.varNames ++ rhs.varNames := by
  simp [varNames_eq (.rewrite _ _)]

@[simp] theorem varNames_sequence (items : List Term) :
    (sequence items).varNames = items.flatMap varNames :=
  varNames_eq _

end KDispatch.Term

/-! ## Signatures

Terms over a signature. A signature says to how many arguments each label may be applied; a term is over it
if none of its applications is at odds with it.
-/

namespace KDispatch

/-- Whether a label may be applied to so many arguments. -/
abbrev Signature := String → Nat → Bool

namespace Term

/-- Whether the node itself, if it is an application, is one that the signature allows. -/
def isOver (signature : Signature) : Term → Bool
  | .apply label args => signature label args.length
  | _ => true

@[simp] theorem isOver_var (signature : Signature) (name : String) : (var name).isOver signature := rfl

@[simp] theorem isOver_token (signature : Signature) (text sort : String) : (token text sort).isOver signature := rfl

@[simp] theorem isOver_apply (signature : Signature) (label : String) (args : List Term) :
    (apply label args).isOver signature = signature label args.length := rfl

@[simp] theorem isOver_asPattern (signature : Signature) (pattern binder : Term) :
    (asPattern pattern binder).isOver signature := rfl

@[simp] theorem isOver_rewrite (signature : Signature) (lhs rhs : Term) : (rewrite lhs rhs).isOver signature := rfl

@[simp] theorem isOver_sequence (signature : Signature) (items : List Term) : (sequence items).isOver signature := rfl

/-- The signature allows every application in the term. -/
def Over (signature : Signature) (t : Term) : Prop := ∀ s ∈ t.preorder, s.isOver signature

instance (signature : Signature) (t : Term) : Decidable (t.Over signature) := List.decidableBAll _ _

variable {signature : Signature}

theorem over_iff (t : Term) :
    t.Over signature ↔ t.isOver signature ∧ ∀ c ∈ t.children, c.Over signature :=
  forall_mem_preorder_iff t

@[simp] theorem over_var (name : String) : (var name).Over signature := by
  simp [over_iff (.var _)]

@[simp] theorem over_token (text sort : String) : (token text sort).Over signature := by
  simp [over_iff (.token _ _)]

@[simp] theorem over_apply (label : String) (args : List Term) :
    (apply label args).Over signature ↔
      signature label args.length ∧ ∀ a ∈ args, a.Over signature :=
  over_iff _

@[simp] theorem over_asPattern (pattern binder : Term) :
    (asPattern pattern binder).Over signature ↔
      pattern.Over signature ∧ binder.Over signature := by
  simp [over_iff (.asPattern _ _)]

@[simp] theorem over_rewrite (lhs rhs : Term) :
    (rewrite lhs rhs).Over signature ↔ lhs.Over signature ∧ rhs.Over signature := by
  simp [over_iff (.rewrite _ _)]

@[simp] theorem over_sequence (items : List Term) :
    (sequence items).Over signature ↔ ∀ a ∈ items, a.Over signature := by
  simp [over_iff (.sequence _)]

/-- Signatures do not see what the children of a node are, only how many. -/
@[simp] theorem isOver_mapChildren (f : Term → Term) (t : Term) :
    (t.mapChildren f).isOver signature = t.isOver signature := by
  cases t <;> simp [mapChildren]

end Term

end KDispatch
