import KDispatch.Term.Basic
import KDispatch.Term.Traversal

/-!
The passes over terms that minimizing a rule is made of: casts go, conditions are simplified, dots stand for
what a rule leaves alone, and rewrites sink.
-/

/-! ## Casts

Semantic casts: applications of a label that starts with `#SemanticCastTo` to one argument, which
`removeCasts` replaces by that argument.
-/

namespace KDispatch.Term

def isCastLabel (label : String) : Bool := hasLabelStart "#SemanticCastTo" label

/-- The argument of a cast, and any other term itself. -/
def uncast : Term → Term
  | .apply label [arg] => if isCastLabel label then arg else .apply label [arg]
  | t => t

/-- The term without casts, at whatever depth they stand. -/
def removeCasts (t : Term) : Term := t.bottomUp uncast

end KDispatch.Term

/-! ## Conditions

Side conditions as conjunctions. `simplify?` flattens a conjunction, drops the conjuncts that are
trivially true and puts the others together again from the left.
-/

namespace KDispatch.Condition

def conjunctionLabel : String := "_andBool_"

/-- The empty conjunction of matching logic, and the Boolean `true`. -/
def isTriviallyTrue : Term → Bool
  | .apply label args => label == "#True" && args.isEmpty
  | .token text sort => text == "true" && sort == "Bool"
  | _ => false

mutual

/-- The conjuncts of nested conjunctions of any number of arguments, from left to right. -/
def conjuncts : Term → List Term
  | .apply label args =>
    if label = conjunctionLabel then conjunctsAll args else [.apply label args]
  | .var name => [.var name]
  | .token text sort => [.token text sort]
  | .asPattern pattern binder => [.asPattern pattern binder]
  | .rewrite lhs rhs => [.rewrite lhs rhs]
  | .sequence items => [.sequence items]

def conjunctsAll : List Term → List Term
  | [] => []
  | t :: ts => conjuncts t ++ conjunctsAll ts

end

@[simp] theorem conjunctsAll_eq_flatMap (ts : List Term) :
    conjunctsAll ts = ts.flatMap conjuncts := by
  induction ts with
  | nil => rfl
  | cons t ts ih => simp [conjunctsAll, ih]

def and (a b : Term) : Term := .apply conjunctionLabel [a, b]

/-- The conjunction of terms, nested to the left; there is none of no terms. -/
def conjunction? : List Term → Option Term
  | [] => none
  | t :: ts => some (ts.foldl and t)

/-- The condition without its trivially true conjuncts. -/
def simplify? (condition : Term) : Option Term :=
  conjunction? ((conjuncts condition).filter (!isTriviallyTrue ·))

end KDispatch.Condition

/-! ## Dots

Dots for the parts of cells that a rule leaves alone. `elide` puts dots for variables that stand
directly in a cell; `collapseDots` merges neighbouring dots and folds cells that hold nothing else.
-/

namespace KDispatch.Term

/-- Dots for a variable that `useless` holds of. -/
def elideVar (useless : String → Bool) : Term → Term
  | .var name => if useless name then dots else .var name
  | t => t

/-- Elides the variables among the arguments of a cell. -/
def elideArgs (useless : String → Bool) : Term → Term
  | .apply label args =>
    if isCellLabel label then .apply label (args.map (elideVar useless)) else .apply label args
  | t => t

/-- Elides the variables directly in cells, at every depth. -/
def elide (useless : String → Bool) (t : Term) : Term := t.bottomUp (elideArgs useless)

/-- Leaves out dots that follow dots; `afterDots` tells whether dots stand before the list. -/
def mergeDots (afterDots : Bool) : List Term → List Term
  | [] => []
  | t :: ts =>
    if afterDots && t.isDots then mergeDots true ts else t :: mergeDots t.isDots ts

theorem mergeDots_cons (afterDots : Bool) (t : Term) (ts : List Term) :
    mergeDots afterDots (t :: ts) =
      if afterDots && t.isDots then mergeDots true ts else t :: mergeDots t.isDots ts := rfl

/-- A cell with the given arguments; one that is not outermost and holds only dots becomes dots. -/
def foldCell (outermost : Bool) (label : String) (args : List Term) : Term :=
  if !outermost && !args.isEmpty && args.all isDots then dots else .apply label args

mutual

/-- Merges and folds dots; a cell is outermost if no cell stands above it. -/
def collapseDots (outermost : Bool) : Term → Term
  | .var name => .var name
  | .token text sort => .token text sort
  | .apply label args =>
    if isCellLabel label then
      foldCell outermost label (mergeDots false (collapseDotsAll false args))
    else .apply label (collapseDotsAll outermost args)
  | .asPattern pattern binder =>
    .asPattern (collapseDots outermost pattern) (collapseDots outermost binder)
  | .rewrite lhs rhs => .rewrite (collapseDots outermost lhs) (collapseDots outermost rhs)
  | .sequence items => .sequence (collapseDotsAll outermost items)

def collapseDotsAll (outermost : Bool) : List Term → List Term
  | [] => []
  | t :: ts => collapseDots outermost t :: collapseDotsAll outermost ts

end

@[simp] theorem collapseDotsAll_eq_map (outermost : Bool) (ts : List Term) :
    collapseDotsAll outermost ts = ts.map (collapseDots outermost) := by
  induction ts with
  | nil => rfl
  | cons t ts ih => simp [collapseDotsAll, ih]

end KDispatch.Term

/-! ## Rewrites

The two sides of a rule body. `projection` replaces every rewrite by one of its sides; `pushDown`
lets every rewrite sink to the smallest subterms in which its sides differ.
-/

namespace KDispatch

inductive Side where
  | left
  | right
  deriving DecidableEq

namespace Term

mutual

/-- The term with every rewrite replaced by one of its sides. -/
def projection (side : Side) : Term → Term
  | .var name => .var name
  | .token text sort => .token text sort
  | .apply label args => .apply label (projectionAll side args)
  | .asPattern pattern binder => .asPattern (projection side pattern) (projection side binder)
  | .rewrite lhs rhs =>
    match side with
    | .left => projection side lhs
    | .right => projection side rhs
  | .sequence items => .sequence (projectionAll side items)

def projectionAll (side : Side) : List Term → List Term
  | [] => []
  | t :: ts => projection side t :: projectionAll side ts

end

@[simp] theorem projectionAll_eq_map (side : Side) (ts : List Term) :
    projectionAll side ts = ts.map (projection side) := by
  induction ts with
  | nil => rfl
  | cons t ts ih => simp [projectionAll, ih]

mutual

/-- The rewrite from `lhs` to `rhs`, pushed into applications of one label to equally many arguments
and into sequences of one length; where the sides are equal nothing is rewritten. -/
def pushRewrite (lhs rhs : Term) : Term :=
  if lhs = rhs then lhs
  else
    match lhs, rhs with
    | .apply l as, .apply m bs =>
      if l = m ∧ as.length = bs.length then .apply l (zipRewrites as bs)
      else .rewrite (.apply l as) (.apply m bs)
    | .sequence as, .sequence bs =>
      if as ≠ [] ∧ as.length = bs.length then .sequence (zipRewrites as bs)
      else .rewrite (.sequence as) (.sequence bs)
    | lhs, rhs => .rewrite lhs rhs

/-- The rewrites between the terms at equal positions. -/
def zipRewrites : List Term → List Term → List Term
  | a :: as, b :: bs => pushRewrite a b :: zipRewrites as bs
  | _, _ => []

end

theorem zipRewrites_eq_zipWith (as bs : List Term) :
    zipRewrites as bs = List.zipWith pushRewrite as bs := by
  induction as generalizing bs with
  | nil => simp [zipRewrites]
  | cons a as ih => cases bs <;> simp [zipRewrites, ih]

mutual

/-- Pushes every outermost rewrite down. -/
def pushDown : Term → Term
  | .var name => .var name
  | .token text sort => .token text sort
  | .apply label args => .apply label (pushDownAll args)
  | .asPattern pattern binder => .asPattern (pushDown pattern) (pushDown binder)
  | .rewrite lhs rhs => pushRewrite lhs rhs
  | .sequence items => .sequence (pushDownAll items)

def pushDownAll : List Term → List Term
  | [] => []
  | t :: ts => pushDown t :: pushDownAll ts

end

@[simp] theorem pushDownAll_eq_map (ts : List Term) : pushDownAll ts = ts.map pushDown := by
  induction ts with
  | nil => rfl
  | cons t ts ih => simp [pushDownAll, ih]

end Term

end KDispatch
