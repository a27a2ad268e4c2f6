import KDispatch.Ordered
import KDispatch.Term.Basic

/-!
Traversals of terms. `preorder` lists a term and its subterms from the root on, and `visitM` runs an
action on them in this order; `bottomUp` rebuilds a term from its leaves, and `bottomUpM` does so with
an action, which it runs once for each node in post-order. Variables are counted along `preorder`.
-/

namespace KDispatch.Term

/-- Rebuilds the node with `f` applied to each direct subterm. -/
def mapChildren (f : Term → Term) : Term → Term
  | .var name => .var name
  | .token text sort => .token text sort
  | .apply label args => .apply label (args.map f)
  | .asPattern pattern binder => .asPattern (f pattern) (f binder)
  | .rewrite lhs rhs => .rewrite (f lhs) (f rhs)
  | .sequence items => .sequence (items.map f)

mutual

/-- Rebuilds the term, with `f` applied to each node after its subterms. -/
def bottomUp (f : Term → Term) : Term → Term
  | .var name => f (.var name)
  | .token text sort => f (.token text sort)
  | .apply label args => f (.apply label (bottomUpAll f args))
  | .asPattern pattern binder => f (.asPattern (bottomUp f pattern) (bottomUp f binder))
  | .rewrite lhs rhs => f (.rewrite (bottomUp f lhs) (bottomUp f rhs))
  | .sequence items => f (.sequence (bottomUpAll f items))

def bottomUpAll (f : Term → Term) : List Term → List Term
  | [] => []
  | t :: ts => bottomUp f t :: bottomUpAll f ts

end

@[simp] theorem bottomUpAll_eq_map (f : Term → Term) (ts : List Term) :
    bottomUpAll f ts = ts.map (bottomUp f) := by
  induction ts with
  | nil => rfl
  | cons t ts ih => simp [bottomUpAll, ih]

theorem bottomUp_eq (f : Term → Term) (t : Term) :
    bottomUp f t = f (t.mapChildren (bottomUp f)) := by
  cases t <;> simp [bottomUp, mapChildren]

section Actions

variable {m : Type → Type} [Monad m]

/-- Rebuilds the node, with the action run on each direct subterm from left to right. -/
def mapChildrenM (f : Term → m Term) : Term → m Term
  | .var name => return .var name
  | .token text sort => return .token text sort
  | .apply label args => return .apply label (← args.mapM f)
  | .asPattern pattern binder => return .asPattern (← f pattern) (← f binder)
  | .rewrite lhs rhs => return .rewrite (← f lhs) (← f rhs)
  | .sequence items => return .sequence (← items.mapM f)

mutual

/-- Rebuilds the term, with the action run on each node after its subterms. -/
def bottomUpM (f : Term → m Term) : Term → m Term
  | .var name => f (.var name)
  | .token text sort => f (.token text sort)
  | .apply label args => do f (.apply label (← bottomUpAllM f args))
  | .asPattern pattern binder => do f (.asPattern (← bottomUpM f pattern) (← bottomUpM f binder))
  | .rewrite lhs rhs => do f (.rewrite (← bottomUpM f lhs) (← bottomUpM f rhs))
  | .sequence items => do f (.sequence (← bottomUpAllM f items))

def bottomUpAllM (f : Term → m Term) : List Term → m (List Term)
  | [] => return []
  | t :: ts => do
    let u ← bottomUpM f t
    let us ← bottomUpAllM f ts
    return u :: us

end

mutual

/-- Runs the action on each node before its subterms. -/
def visitM (f : Term → m Unit) : Term → m Unit
  | .var name => f (.var name)
  | .token text sort => f (.token text sort)
  | .apply label args => do f (.apply label args); visitAllM f args
  | .asPattern pattern binder => do
    f (.asPattern pattern binder); visitM f pattern; visitM f binder
  | .rewrite lhs rhs => do f (.rewrite lhs rhs); visitM f lhs; visitM f rhs
  | .sequence items => do f (.sequence items); visitAllM f items

def visitAllM (f : Term → m Unit) : List Term → m Unit
  | [] => return
  | t :: ts => do visitM f t; visitAllM f ts

end

end Actions

mutual

/-- The term and all its subterms, each node before its subterms. -/
def preorder : Term → List Term
  | .var name => [.var name]
  | .token text sort => [.token text sort]
  | .apply label args => .apply label args :: preorderAll args
  | .asPattern pattern binder =>
    .asPattern pattern binder :: (preorder pattern ++ preorder binder)
  | .rewrite lhs rhs => .rewrite lhs rhs :: (preorder lhs ++ preorder rhs)
  | .sequence items => .sequence items :: preorderAll items

def preorderAll : List Term → List Term
  | [] => []
  | t :: ts => preorder t ++ preorderAll ts

end

@[simp] theorem preorderAll_eq_flatMap (ts : List Term) : preorderAll ts = ts.flatMap preorder := by
  induction ts with
  | nil => rfl
  | cons t ts ih => simp [preorderAll, ih]

theorem preorder_eq (t : Term) : t.preorder = t :: t.children.flatMap preorder := by
  cases t <;> simp [preorder]

/-- The name of a variable. -/
def varName? : Term → Option String
  | .var name => some name
  | _ => none

@[simp] theorem varName?_var (name : String) : (var name).varName? = some name := rfl

@[simp] theorem varName?_token (text sort : String) : (token text sort).varName? = none := rfl

@[simp] theorem varName?_apply (label : String) (args : List Term) : (apply label args).varName? = none := rfl

@[simp] theorem varName?_asPattern (pattern binder : Term) : (asPattern pattern binder).varName? = none := rfl

@[simp] theorem varName?_rewrite (lhs rhs : Term) : (rewrite lhs rhs).varName? = none := rfl

@[simp] theorem varName?_sequence (items : List Term) : (sequence items).varName? = none := rfl

/-- The names of the variables from left to right, one for each occurrence. -/
def varNames (t : Term) : List String := t.preorder.filterMap varName?

/-- How often a variable occurs. -/
def occurrences (name : String) (t : Term) : Nat := t.varNames.count name

/-- Adds one to the count of a name. -/
def tally (counts : KeyMap Nat) (name : String) : KeyMap Nat :=
  counts.insert name ((counts.find? name).getD 0 + 1)

/-- Adds the number of occurrences of every variable to the given counts. -/
def countVariables (t : Term) (counts : KeyMap Nat) : KeyMap Nat := t.varNames.foldl tally counts

theorem varNames_eq (t : Term) :
    t.varNames = t.varName?.toList ++ t.children.flatMap varNames := by
  rw [varNames, preorder_eq]
  cases h : t.varName? <;> simp only [h, List.filterMap_cons, List.filterMap_flatMap] <;> rfl

end KDispatch.Term
