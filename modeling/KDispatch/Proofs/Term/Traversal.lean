import KDispatch.Proofs.Term.Renaming
import KDispatch.Proofs.Term.Subterms

/-!
Traversals of terms by the nodes they come to. A visit runs its action on each node in pre-order; rebuilding
runs its action once for each node in post-order, on the node with its children replaced by what the action has made
of them, and on nothing else. The orders list the same nodes, so that counting and renaming see all of them.
-/

namespace KDispatch.Term

/-! ## Orders of nodes -/

mutual

/-- The term and all its subterms, each node after its subterms. -/
def postorder : Term → List Term
  | .var name => [.var name]
  | .token text sort => [.token text sort]
  | .apply label args => postorderAll args ++ [.apply label args]
  | .asPattern pattern binder =>
    postorder pattern ++ postorder binder ++ [.asPattern pattern binder]
  | .rewrite lhs rhs => postorder lhs ++ postorder rhs ++ [.rewrite lhs rhs]
  | .sequence items => postorderAll items ++ [.sequence items]

def postorderAll : List Term → List Term
  | [] => []
  | t :: ts => postorder t ++ postorderAll ts

end

@[simp] theorem postorderAll_eq_flatMap (ts : List Term) : postorderAll ts = ts.flatMap postorder := by
  induction ts with
  | nil => rfl
  | cons t ts ih => simp [postorderAll, ih]

theorem postorder_eq (t : Term) : t.postorder = t.children.flatMap postorder ++ [t] := by
  cases t <;> simp [postorder]

theorem postorder_perm_preorder (t : Term) : t.postorder.Perm t.preorder := by
  induction t using children_induction with
  | step t ih =>
    rw [postorder_eq, preorder_eq]
    exact (List.perm_append_singleton _ _).trans ((List.Perm.flatMap_left _ ih).cons t)

/-- The node with other children, as many as it has. -/
def withChildren : Term → List Term → Term
  | .apply label _, args => .apply label args
  | .asPattern _ _, [pattern, binder] => .asPattern pattern binder
  | .rewrite _ _, [lhs, rhs] => .rewrite lhs rhs
  | .sequence _, items => .sequence items
  | t, _ => t

@[simp] theorem withChildren_children (t : Term) : t.withChildren t.children = t := by
  cases t <;> rfl

/-! ## Actions along the orders -/

section Actions

variable {m : Type → Type} [Monad m]

/-- One step of rebuilding: the results for the children of a node, the last one on top, give way to what the
action makes of the node with these children. -/
def rebuildStep (f : Term → m Term) (results : List Term) (node : Term) : m (List Term) := do
  let count := node.children.length
  let result ← f (node.withChildren (results.take count).reverse)
  return result :: results.drop count

theorem visitAllM_eq_forM (f : Term → m Unit) (ts : List Term) : visitAllM f ts = forM ts (visitM f) := by
  induction ts with
  | nil => rfl
  | cons t ts ih => simp [visitAllM, ih]

variable [LawfulMonad m]

theorem visitM_eq (f : Term → m Unit) (t : Term) :
    t.visitM f = (do f t; forM t.children (visitM f)) := by
  cases t <;> simp [visitM, visitAllM_eq_forM]

theorem bottomUpAllM_eq_mapM (f : Term → m Term) (ts : List Term) :
    bottomUpAllM f ts = ts.mapM (bottomUpM f) := by
  induction ts with
  | nil => rfl
  | cons t ts ih => simp [bottomUpAllM, ih]

theorem bottomUpM_eq (f : Term → m Term) (t : Term) :
    t.bottomUpM f = (do let results ← t.children.mapM (bottomUpM f); f (t.withChildren results)) := by
  cases t <;> simp [bottomUpM, withChildren, bottomUpAllM_eq_mapM]

/-- A visit runs its action once on each node, in pre-order. -/
theorem visitM_eq_forM_preorder (f : Term → m Unit) (t : Term) : t.visitM f = forM t.preorder f := by
  induction t using children_induction with
  | step t ih =>
    have hchildren (ts : List Term) (h : ∀ c ∈ ts, c.visitM f = forM c.preorder f) :
        forM ts (visitM f) = forM (ts.flatMap preorder) f := by
      induction ts with
      | nil => rfl
      | cons c ts ihts =>
        rw [List.forall_mem_cons] at h
        simp [h.1, ihts h.2]
    rw [visitM_eq, preorder_eq, hchildren t.children ih, List.forM_cons]

theorem mapM_congr {f g : Term → m Term} {ts : List Term} (h : ∀ t ∈ ts, f t = g t) :
    ts.mapM f = ts.mapM g := by
  induction ts with
  | nil => rfl
  | cons t ts ih =>
    rw [List.forall_mem_cons] at h
    simp [h.1, ih h.2]

/-- What comes after the results of a list of nodes may count on having one for each of them. -/
theorem mapM_bind_congr {α : Type} {f : Term → m Term} {ts : List Term} {k k' : List Term → m α}
    (h : ∀ results, results.length = ts.length → k results = k' results) :
    ts.mapM f >>= k = ts.mapM f >>= k' := by
  induction ts generalizing k k' with
  | nil => simpa using h [] rfl
  | cons t ts ih =>
    simp only [List.mapM_cons, bind_assoc, pure_bind]
    refine bind_congr fun result => ih fun results hlength => ?_
    exact h (result :: results) (by simp [hlength])

/-- Rebuilding runs its action once for each node, in post-order: step by step along the nodes, the children of
a node replaced by their results, it comes to the result for the term. -/
theorem foldlM_rebuildStep_postorder (f : Term → m Term) (t : Term) (results : List Term) :
    t.postorder.foldlM (rebuildStep f) results = (do let result ← t.bottomUpM f; return result :: results) := by
  induction t using children_induction generalizing results with
  | step t ih =>
    -- the children leave their results on top, the last one first
    have hchildren (ts : List Term) (results : List Term)
        (h : ∀ c ∈ ts, ∀ results, c.postorder.foldlM (rebuildStep f) results =
          (do let result ← c.bottomUpM f; return result :: results)) :
        (ts.flatMap postorder).foldlM (rebuildStep f) results =
          (do let made ← ts.mapM (bottomUpM f); return made.reverse ++ results) := by
      induction ts generalizing results with
      | nil => simp
      | cons c ts ihts =>
        rw [List.forall_mem_cons] at h
        simp [List.foldlM_append, h.1, ihts _ h.2]
    rw [postorder_eq, List.foldlM_append, hchildren t.children results ih, bottomUpM_eq]
    simp only [bind_assoc, pure_bind, List.foldlM_cons, List.foldlM_nil, bind_pure]
    refine mapM_bind_congr fun made hlength => ?_
    have htake : (made.reverse ++ results).take t.children.length = made.reverse := by simp [← hlength]
    have hdrop : (made.reverse ++ results).drop t.children.length = results := by simp [← hlength]
    simp only [rebuildStep, htake, hdrop, List.reverse_reverse]

/-- If the action gives each node back, then rebuilding gives the term back and has visited its nodes in
post-order. -/
theorem bottomUpM_visit (visit : Term → m Unit) (t : Term) :
    t.bottomUpM (fun u => do visit u; return u) = (do forM t.postorder visit; return t) := by
  induction t using children_induction with
  | step t ih =>
    have hchildren (ts : List Term) : ts.mapM (fun c => do forM c.postorder visit; return c) =
        (do forM (ts.flatMap postorder) visit; return ts) := by
      induction ts with
      | nil => simp
      | cons c ts ihts =>
        simp only [List.mapM_cons, ihts, List.flatMap_cons, List.forM_append, bind_assoc, pure_bind]
    rw [bottomUpM_eq, mapM_congr ih, hchildren, postorder_eq]
    simp

theorem mapChildrenM_pure (f : Term → Term) (t : Term) :
    t.mapChildrenM (m := m) (fun u => pure (f u)) = pure (t.mapChildren f) := by
  cases t <;> simp [mapChildrenM, mapChildren]

/-- With an action that only computes, rebuilding only computes. -/
theorem bottomUpM_pure (f : Term → Term) (t : Term) :
    t.bottomUpM (m := m) (fun u => pure (f u)) = pure (t.bottomUp f) := by
  induction t using children_induction with
  | step t ih =>
    have hnode : t.withChildren (t.children.map (bottomUp f)) = t.mapChildren (bottomUp f) := by
      cases t <;> rfl
    rw [bottomUpM_eq, mapM_congr ih, List.mapM_pure, pure_bind, hnode, bottomUp_eq f t]

end Actions

theorem mapChildren_id (t : Term) : t.mapChildren id = t := mapChildren_eq_self fun _ _ => rfl

theorem bottomUp_id (t : Term) : t.bottomUp id = t := by
  induction t using children_induction with
  | step t ih => rw [bottomUp_eq, id, mapChildren_eq_self ih]

/-! ## Counting and renaming -/

/-- Counts the node if it is a variable. -/
def tallyNode (t : Term) : StateM (KeyMap Nat) Unit :=
  modify fun counts => t.varName?.elim counts (tally counts)

/-- Variables are counted by a visit of the term. -/
theorem run_visitM_tallyNode (t : Term) (counts : KeyMap Nat) :
    (t.visitM tallyNode).run counts = ((), t.countVariables counts) := by
  have hnodes (ts : List Term) (counts : KeyMap Nat) :
      (forM ts tallyNode).run counts = ((), (ts.filterMap varName?).foldl tally counts) := by
    induction ts generalizing counts with
    | nil => rfl
    | cons t ts ih =>
      cases hname : t.varName? <;> simp [tallyNode, hname, ih]
  rw [visitM_eq_forM_preorder, hnodes, countVariables, varNames]

theorem find?_foldl_tally (names : List String) (counts : KeyMap Nat) (name : String) :
    (names.foldl tally counts).find? name =
      if names.count name = 0 then counts.find? name
      else some ((counts.find? name).getD 0 + names.count name) := by
  induction names generalizing counts with
  | nil => simp
  | cons first names ih =>
    rw [List.foldl_cons, ih, tally, KeyMap.find?_insert, List.count_cons]
    by_cases hname : name = first
    · subst hname
      by_cases hcount : names.count name = 0
      · simp [hcount]
      · simp [hcount]
        omega
    · simp [hname, Ne.symm hname]

theorem find?_countVariables (t : Term) (counts : KeyMap Nat) (name : String) :
    (t.countVariables counts).find? name =
      if t.occurrences name = 0 then counts.find? name
      else some ((counts.find? name).getD 0 + t.occurrences name) :=
  find?_foldl_tally t.varNames counts name

/-- If `x` gets the name of another variable, its occurrences become occurrences of that one. -/
theorem occurrences_rename_update (t : Term) {x y : String} (hxy : x ≠ y) (z : String) :
    (t.rename (Function.update id x y)).occurrences z =
      if z = x then 0 else if z = y then t.occurrences x + t.occurrences y else t.occurrences z := by
  rw [occurrences, varNames_rename, occurrences, occurrences, occurrences]
  induction t.varNames with
  | nil => simp
  | cons name names ih =>
    simp only [List.map_cons, List.count_cons, ih, Function.update_apply, beq_iff_eq, id]
    grind

/-- A visit and a rebuilding run their actions once on each node, in pre-order and in post-order, which list the same
nodes. Rebuilding follows the nodes of the term only, whatever the action makes of them, and gives the term back if
the action gives each node back. A count adds its occurrences to each variable, and if one variable is renamed to
another one, then its occurrences become those of the other one, and no other variable is concerned. -/
theorem traversals_agree_on_nodes {m : Type → Type} [Monad m] [LawfulMonad m] (t : Term) :
    (∀ visit : Term → m Unit, t.visitM visit = forM t.preorder visit) ∧
    (∀ (f : Term → m Term) (results : List Term), t.postorder.foldlM (rebuildStep f) results =
      (do let result ← t.bottomUpM f; return result :: results)) ∧
    (∀ visit : Term → m Unit, t.bottomUpM (fun u => do visit u; return u) =
      (do forM t.postorder visit; return t)) ∧
    t.postorder.Perm t.preorder ∧
    t.bottomUpM (m := m) pure = pure t ∧ t.mapChildrenM (m := m) pure = pure t ∧
    (∀ counts, (t.visitM tallyNode).run counts = ((), t.countVariables counts)) ∧
    (∀ counts name, (t.countVariables counts).find? name =
      if t.occurrences name = 0 then counts.find? name
      else some ((counts.find? name).getD 0 + t.occurrences name)) ∧
    (∀ x y, x ≠ y → ∀ s, s = Function.update id x y →
      t.bottomUpM (m := m) (fun u => pure (u.renameVar s)) = pure (t.rename s) ∧
      (t.rename s).occurrences x = 0 ∧ (t.rename s).occurrences y = t.occurrences x + t.occurrences y ∧
      ∀ z, z ≠ x → z ≠ y → (t.rename s).occurrences z = t.occurrences z) := by
  refine ⟨fun visit => visitM_eq_forM_preorder visit t, fun f => foldlM_rebuildStep_postorder f t,
    fun visit => bottomUpM_visit visit t, t.postorder_perm_preorder, ?_, ?_, t.run_visitM_tallyNode,
    t.find?_countVariables, ?_⟩
  · exact (bottomUpM_pure id t).trans (congrArg pure t.bottomUp_id)
  · exact (mapChildrenM_pure id t).trans (congrArg pure t.mapChildren_id)
  · rintro x y hxy s rfl
    have hoccurs := occurrences_rename_update t hxy
    refine ⟨bottomUpM_pure _ t, ?_, ?_, fun z hx hy => ?_⟩
    · simp [hoccurs]
    · simp [hoccurs, hxy.symm]
    · simp [hoccurs, hx, hy]

def rewritingTerm : Term :=
  .apply "f" [.var "X", .sequence [.var "X", .rewrite (.var "Y") (.token "1" "Int")]]

/-- Notes the node and puts a label on it. -/
def wrapNoting (u : Term) : StateM (List Term) Term := do
  modify (· ++ [u])
  return .apply "g" [u]

/-- Nodes that the action has built are arguments of its later calls, and never nodes of their own. -/
theorem traversals_agree_on_nodes_rewritingTerm :
    LawfulMonad (StateM (List Term)) ∧
      ((rewritingTerm.bottomUpM wrapNoting).run []).2 =
        [.var "X", .var "X", .var "Y", .token "1" "Int",
          .rewrite (.apply "g" [.var "Y"]) (.apply "g" [.token "1" "Int"]),
          .sequence [.apply "g" [.var "X"],
            .apply "g" [.rewrite (.apply "g" [.var "Y"]) (.apply "g" [.token "1" "Int"])]],
          .apply "f" [.apply "g" [.var "X"], .apply "g" [.sequence [.apply "g" [.var "X"],
            .apply "g" [.rewrite (.apply "g" [.var "Y"]) (.apply "g" [.token "1" "Int"])]]]]] ∧
      (rewritingTerm.rename (Function.update id "X" "Y")).occurrences "X" = 0 ∧
      (rewritingTerm.rename (Function.update id "X" "Y")).occurrences "Y" = 3 := by
  obtain ⟨-, hrebuild, -, -, -, -, -, -, hrename⟩ :=
    traversals_agree_on_nodes (m := StateM (List Term)) rewritingTerm
  obtain ⟨-, hx, hy, -⟩ := hrename "X" "Y" (by decide) _ rfl
  refine ⟨inferInstance, ?_, hx, hy.trans (by decide)⟩
  have hrun := congrArg (fun run => (run.run []).2) (hrebuild wrapNoting [])
  exact hrun.symm.trans (by decide)

end KDispatch.Term
