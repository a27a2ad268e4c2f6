import KDispatch.Proofs.Term.Casts
import KDispatch.Term.Passes

/-!
Simplified side conditions. A simplified condition is the chain of the conjuncts that are not trivially
true, in their order: it has the truth value of the condition under every valuation, its variables and its
casts, and it is simplified to itself.
-/

namespace KDispatch.Condition

theorem conjuncts_apply (label : String) (args : List Term) :
    conjuncts (.apply label args) =
      if label = conjunctionLabel then args.flatMap conjuncts else [.apply label args] := by
  rw [conjuncts, conjunctsAll_eq_flatMap]

def isConjunction : Term → Bool
  | .apply label _ => label == conjunctionLabel
  | _ => false

theorem conjuncts_of_not_isConjunction {t : Term} (h : isConjunction t = false) :
    conjuncts t = [t] := by
  cases t with
  | apply label args =>
      have hlabel : label ≠ conjunctionLabel := by simpa [isConjunction] using h
      rw [conjuncts_apply, if_neg hlabel]
  | _ => rfl

theorem isConjunction_of_mem_conjuncts {t c : Term} (h : t ∈ conjuncts c) :
    isConjunction t = false := by
  induction c with
  | apply label args ih =>
      rw [conjuncts_apply] at h
      split at h
      case isTrue =>
          obtain ⟨a, ha, h⟩ := List.mem_flatMap.1 h
          exact ih a ha h
      case isFalse hlabel =>
          obtain rfl := List.mem_singleton.1 h
          simpa [isConjunction] using hlabel
  | _ =>
      obtain rfl := List.mem_singleton.1 h
      rfl

/-- Conjunctions of two arguments, nested to the left, of the given terms, which are no conjunctions. -/
inductive Chain : List Term → Term → Prop
  | single {t : Term} (h : isConjunction t = false) : Chain [t] t
  | and {ts : List Term} {c t : Term} (hc : Chain ts c) (h : isConjunction t = false) :
      Chain (ts ++ [t]) (.apply conjunctionLabel [c, t])

theorem Chain.conjuncts_eq {ts : List Term} {c : Term} (h : Chain ts c) : conjuncts c = ts := by
  induction h with
  | single h => exact conjuncts_of_not_isConjunction h
  | and hc h ih => simp [conjuncts_apply, ih, conjuncts_of_not_isConjunction h]

/-- Each further term is put at the end of the chain. -/
theorem Chain.foldl {us : List Term} {c : Term} (hc : Chain us c) {ts : List Term}
    (hts : ∀ t ∈ ts, isConjunction t = false) : Chain (us ++ ts) (ts.foldl Condition.and c) := by
  induction ts generalizing us c with
  | nil => rwa [List.append_nil]
  | cons t ts ih =>
      rw [List.forall_mem_cons] at hts
      rw [List.foldl_cons, List.append_cons]
      exact ih (hc.and hts.1) hts.2

theorem chain_of_conjunction? {ts : List Term} {c : Term}
    (hts : ∀ t ∈ ts, isConjunction t = false) (h : conjunction? ts = some c) : Chain ts c := by
  cases ts with
  | nil => cases h
  | cons t ts =>
      rw [List.forall_mem_cons] at hts
      obtain rfl := Option.some.inj h
      exact (Chain.single hts.1).foldl hts.2

theorem chain_of_simplify? {condition c : Term} (h : simplify? condition = some c) :
    Chain ((conjuncts condition).filter (!isTriviallyTrue ·)) c :=
  chain_of_conjunction?
    (fun _ ht => isConjunction_of_mem_conjuncts (List.mem_of_mem_filter ht)) h

theorem conjuncts_of_simplify? {condition c : Term} (h : simplify? condition = some c) :
    conjuncts c = (conjuncts condition).filter (!isTriviallyTrue ·) :=
  (chain_of_simplify? h).conjuncts_eq

theorem simplify?_eq_none_iff {condition : Term} :
    simplify? condition = none ↔ (conjuncts condition).filter (!isTriviallyTrue ·) = [] := by
  rw [simplify?]
  cases (conjuncts condition).filter (!isTriviallyTrue ·) <;> simp [conjunction?]

/-- The simplified condition, if there is one, has the conjuncts that are not trivially true. -/
theorem flatMap_conjuncts_simplify? (condition : Term) :
    (simplify? condition).toList.flatMap conjuncts =
      (conjuncts condition).filter (!isTriviallyTrue ·) := by
  cases h : simplify? condition with
  | none => exact (simplify?_eq_none_iff.1 h).symm
  | some c => simp [conjuncts_of_simplify? h]

theorem simplify?_of_simplify? {condition c : Term} (h : simplify? condition = some c) :
    simplify? c = some c := by
  rw [simplify?, conjuncts_of_simplify? h, List.filter_filter]
  simp only [Bool.and_self]
  exact h

/-- An optional condition is simplified by one run. -/
theorem bind_simplify?_bind_simplify? (condition : Option Term) :
    (condition.bind simplify?).bind simplify? = condition.bind simplify? := by
  cases h : condition.bind simplify? with
  | none => rfl
  | some c =>
      obtain ⟨d, -, hd⟩ := Option.bind_eq_some_iff.1 h
      exact simplify?_of_simplify? hd

section Parts

variable {β : Type} {g : Term → List β}

/-- What is read off conjunctions argument by argument is read off the conjuncts. -/
theorem flatMap_conjuncts (hand : ∀ args, g (.apply conjunctionLabel args) = args.flatMap g)
    (t : Term) : (conjuncts t).flatMap g = g t := by
  induction t with
  | apply label args ih =>
      rw [conjuncts_apply]
      split
      case isTrue hlabel =>
          rw [List.flatMap_assoc, hlabel, hand]
          exact List.flatMap_congr ih
      case isFalse => exact List.flatMap_singleton _ _
  | _ => exact List.flatMap_singleton _ _

theorem flatMap_filter_not_isTriviallyTrue (htrue : ∀ t, isTriviallyTrue t → g t = [])
    (ts : List Term) : (ts.filter (!isTriviallyTrue ·)).flatMap g = ts.flatMap g := by
  induction ts with
  | nil => rfl
  | cons t ts ih =>
      cases h : isTriviallyTrue t with
      | false => simp [h, ih]
      | true => simp [h, ih, htrue t h]

/-- If moreover nothing is read off trivially true terms, simplification leaves all that is read. -/
theorem flatMap_simplify? (hand : ∀ args, g (.apply conjunctionLabel args) = args.flatMap g)
    (htrue : ∀ t, isTriviallyTrue t → g t = []) (t : Term) :
    (simplify? t).toList.flatMap g = g t := by
  calc
    (simplify? t).toList.flatMap g = ((simplify? t).toList.flatMap conjuncts).flatMap g := by
      rw [List.flatMap_assoc]
      exact List.flatMap_congr fun c _ => (flatMap_conjuncts hand c).symm
    _ = (conjuncts t).flatMap g := by
      rw [flatMap_conjuncts_simplify?, flatMap_filter_not_isTriviallyTrue htrue]
    _ = g t := flatMap_conjuncts hand t

theorem varNames_of_isTriviallyTrue (t : Term) (h : isTriviallyTrue t) : t.varNames = [] := by
  cases t <;> simp_all [isTriviallyTrue]

/-- A variable occurs in a condition exactly if it occurs in the simplified one. -/
theorem all_occurrences_bind_simplify? (name : String) (condition : Option Term) :
    (condition.bind simplify?).all (·.occurrences name == 0) ↔
      ∀ t ∈ condition, t.occurrences name = 0 := by
  cases condition with
  | none => simp
  | some t =>
      simp only [Option.bind_some, Option.mem_some_iff, forall_eq', Term.occurrences]
      rw [← flatMap_simplify? (Term.varNames_apply conjunctionLabel) varNames_of_isTriviallyTrue t]
      cases simplify? t <;> simp

end Parts

section Casts

theorem casts_conjunction (args : List Term) :
    (Term.apply conjunctionLabel args).casts = args.flatMap Term.casts := by
  have hlabel : Term.isCastLabel conjunctionLabel = false := by decide
  exact Term.casts_of_not_isCast (by simp [Term.isCast, hlabel])

theorem casts_of_isTriviallyTrue (t : Term) (h : isTriviallyTrue t) : t.casts = [] := by
  cases t with
  | token => rfl
  | apply label args =>
      obtain ⟨rfl, rfl⟩ : label = "#True" ∧ args = [] := by simpa [isTriviallyTrue] using h
      rfl
  | _ => cases h

/-- The conjuncts that are dropped hold no cast, and the others stay as they are. -/
theorem casts_simplify? (t : Term) : (simplify? t).toList.flatMap Term.casts = t.casts :=
  flatMap_simplify? casts_conjunction casts_of_isTriviallyTrue t

/-- The casts in a condition, if there is one. -/
def casts (condition : Option Term) : List Term := condition.toList.flatMap Term.casts

theorem casts_bind_simplify? (condition : Option Term) :
    casts (condition.bind simplify?) = casts condition := by
  cases condition with
  | none => rfl
  | some t => simp [casts, casts_simplify?]

theorem castFree_iff {condition : Option Term} :
    (∀ t ∈ condition, t.CastFree) ↔ casts condition = [] := by
  cases condition with
  | none => simp [casts]
  | some t => simp [casts, Term.castFree_iff_casts_eq_nil]

theorem castFree_bind_simplify?_iff {condition : Option Term} :
    (∀ t ∈ condition.bind simplify?, t.CastFree) ↔ ∀ t ∈ condition, t.CastFree := by
  rw [castFree_iff, casts_bind_simplify?, castFree_iff]

end Casts

section Signatures

variable {signature : Signature}

theorem over_of_mem_conjuncts {c t : Term} (h : c.Over signature) (ht : t ∈ conjuncts c) :
    t.Over signature := by
  induction c with
  | apply label args ih =>
      rw [conjuncts_apply] at ht
      split at ht
      case isTrue =>
          obtain ⟨a, ha, ht⟩ := List.mem_flatMap.1 ht
          exact ih a ha (((Term.over_apply _ _).1 h).2 a ha) ht
      case isFalse =>
          obtain rfl := List.mem_singleton.1 ht
          exact h
  | _ =>
      obtain rfl := List.mem_singleton.1 ht
      exact h

theorem Chain.over {ts : List Term} {c : Term} (hc : Chain ts c) (hand : signature conjunctionLabel 2)
    (hts : ∀ t ∈ ts, t.Over signature) : c.Over signature := by
  induction hc with
  | single => exact hts _ (List.mem_singleton_self _)
  | @and ts c t _ _ ih =>
      rw [List.forall_mem_append, List.forall_mem_singleton] at hts
      have hparts : ∀ a ∈ [c, t], a.Over signature := by simp [ih hts.1, hts.2]
      exact (Term.over_apply _ _).2 ⟨hand, hparts⟩

/-- Conjunctions are put together anew, always of two arguments. -/
theorem over_of_simplify? {condition c : Term} (h : condition.Over signature)
    (hand : signature conjunctionLabel 2) (hc : simplify? condition = some c) : c.Over signature :=
  (chain_of_simplify? hc).over hand fun _ ht => over_of_mem_conjuncts h (List.mem_of_mem_filter ht)

end Signatures

/-- A truth value for every term, which the trivially true terms make true. -/
structure Valuation where
  holds : Term → Bool
  holds_of_isTriviallyTrue : ∀ t, isTriviallyTrue t → holds t

namespace Valuation

variable (v : Valuation)

mutual

/-- The valuation of conditions: a conjunction of any number of arguments is true if all of them are. -/
def truth : Term → Bool
  | .apply label args =>
    if label = conjunctionLabel then truthAll args else v.holds (.apply label args)
  | .var name => v.holds (.var name)
  | .token text sort => v.holds (.token text sort)
  | .asPattern pattern binder => v.holds (.asPattern pattern binder)
  | .rewrite lhs rhs => v.holds (.rewrite lhs rhs)
  | .sequence items => v.holds (.sequence items)

def truthAll : List Term → Bool
  | [] => true
  | t :: ts => truth t && truthAll ts

end

theorem truthAll_eq_all (ts : List Term) : v.truthAll ts = ts.all v.truth := by
  induction ts with
  | nil => rfl
  | cons t ts ih => rw [truthAll, ih, List.all_cons]

theorem truth_apply (label : String) (args : List Term) :
    v.truth (.apply label args) =
      if label = conjunctionLabel then args.all v.truth else v.holds (.apply label args) := by
  rw [truth, truthAll_eq_all]

/-- A condition is true if all its conjuncts are. -/
theorem truth_eq_all_conjuncts (t : Term) : v.truth t = (conjuncts t).all v.holds := by
  induction t with
  | apply label args ih =>
      rw [truth_apply, conjuncts_apply]
      split
      · rw [List.all_flatMap, Bool.eq_iff_iff, List.all_eq_true, List.all_eq_true]
        exact forall₂_congr fun a ha => by rw [ih a ha]
      · simp
  | _ => exact (Bool.and_true _).symm

/-- Conjuncts that are trivially true make no condition false. -/
theorem all_filter_not_isTriviallyTrue (ts : List Term) :
    (ts.filter (!isTriviallyTrue ·)).all v.holds = ts.all v.holds := by
  rw [List.all_filter, Bool.eq_iff_iff, List.all_eq_true, List.all_eq_true]
  refine forall₂_congr fun t _ => ?_
  cases h : isTriviallyTrue t with
  | false => simp
  | true => simp [v.holds_of_isTriviallyTrue t h]

theorem truth_simplify? (condition : Term) :
    (simplify? condition).all v.truth = v.truth condition := by
  calc
    (simplify? condition).all v.truth =
        ((simplify? condition).toList.flatMap conjuncts).all v.holds := by
      cases simplify? condition <;> simp [v.truth_eq_all_conjuncts]
    _ = (conjuncts condition).all v.holds := by
      rw [flatMap_conjuncts_simplify?, v.all_filter_not_isTriviallyTrue]
    _ = v.truth condition := (v.truth_eq_all_conjuncts condition).symm

end Valuation

/-- Simplification keeps the truth value of a condition under every valuation, where no condition counts
as true. What is left are the conjuncts that are not trivially true, in their order: no condition if there
are none, else a chain nested to the left, which is simplified to itself. -/
theorem simplify?_keeps_meaning (condition : Term) :
    (∀ v : Valuation, (simplify? condition).all v.truth = v.truth condition) ∧
      (simplify? condition).toList.flatMap conjuncts =
        (conjuncts condition).filter (!isTriviallyTrue ·) ∧
      (simplify? condition = none ↔ (conjuncts condition).filter (!isTriviallyTrue ·) = []) ∧
      ∀ c ∈ simplify? condition,
        Chain ((conjuncts condition).filter (!isTriviallyTrue ·)) c ∧ simplify? c = some c :=
  ⟨fun v => v.truth_simplify? condition, flatMap_conjuncts_simplify? condition,
    simplify?_eq_none_iff, fun _ h => ⟨chain_of_simplify? h, simplify?_of_simplify? h⟩⟩

/-- Conjunctions of three, two and no arguments, two conjuncts that are trivially true and three others. -/
def nestedCondition : Term :=
  .apply conjunctionLabel
    [.token "true" "Bool", .apply conjunctionLabel [.var "A", .apply conjunctionLabel []],
      .apply conjunctionLabel [.apply "#True" [], .var "B", .var "C"]]

/-- Of the terms that are not trivially true one alone is true. -/
def onlyA : Valuation := ⟨fun t => isTriviallyTrue t || t == .var "A", fun t h => by simp [h]⟩

theorem simplify?_keeps_meaning_nested :
    (simplify? nestedCondition).all onlyA.truth = false ∧
      Chain [.var "A", .var "B", .var "C"] (and (and (.var "A") (.var "B")) (.var "C")) ∧
      simplify? (and (and (.var "A") (.var "B")) (.var "C")) =
        some (and (and (.var "A") (.var "B")) (.var "C")) := by
  obtain ⟨hmeaning, -, -, hchain⟩ := simplify?_keeps_meaning nestedCondition
  have hsome : simplify? nestedCondition = some (and (and (.var "A") (.var "B")) (.var "C")) := by
    decide
  exact ⟨(hmeaning onlyA).trans (by decide), (hchain _ hsome).1, (hchain _ hsome).2⟩

end KDispatch.Condition
