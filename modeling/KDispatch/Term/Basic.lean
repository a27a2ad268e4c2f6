/-!
KAST terms: variables, tokens, applications of labels, patterns with an alias, rewrites and
computation sequences, with decidable equality and an induction principle over argument lists.
-/

namespace KDispatch

inductive Term where
  | var (name : String)
  | token (text : String) (sort : String)
  | apply (label : String) (args : List Term)
  /-- A pattern whose match is bound to an alias. -/
  | asPattern (pattern : Term) (binder : Term)
  | rewrite (lhs : Term) (rhs : Term)
  /-- A computation, in execution order. -/
  | sequence (items : List Term)

/-- Whether a label names a configuration cell, such as `<k>`. -/
def isCellLabel (label : String) : Bool :=
  let cs := label.toList
  2 < cs.length && cs.head? == some '<' && cs.getLast? == some '>'

/-- Whether a label starts with the given text. -/
def hasLabelStart (start label : String) : Bool := start.toList.isPrefixOf label.toList

namespace Term

instance : Inhabited Term := ⟨.sequence []⟩

mutual

/-- Whether two terms are the same. -/
def same : Term → Term → Bool
  | .var x, .var y => x == y
  | .token x s, .token y t => x == y && s == t
  | .apply l as, .apply m bs => l == m && sameAll as bs
  | .asPattern p x, .asPattern q y => same p q && same x y
  | .rewrite l r, .rewrite m s => same l m && same r s
  | .sequence as, .sequence bs => sameAll as bs
  | _, _ => false

def sameAll : List Term → List Term → Bool
  | [], [] => true
  | a :: as, b :: bs => same a b && sameAll as bs
  | _, _ => false

end

mutual

theorem same_iff : ∀ {a b : Term}, same a b = true ↔ a = b
  | .var _, b => by cases b <;> simp [same]
  | .token _ _, b => by cases b <;> simp [same]
  | .apply _ _, b => by cases b <;> simp [same, sameAll_iff]
  | .asPattern _ _, b => by cases b <;> simp [same, same_iff]
  | .rewrite _ _, b => by cases b <;> simp [same, same_iff]
  | .sequence _, b => by cases b <;> simp [same, sameAll_iff]

theorem sameAll_iff : ∀ {as bs : List Term}, sameAll as bs = true ↔ as = bs
  | [], bs => by cases bs <;> simp [sameAll]
  | a :: as, bs => by cases bs <;> simp [sameAll, same_iff, sameAll_iff]

end

instance : DecidableEq Term := fun _ _ => decidable_of_iff _ same_iff

/-- Induction over terms, with the hypothesis for every argument and every item. -/
@[elab_as_elim, induction_eliminator]
theorem induction {P : Term → Prop} (var : ∀ name, P (.var name))
    (token : ∀ text sort, P (.token text sort))
    (apply : ∀ label args, (∀ a ∈ args, P a) → P (.apply label args))
    (asPattern : ∀ pattern binder, P pattern → P binder → P (.asPattern pattern binder))
    (rewrite : ∀ lhs rhs, P lhs → P rhs → P (.rewrite lhs rhs))
    (sequence : ∀ items, (∀ a ∈ items, P a) → P (.sequence items)) (t : Term) : P t :=
  @Term.rec P (fun ts => ∀ a ∈ ts, P a) var token apply asPattern rewrite
    sequence (by simp) (fun _ _ h hs => by simpa using ⟨h, hs⟩) t

/-- The text that stands for an elided part of a cell. -/
def dotsText : String := "..."

def dots : Term := .token dotsText "K"

/-- Tokens of any sort with the text of dots count as dots. -/
def isDots : Term → Bool
  | .token text _ => text == dotsText
  | _ => false

def isCell : Term → Bool
  | .apply label _ => isCellLabel label
  | _ => false

/-- The direct subterms, from left to right. -/
def children : Term → List Term
  | .var _ => []
  | .token _ _ => []
  | .apply _ args => args
  | .asPattern pattern binder => [pattern, binder]
  | .rewrite lhs rhs => [lhs, rhs]
  | .sequence items => items

@[simp] theorem children_var (name : String) : (var name).children = [] := rfl

@[simp] theorem children_token (text sort : String) : (token text sort).children = [] := rfl

@[simp] theorem children_apply (label : String) (args : List Term) : (apply label args).children = args := rfl

@[simp] theorem children_asPattern (pattern binder : Term) :
    (asPattern pattern binder).children = [pattern, binder] := rfl

@[simp] theorem children_rewrite (lhs rhs : Term) : (rewrite lhs rhs).children = [lhs, rhs] := rfl

@[simp] theorem children_sequence (items : List Term) : (sequence items).children = items := rfl

end Term

end KDispatch
