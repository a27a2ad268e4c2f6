import KDispatch.Proofs.Json.Value
import Mathlib.Data.List.Forall2

/-!
The forms that encoded values have. Names, lists and options are encoded alike in terms, sentences and modules;
lists and options are members of objects, which may be absent. A value is in object form if it has an object
wherever a node or a record is looked for.
-/

namespace KDispatch.Json

variable {α : Type} {encodes encodes' : Json → α → Prop} {decode : Json → Option α} {field : Option Json}
  {value : Json}

/-- Whether a value is an object with a tag. -/
def HasTag (value : Json) (tag : String) : Prop := value.member? "node" = some (.string tag)

theorem isObject_of_member? {key : String} {inner : Json} (h : value.member? key = some inner) :
    value.isObject = true := by
  cases value with
  | object members => rfl
  | null | bool _ | number _ | string _ | array _ => contradiction

theorem eq_object_of_isObject (h : value.isObject = true) : ∃ members, value = .object members := by
  cases value with
  | object members => exact ⟨members, rfl⟩
  | null | bool _ | number _ | string _ | array _ => contradiction

/-- A node with a string for its tag is read by its tag. -/
theorem node?_of_hasTag {tag : String} (htag : value.HasTag tag) :
    value.node? = some (.string tag, value) := by
  obtain ⟨members, rfl⟩ := eq_object_of_isObject (isObject_of_member? htag)
  have hnode : members.lookup "node" = some (.string tag) := htag
  simp [node?, hnode]

theorem node?_of_no_tag {members : List (String × Json)} (h : (Json.object members).member? "node" = none) :
    (Json.object members).node? = none := by
  have hnode : members.lookup "node" = none := h
  simp [node?, hnode]

/-! ## Names -/

/-- A name is encoded by itself, and by any object that has it as its member `name`. -/
inductive EncodesName : Json → String → Prop
  | bare {name : String} : EncodesName (.string name) name
  | node {value : Json} {name : String} (h : value.member? "name" = some (.string name)) :
      EncodesName value name

theorem name?_eq_some_iff {name : String} : value.name? = some name ↔ value.EncodesName name := by
  constructor
  · intro h
    cases value with
    | string text =>
      obtain rfl := Option.some.inj h
      exact .bare
    | object members => exact .node (bind_string?_eq_some_iff.1 h)
    | null | bool _ | number _ | array _ => contradiction
  · intro h
    cases h with
    | bare => rfl
    | node h =>
      obtain ⟨members, rfl⟩ := eq_object_of_isObject (isObject_of_member? h)
      exact bind_string?_eq_some_iff.2 h

/-! ## Lists -/

/-- A list is encoded by an array of encodings in the same order, and the empty list also by an absent member. -/
inductive EncodesList (encodes : Json → α → Prop) : Option Json → List α → Prop
  | absent : EncodesList encodes none []
  | array {values : List Json} {xs : List α} (h : List.Forall₂ encodes values xs) :
      EncodesList encodes (some (.array values)) xs

theorem forall₂_imp {values : List Json} {xs : List α} (h : List.Forall₂ encodes values xs)
    (himp : ∀ v ∈ values, ∀ x ∈ xs, encodes v x → encodes' v x) : List.Forall₂ encodes' values xs := by
  rw [List.forall₂_iff_zip] at h ⊢
  refine ⟨h.1, fun hmem => ?_⟩
  obtain ⟨hvalue, hx⟩ := List.of_mem_zip hmem
  exact himp _ hvalue _ hx (h.2 hmem)

theorem EncodesList.imp {xs : List α} (h : EncodesList encodes field xs)
    (himp : ∀ values, field = some (.array values) → ∀ v ∈ values, ∀ x ∈ xs, encodes v x → encodes' v x) :
    EncodesList encodes' field xs := by
  cases h with
  | absent => exact .absent
  | array h => exact .array (forall₂_imp h (himp _ rfl))

theorem mapM_eq_some_iff {values : List Json} {xs : List α} :
    values.mapM decode = some xs ↔ List.Forall₂ (fun v x => decode v = some x) values xs := by
  induction values generalizing xs with
  | nil => simp [eq_comm]
  | cons v values ih =>
    simp only [List.mapM_cons, Option.bind_eq_bind, Option.bind_eq_some_iff, Option.pure_def, Option.some.injEq,
      ih, List.forall₂_cons_left_iff]
    grind

theorem list?_eq_some_iff {xs : List α} : list? decode value = some xs ↔
    ∃ values, value = .array values ∧ List.Forall₂ (fun v x => decode v = some x) values xs := by
  cases value with
  | array values => simp [list?, mapM_eq_some_iff]
  | null | bool _ | number _ | string _ | object _ => simp [list?]

theorem orDefault_list?_eq_some_iff {xs : List α} :
    orDefault [] (list? decode) field = some xs ↔ EncodesList (fun v x => decode v = some x) field xs := by
  constructor
  · intro h
    cases field with
    | none =>
      obtain rfl := Option.some.inj h
      exact .absent
    | some value =>
      obtain ⟨values, rfl, hvalues⟩ := list?_eq_some_iff.1 h
      exact .array hvalues
  · intro h
    cases h with
    | absent => rfl
    | array h => exact list?_eq_some_iff.2 ⟨_, rfl, h⟩

/-- Items that are decoded exactly from their encodings make up lists that are. -/
theorem orDefault_list?_iff_encodesList {xs : List α}
    (h : ∀ values, field = some (.array values) → ∀ v ∈ values, ∀ x, decode v = some x ↔ encodes v x) :
    orDefault [] (list? decode) field = some xs ↔ EncodesList encodes field xs := by
  rw [orDefault_list?_eq_some_iff]
  exact ⟨fun hlist => hlist.imp fun values hfield v hv x _ => (h values hfield v hv x).1,
    fun hlist => hlist.imp fun values hfield v hv x _ => (h values hfield v hv x).2⟩

/-! ## Options -/

/-- Nothing is encoded by an absent member and by null. -/
inductive EncodesOption (encodes : Json → α → Prop) : Option Json → Option α → Prop
  | absent : EncodesOption encodes none none
  | null : EncodesOption encodes (some .null) none
  | present {value : Json} {x : α} (h : encodes value x) : EncodesOption encodes (some value) (some x)

theorem EncodesOption.imp {x? : Option α} (h : EncodesOption encodes field x?)
    (himp : ∀ v, field = some v → ∀ x, encodes v x → encodes' v x) : EncodesOption encodes' field x? := by
  cases h with
  | absent => exact .absent
  | null => exact .null
  | present h => exact .present (himp _ rfl _ h)

/-- Null has to be no encoding itself. -/
theorem orNull_eq_some_iff {x? : Option α} (hnull : decode .null = none) :
    orNull decode field = some x? ↔ EncodesOption (fun v x => decode v = some x) field x? := by
  constructor
  · intro h
    unfold orNull at h
    split at h
    · obtain rfl := Option.some.inj h
      exact .absent
    · obtain rfl := Option.some.inj h
      exact .null
    · obtain ⟨x, hx, rfl⟩ := Option.map_eq_some_iff.1 h
      exact .present hx
  · intro h
    cases h with
    | absent => rfl
    | null => rfl
    | @present value x h =>
      cases value with
      | null => simp [hnull] at h
      | bool _ | number _ | string _ | array _ | object _ => simp [orNull, h]

/-- Values that are decoded exactly from their encodings make up options that are. -/
theorem orNull_iff_encodesOption {x? : Option α} (hnull : decode .null = none) (hencodes : ∀ x, ¬ encodes .null x)
    (h : ∀ v, field = some v → v ≠ .null → ∀ x, decode v = some x ↔ encodes v x) :
    orNull decode field = some x? ↔ EncodesOption encodes field x? := by
  rw [orNull_eq_some_iff hnull]
  constructor
  · refine fun hoption => hoption.imp fun v hfield x hx => (h v hfield ?_ x).1 hx
    rintro rfl
    simp [hnull] at hx
  · refine fun hoption => hoption.imp fun v hfield x hx => (h v hfield ?_ x).2 hx
    rintro rfl
    exact hencodes x hx

theorem not_encodesName_null (name : String) : ¬ EncodesName .null name := fun h => by
  have hname := name?_eq_some_iff.2 h
  contradiction

end KDispatch.Json

/-! ## Object form

Values in object form: wherever a node or a record is looked for there is an object, and its tag, if there is one,
is a string. Where nodes and records are looked for depends on the tags; what stands elsewhere is not asked for.
-/

namespace KDispatch

/-- What a value can be read as. -/
inductive Shape where
  | term
  | rule
  | item
  | production
  | sentence
  | flatModule
  | definition
  deriving DecidableEq

namespace Shape

/-- Whether the values of a shape are told apart by tags. -/
def IsTagged : Shape → Prop
  | .term | .item | .sentence => True
  | .rule | .production | .flatModule | .definition => False

/-- Where a value of a shape holds further nodes and records. Conditions of rules may be null. -/
inductive Holds : Shape → Json → Shape → Json → Prop
  | argument {value arg : Json} {args : List Json} (htag : value.HasTag "KApply")
      (h : value.member? "args" = some (.array args)) (harg : arg ∈ args) : Holds .term value .term arg
  | pattern {value inner : Json} (htag : value.HasTag "KAs") (h : value.member? "pattern" = some inner) :
      Holds .term value .term inner
  | binder {value inner : Json} (htag : value.HasTag "KAs") (h : value.member? "alias" = some inner) :
      Holds .term value .term inner
  | lhs {value inner : Json} (htag : value.HasTag "KRewrite") (h : value.member? "lhs" = some inner) :
      Holds .term value .term inner
  | rhs {value inner : Json} (htag : value.HasTag "KRewrite") (h : value.member? "rhs" = some inner) :
      Holds .term value .term inner
  | step {value inner : Json} {items : List Json} (htag : value.HasTag "KSequence")
      (h : value.member? "items" = some (.array items)) (hinner : inner ∈ items) :
      Holds .term value .term inner
  | body {value inner : Json} (h : value.member? "body" = some inner) : Holds .rule value .term inner
  | requires {value inner : Json} (h : value.member? "requires" = some inner) (hinner : inner ≠ .null) :
      Holds .rule value .term inner
  | ensures {value inner : Json} (h : value.member? "ensures" = some inner) (hinner : inner ≠ .null) :
      Holds .rule value .term inner
  | item {value inner : Json} {items : List Json} (h : value.member? "productionItems" = some (.array items))
      (hinner : inner ∈ items) : Holds .production value .item inner
  | production {value : Json} (htag : value.HasTag "KProduction") : Holds .sentence value .production value
  | rule {value : Json} (htag : value.HasTag "KRule") : Holds .sentence value .rule value
  | sentence {value inner : Json} {sentences : List Json}
      (h : value.member? "localSentences" = some (.array sentences)) (hinner : inner ∈ sentences) :
      Holds .flatModule value .sentence inner
  | flatModule {value inner : Json} {modules : List Json}
      (h : value.member? "modules" = some (.array modules)) (hinner : inner ∈ modules) :
      Holds .definition value .flatModule inner

end Shape

/-- Whether a value has object form as a value of a shape. -/
inductive InObjectForm : Shape → Json → Prop
  | intro {shape : Shape} {value : Json} (isObject : value.isObject = true)
      (tag : shape.IsTagged → ∀ tag, value.member? "node" = some tag → ∃ name, tag = .string name)
      (inside : ∀ shape' value', shape.Holds value shape' value' → InObjectForm shape' value') :
      InObjectForm shape value

namespace InObjectForm

variable {shape shape' : Shape} {value value' : Json}

theorem eq_object (h : InObjectForm shape value) : ∃ members, value = .object members := by
  cases h with
  | intro isObject _ _ => exact Json.eq_object_of_isObject isObject

theorem inside (h : InObjectForm shape value) (hholds : shape.Holds value shape' value') :
    InObjectForm shape' value' := by
  cases h with
  | intro _ _ inside => exact inside _ _ hholds

/-- In object form, a value has a tag or no member for it at all. -/
theorem member?_node (h : InObjectForm shape value) (htagged : shape.IsTagged) :
    value.member? "node" = none ∨ ∃ tag, value.HasTag tag := by
  cases h with
  | intro _ tag _ =>
    cases hnode : value.member? "node" with
    | none => exact .inl rfl
    | some node =>
      obtain ⟨name, rfl⟩ := tag htagged node hnode
      exact .inr ⟨name, hnode⟩

end InObjectForm

end KDispatch
