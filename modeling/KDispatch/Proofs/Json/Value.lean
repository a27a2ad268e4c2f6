import KDispatch.Json.Value
import KDispatch.Proofs.KeyMap

/-!
The values inside a JSON value. A value as readers and writers keep it has the members of every object in
ascending order of keys, so that each key occurs once. A change at one place leaves everything beside it as it is.
-/

namespace KDispatch

theorem lookup_cons_eq_ite {α : Type} (key k : String) (x : α) (entries : List (String × α)) :
    List.lookup key ((k, x) :: entries) = if key = k then some x else entries.lookup key := by
  by_cases h : key = k
  · simp [h]
  · have hne : (key == k) = false := by simpa using h
    simp [List.lookup_cons, hne, h]

namespace Json

/-- The values directly inside a value. -/
def children : Json → List Json
  | .array items => items
  | .object members => members.map (·.2)
  | .null | .bool _ | .number _ | .string _ => []

@[simp] theorem children_array (items : List Json) : (array items).children = items := rfl

@[simp] theorem children_object (members : List (String × Json)) :
    (object members).children = members.map (·.2) := rfl

@[simp] theorem children_null : null.children = [] := rfl

@[simp] theorem children_bool (b : Bool) : (bool b).children = [] := rfl

@[simp] theorem children_number (n : Number) : (number n).children = [] := rfl

@[simp] theorem children_string (s : String) : (string s).children = [] := rfl

/-- Whether something holds of a value and of all values inside it. -/
inductive Everywhere (p : Json → Prop) : Json → Prop
  | intro {value : Json} (here : p value) (inside : ∀ child ∈ value.children, Everywhere p child) :
      Everywhere p value

/-- Whether the members of an object are in ascending order of keys. -/
def HasAscendingKeys (value : Json) : Prop :=
  ∀ members, value = .object members → members.Pairwise fun a b => Ordered.nameBefore a.1 b.1

/-- Whether all objects in a value have their members in ascending order of keys. -/
def IsOrdered (value : Json) : Prop := value.Everywhere HasAscendingKeys

variable {p : Json → Prop} {value inner : Json}

namespace Everywhere

theorem here (h : value.Everywhere p) : p value := by
  cases h
  assumption

theorem inside (h : value.Everywhere p) (hinner : inner ∈ value.children) : inner.Everywhere p := by
  cases h with
  | intro _ inside => exact inside inner hinner

theorem member (h : value.Everywhere p) {key : String} (hmember : value.member? key = some inner) :
    inner.Everywhere p := by
  cases value with
  | object members =>
    obtain ⟨before, after, rfl, -⟩ := List.lookup_eq_some_iff.1 hmember
    exact h.inside (by simp)
  | null | bool _ | number _ | string _ | array _ => contradiction

@[simp] theorem null_iff : null.Everywhere p ↔ p null := ⟨here, fun h => .intro h (by simp)⟩

@[simp] theorem bool_iff {b : Bool} : (bool b).Everywhere p ↔ p (bool b) :=
  ⟨here, fun h => .intro h (by simp)⟩

@[simp] theorem number_iff {n : Number} : (number n).Everywhere p ↔ p (number n) :=
  ⟨here, fun h => .intro h (by simp)⟩

@[simp] theorem string_iff {s : String} : (string s).Everywhere p ↔ p (string s) :=
  ⟨here, fun h => .intro h (by simp)⟩

@[simp] theorem array_iff {items : List Json} :
    (array items).Everywhere p ↔ p (array items) ∧ ∀ item ∈ items, item.Everywhere p :=
  ⟨fun h => ⟨h.here, fun _ hitem => h.inside hitem⟩, fun ⟨h, hitems⟩ => .intro h hitems⟩

@[simp] theorem object_iff {members : List (String × Json)} :
    (object members).Everywhere p ↔ p (object members) ∧ ∀ member ∈ members, member.2.Everywhere p := by
  constructor
  · exact fun h => ⟨h.here, fun member hmember => h.inside (List.mem_map_of_mem hmember)⟩
  · rintro ⟨h, hmembers⟩
    refine .intro h fun child hchild => ?_
    obtain ⟨member, hmember, rfl⟩ := List.mem_map.1 hchild
    exact hmembers member hmember

end Everywhere

@[simp] theorem hasAscendingKeys_object_iff {members : List (String × Json)} :
    (object members).HasAscendingKeys ↔ members.Pairwise fun a b => Ordered.nameBefore a.1 b.1 := by
  simp [HasAscendingKeys]

theorem IsOrdered.ascending {members : List (String × Json)} (h : (object members).IsOrdered) :
    members.Pairwise fun a b => Ordered.nameBefore a.1 b.1 := h.here members rfl

theorem isOrdered_of_mem_array {key : String} {values : List Json} (h : value.IsOrdered)
    (hmember : value.member? key = some (.array values)) (hinner : inner ∈ values) : inner.IsOrdered :=
  (h.member hmember).inside hinner

theorem isOrdered_array {items : List Json} (h : ∀ item ∈ items, item.IsOrdered) : (array items).IsOrdered :=
  .intro (fun _ hobject => nomatch hobject) h

theorem isOrdered_of_scalar (h : value.children = []) (hscalar : value.isObject = false) : value.IsOrdered := by
  refine .intro ?_ (by simp [h])
  rintro members rfl
  contradiction

end Json

end KDispatch

/-! ## Changes

One place of an encoded value is a field of a record, or a field of the record of a node. Records and nodes are
objects or arrays.
-/

namespace KDispatch.Json

variable {names : List String} {key : String} {tag value value' node node' record record' : Json}
  {fields : List (Option Json)}

/-- Whether two records are the same but for a field that both have: `value` in the one and `value'` in the other. -/
inductive ChangesField (names : List String) (key : String) (value value' : Json) : Json → Json → Prop
  | member {before after : List (String × Json)} (hbefore : ∀ member ∈ before, member.1 ≠ key) :
      ChangesField names key value value' (.object (before ++ (key, value) :: after))
        (.object (before ++ (key, value') :: after))
  | element {before after : List Json} (hposition : names[before.length]? = some key) :
      ChangesField names key value value' (.array (before ++ value :: after))
        (.array (before ++ value' :: after))

/-- Whether two nodes have the same tag, and their records are the same but for a field. -/
def ChangesNode (tag : Json) (names : List String) (key : String) (value value' node node' : Json) : Prop :=
  ∃ record record', node.node? = some (tag, record) ∧ node'.node? = some (tag, record') ∧
    ChangesField names key value value' record record'

theorem lookup_append_cons {before after : List (String × Json)} (hbefore : ∀ member ∈ before, member.1 ≠ key)
    (name : String) : (before ++ (key, value) :: after).lookup name =
      if name = key then some value else (before ++ after).lookup name := by
  induction before with
  | nil => rw [List.nil_append, lookup_cons_eq_ite, List.nil_append]
  | cons member before ih =>
    obtain ⟨hmember, hothers⟩ := List.forall_mem_cons.1 hbefore
    obtain ⟨first, inner⟩ := member
    rw [List.cons_append, lookup_cons_eq_ite, ih hothers, List.cons_append, lookup_cons_eq_ite]
    by_cases hfirst : name = first
    · subst hfirst
      rw [if_pos rfl, if_neg hmember, if_pos rfl]
    · simp only [if_neg hfirst]

/-- The other members of an object stay. -/
theorem ChangesField.member?_of_ne (h : ChangesField names key value value' record record') {name : String}
    (hname : name ≠ key) : record'.member? name = record.member? name := by
  cases h with
  | member hbefore => simp only [member?, lookup_append_cons hbefore, if_neg hname]
  | element hposition => rfl

/-- A change shows in the one field. -/
theorem ChangesField.fields? (h : ChangesField names key value value' record record') (hkey : key ∈ names)
    (hnodup : names.Nodup) (hfields : record.fields? names = some fields) :
    fields[names.idxOf key]? = some (some value) ∧
      record'.fields? names = some (fields.set (names.idxOf key) (some value')) := by
  cases h with
  | @member before after hbefore =>
    obtain rfl := Option.some.inj hfields
    have hindex := List.idxOf_lt_length_of_mem hkey
    refine ⟨?_, congrArg some (List.ext_getElem? fun i => ?_)⟩
    · rw [List.getElem?_map, List.getElem?_eq_getElem hindex, Option.map_some, List.getElem_idxOf,
        lookup_append_cons hbefore, if_pos rfl]
    · rw [List.getElem?_set, List.getElem?_map, List.getElem?_map, List.length_map]
      by_cases hi : names.idxOf key = i
      · subst hi
        rw [if_pos rfl, if_pos hindex, List.getElem?_eq_getElem hindex, Option.map_some, List.getElem_idxOf,
          lookup_append_cons hbefore, if_pos rfl]
      · rw [if_neg hi]
        -- the other names are found beside the changed member
        cases hname : names[i]? with
        | none => rfl
        | some name =>
          have hne : name ≠ key := by
            rintro rfl
            exact hi (by grind)
          simp only [Option.map_some, lookup_append_cons hbefore, if_neg hne]
  | @element before after hposition =>
    -- names occur once, so the element stands where its name does
    have hindex : names.idxOf key = before.length := by
      obtain ⟨hlt, rfl⟩ := List.getElem?_eq_some_iff.1 hposition
      exact hnodup.idxOf_getElem _ hlt
    have hlength : (before ++ value :: after).length = (before ++ value' :: after).length := by simp
    unfold Json.fields? at hfields ⊢
    dsimp only at hfields ⊢
    rw [hlength] at hfields
    split at hfields
    · obtain rfl := Option.some.inj hfields
      rw [if_pos ‹_›, hindex]
      simp
    · contradiction

/-! ## Decoding fields and items -/

theorem bind_string?_eq_some_iff {field : Option Json} {text : String} :
    field.bind string? = some text ↔ field = some (.string text) := by
  cases field with
  | none => simp
  | some value => cases value <;> simp [string?]

@[simp] theorem orDefault_none {α : Type} (default : α) (decode : Json → Option α) :
    orDefault default decode none = some default := rfl

@[simp] theorem orDefault_some {α : Type} (default : α) (decode : Json → Option α) (value : Json) :
    orDefault default decode (some value) = decode value := rfl

theorem orNull_of_ne_null {α : Type} {decode : Json → Option α} (h : value ≠ .null) :
    orNull decode (some value) = (decode value).map some := by
  cases value with
  | null => contradiction
  | bool _ | number _ | string _ | array _ | object _ => rfl

theorem isSome_of_orNull {α : Type} {decode : Json → Option α} {x? : Option α}
    (h : orNull decode (some value) = some x?) : value = .null ∨ (decode value).isSome := by
  by_cases hnull : value = .null
  · exact .inl hnull
  · rw [orNull_of_ne_null hnull] at h
    exact .inr (by simpa using congrArg Option.isSome h)

@[simp] theorem list?_array {α : Type} (decode : Json → Option α) (items : List Json) :
    list? decode (.array items) = items.mapM decode := rfl

theorem mapM_append_cons {α : Type} (decode : Json → Option α) (before : List Json) (value : Json)
    (after : List Json) : (before ++ value :: after).mapM decode = do
      let xs ← before.mapM decode
      let x ← decode value
      let ys ← after.mapM decode
      return xs ++ x :: ys := by
  simp [List.mapM_append, Option.bind_assoc]

theorem mapM_append_cons_eq_some_iff {α : Type} {decode : Json → Option α} {before after : List Json}
    {zs : List α} : (before ++ value :: after).mapM decode = some zs ↔
      ∃ xs x ys, before.mapM decode = some xs ∧ decode value = some x ∧ after.mapM decode = some ys ∧
        zs = xs ++ x :: ys := by
  simp only [mapM_append_cons, Option.bind_eq_bind, Option.bind_eq_some_iff, Option.pure_def, Option.some.injEq]
  grind

/-- Items among which there is one more are decoded like the items without it, if it is decoded itself. -/
theorem mapM_insert {α : Type} {decode : Json → Option α} {before after : List Json} {zs : List α} {x : α}
    (h : (before ++ after).mapM decode = some zs) (hvalue : decode value = some x) :
    ∃ xs ys, zs = xs ++ ys ∧ (before ++ value :: after).mapM decode = some (xs ++ x :: ys) := by
  rw [List.mapM_append] at h
  obtain ⟨xs, hbefore, h⟩ := Option.bind_eq_some_iff.1 h
  obtain ⟨ys, hafter, h⟩ := Option.bind_eq_some_iff.1 h
  refine ⟨xs, ys, (Option.some.inj h).symm, ?_⟩
  exact mapM_append_cons_eq_some_iff.2 ⟨xs, x, ys, hbefore, hvalue, hafter, rfl⟩

end KDispatch.Json
