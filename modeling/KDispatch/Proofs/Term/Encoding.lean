import KDispatch.Proofs.Kast.ObjectForm
import KDispatch.Term.Decode

/-!
Encodings of terms. In object form the decoder accepts exactly the encodings, with the terms that they encode;
tags are strings there, so it makes no difference whether positions are accepted in their place.
-/

namespace KDispatch.Term

/-- The encodings of terms as objects. Members that are not asked for may be anything. -/
inductive Encodes : Json → Term → Prop
  | var {value : Json} {name : String} (htag : value.HasTag "KVariable")
      (hname : value.member? "name" = some (.string name)) : Encodes value (.var name)
  | token {value encoded : Json} {text sort : String} (htag : value.HasTag "KToken")
      (htext : value.member? "token" = some (.string text)) (hmember : value.member? "sort" = some encoded)
      (hsort : encoded.EncodesName sort) : Encodes value (.token text sort)
  | apply {value encoded : Json} {label : String} {args : List Term} (htag : value.HasTag "KApply")
      (hmember : value.member? "label" = some encoded) (hlabel : encoded.EncodesName label)
      (hargs : Json.EncodesList Encodes (value.member? "args") args) : Encodes value (.apply label args)
  | asPattern {value first second : Json} {pattern binder : Term} (htag : value.HasTag "KAs")
      (hfirst : value.member? "pattern" = some first) (hpattern : Encodes first pattern)
      (hsecond : value.member? "alias" = some second) (hbinder : Encodes second binder) :
      Encodes value (.asPattern pattern binder)
  | rewrite {value first second : Json} {lhs rhs : Term} (htag : value.HasTag "KRewrite")
      (hfirst : value.member? "lhs" = some first) (hlhs : Encodes first lhs)
      (hsecond : value.member? "rhs" = some second) (hrhs : Encodes second rhs) :
      Encodes value (.rewrite lhs rhs)
  | sequence {value : Json} {items : List Term} (htag : value.HasTag "KSequence")
      (hitems : Json.EncodesList Encodes (value.member? "items") items) : Encodes value (.sequence items)

/-! ## The decoder on objects -/

theorem all?_eq (values : List Json) : all? values = values.mapM (ofJson? true) := by
  induction values with
  | nil => rfl
  | cons value values ih => simp [all?, ih]

theorem list?_eq (value : Json) : list? value = Json.list? (ofJson? true) value := by
  cases value with
  | array values => simp [list?, Json.list?, all?_eq]
  | null | bool _ | number _ | string _ | object _ => rfl

theorem member?_eq (key : String) (members : List (String × Json)) :
    member? key members = ((Json.object members).member? key).bind (ofJson? true) := by
  induction members with
  | nil => rfl
  | cons e members ih =>
    rw [Json.member?, lookup_cons_eq_ite, member?, ih]
    by_cases hkey : e.1 = key
    · simp [hkey]
    · simp [hkey, Ne.symm hkey, Json.member?]

theorem listMember?_eq (key : String) (members : List (String × Json)) : listMember? key members =
    Json.orDefault [] (Json.list? (ofJson? true)) ((Json.object members).member? key) := by
  induction members with
  | nil => rfl
  | cons e members ih =>
    rw [Json.member?, lookup_cons_eq_ite, listMember?, ih]
    by_cases hkey : e.1 = key
    · simp [hkey, list?_eq, Json.orDefault]
    · simp [hkey, Ne.symm hkey, Json.member?]

/-- The tag of a kind. -/
def Kind.tag : Kind → String
  | .var => "KVariable"
  | .token => "KToken"
  | .apply => "KApply"
  | .asPattern => "KAs"
  | .rewrite => "KRewrite"
  | .sequence => "KSequence"

theorem lookup_kinds_eq_some_iff {tag : String} {kind : Kind} :
    kinds.lookup tag = some kind ↔ tag = kind.tag := by
  constructor
  · intro h
    obtain ⟨before, after, heq, -⟩ := List.lookup_eq_some_iff.1 h
    have hmem : (tag, kind) ∈ kinds := by simp [heq]
    cases kind <;> simpa [kinds, Kind.tag] using hmem
  · rintro rfl
    cases kind <;> rfl

/-- The term of a kind that the members of an object make. -/
def ofMembers? (value : Json) : Kind → Option Term
  | .var => ((value.member? "name").bind Json.string?).map .var
  | .token => do
    let text ← (value.member? "token").bind Json.string?
    let sort ← (value.member? "sort").bind Json.name?
    return .token text sort
  | .apply => do
    let label ← (value.member? "label").bind Json.name?
    let args ← Json.orDefault [] (Json.list? (ofJson? true)) (value.member? "args")
    return .apply label args
  | .asPattern => do
    let pattern ← (value.member? "pattern").bind (ofJson? true)
    let binder ← (value.member? "alias").bind (ofJson? true)
    return .asPattern pattern binder
  | .rewrite => do
    let lhs ← (value.member? "lhs").bind (ofJson? true)
    let rhs ← (value.member? "rhs").bind (ofJson? true)
    return .rewrite lhs rhs
  | .sequence =>
    (Json.orDefault [] (Json.list? (ofJson? true)) (value.member? "items")).map .sequence

variable {value : Json} {tag : String} {indexed : Bool} {t : Term}

theorem ofJson?_of_hasTag (htag : value.HasTag tag) :
    ofJson? indexed value = (kinds.lookup tag).bind (ofMembers? value) := by
  obtain ⟨members, rfl⟩ := Json.eq_object_of_isObject (Json.isObject_of_member? htag)
  have hnode : members.lookup "node" = some (.string tag) := htag
  unfold ofJson?
  rw [hnode, Option.bind_some, Json.kind?]
  cases kinds.lookup tag with
  | none => rfl
  | some kind => cases kind <;> simp [ofMembers?, member?_eq, listMember?_eq] <;> rfl

theorem ofJson?_of_kind (kind : Kind) (htag : value.HasTag kind.tag) :
    ofJson? indexed value = ofMembers? value kind := by
  rw [ofJson?_of_hasTag htag, lookup_kinds_eq_some_iff.2 rfl, Option.bind_some]

theorem ofJson?_of_no_tag {members : List (String × Json)} (h : (Json.object members).member? "node" = none) :
    ofJson? indexed (.object members) = none := by
  have hnode : members.lookup "node" = none := h
  simp [ofJson?, hnode]

/-! ## Both directions -/

/-- Encodings are decoded to their terms, by induction on the term. -/
theorem ofJson?_of_encodes (h : Encodes value t) (indexed : Bool) : ofJson? indexed value = some t := by
  induction t generalizing value indexed with
  | var name =>
    cases h with
    | var htag hname =>
      rw [ofJson?_of_kind .var htag]
      simp [ofMembers?, hname, Json.string?]
  | token text sort =>
    cases h with
    | token htag htext hmember hsort =>
      rw [ofJson?_of_kind .token htag]
      simp [ofMembers?, htext, Json.string?, hmember, Json.name?_eq_some_iff.2 hsort]
  | apply label args ih =>
    cases h with
    | apply htag hmember hlabel hargs =>
      have hdecoded := Json.orDefault_list?_eq_some_iff.2
        (hargs.imp fun _ _ _ _ arg harg hencodes => ih arg harg hencodes true)
      rw [ofJson?_of_kind .apply htag]
      simp [ofMembers?, hmember, Json.name?_eq_some_iff.2 hlabel, hdecoded]
  | asPattern pattern binder ihpattern ihbinder =>
    cases h with
    | asPattern htag hfirst hpattern hsecond hbinder =>
      rw [ofJson?_of_kind .asPattern htag]
      simp [ofMembers?, hfirst, hsecond, ihpattern hpattern, ihbinder hbinder]
  | rewrite lhs rhs ihlhs ihrhs =>
    cases h with
    | rewrite htag hfirst hlhs hsecond hrhs =>
      rw [ofJson?_of_kind .rewrite htag]
      simp [ofMembers?, hfirst, hsecond, ihlhs hlhs, ihrhs hrhs]
  | sequence items ih =>
    cases h with
    | sequence htag hitems =>
      have hdecoded := Json.orDefault_list?_eq_some_iff.2
        (hitems.imp fun _ _ _ _ item hitem hencodes => ih item hitem hencodes true)
      rw [ofJson?_of_kind .sequence htag]
      simp [ofMembers?, hdecoded]

/-- What is decoded in object form is an encoding, by induction on the form. -/
theorem encodes_of_ofJson? (hform : InObjectForm .term value) (h : ofJson? indexed value = some t) :
    Encodes value t := by
  generalize hshape : Shape.term = shape at hform
  induction hform generalizing indexed t with
  | @intro shape value isObject tag inside ih =>
  subst hshape
  have ih {inner : Json} {u : Term} (hholds : Shape.term.Holds value .term inner)
      (hu : ofJson? true inner = some u) : Encodes inner u := ih _ _ hholds hu rfl
  obtain ⟨members, rfl⟩ := Json.eq_object_of_isObject isObject
  rcases (InObjectForm.intro isObject tag inside).member?_node trivial with hnone | ⟨tag, htag⟩
  · rw [ofJson?_of_no_tag hnone] at h
    contradiction
  rw [ofJson?_of_hasTag htag, Option.bind_eq_some_iff] at h
  obtain ⟨kind, hkind, h⟩ := h
  obtain rfl := lookup_kinds_eq_some_iff.1 hkind
  cases kind with
  | var =>
    obtain ⟨name, hname, rfl⟩ := Option.map_eq_some_iff.1 h
    exact .var htag (Json.bind_string?_eq_some_iff.1 hname)
  | token =>
    obtain ⟨text, htext, h⟩ := Option.bind_eq_some_iff.1 h
    obtain ⟨sort, hsort, h⟩ := Option.bind_eq_some_iff.1 h
    obtain ⟨encoded, hmember, hsort⟩ := Option.bind_eq_some_iff.1 hsort
    obtain rfl := Option.some.inj h
    exact .token htag (Json.bind_string?_eq_some_iff.1 htext) hmember (Json.name?_eq_some_iff.1 hsort)
  | apply =>
    obtain ⟨label, hlabel, h⟩ := Option.bind_eq_some_iff.1 h
    obtain ⟨encoded, hmember, hlabel⟩ := Option.bind_eq_some_iff.1 hlabel
    obtain ⟨args, hargs, h⟩ := Option.bind_eq_some_iff.1 h
    obtain rfl := Option.some.inj h
    refine .apply htag hmember (Json.name?_eq_some_iff.1 hlabel) ?_
    exact (Json.orDefault_list?_eq_some_iff.1 hargs).imp
      fun _ hmember _ hinner _ _ hdecoded => ih (.argument htag hmember hinner) hdecoded
  | asPattern =>
    obtain ⟨pattern, hpattern, h⟩ := Option.bind_eq_some_iff.1 h
    obtain ⟨first, hfirst, hpattern⟩ := Option.bind_eq_some_iff.1 hpattern
    obtain ⟨binder, hbinder, h⟩ := Option.bind_eq_some_iff.1 h
    obtain ⟨second, hsecond, hbinder⟩ := Option.bind_eq_some_iff.1 hbinder
    obtain rfl := Option.some.inj h
    exact .asPattern htag hfirst (ih (.pattern htag hfirst) hpattern) hsecond
      (ih (.binder htag hsecond) hbinder)
  | rewrite =>
    obtain ⟨lhs, hlhs, h⟩ := Option.bind_eq_some_iff.1 h
    obtain ⟨first, hfirst, hlhs⟩ := Option.bind_eq_some_iff.1 hlhs
    obtain ⟨rhs, hrhs, h⟩ := Option.bind_eq_some_iff.1 h
    obtain ⟨second, hsecond, hrhs⟩ := Option.bind_eq_some_iff.1 hrhs
    obtain rfl := Option.some.inj h
    exact .rewrite htag hfirst (ih (.lhs htag hfirst) hlhs) hsecond (ih (.rhs htag hsecond) hrhs)
  | sequence =>
    obtain ⟨items, hitems, rfl⟩ := Option.map_eq_some_iff.1 h
    refine .sequence htag ?_
    exact (Json.orDefault_list?_eq_some_iff.1 hitems).imp
      fun _ hmember _ hinner _ _ hdecoded => ih (.step htag hmember hinner) hdecoded

/-- In object form, a value is decoded to a term exactly if it is an encoding of it. -/
theorem ofJson?_eq_some_iff (hform : InObjectForm .term value) :
    ofJson? indexed value = some t ↔ Encodes value t :=
  ⟨encodes_of_ofJson? hform, fun h => ofJson?_of_encodes h indexed⟩

/-- Null is no encoding of a term. -/
theorem orNull_ofJson?_eq_some_iff {field : Option Json} {t? : Option Term}
    (hform : ∀ v, field = some v → v ≠ .null → InObjectForm .term v) :
    Json.orNull (ofJson? indexed) field = some t? ↔ Json.EncodesOption Encodes field t? := by
  refine Json.orNull_iff_encodesOption rfl (fun t h => ?_) fun v hfield hnull t =>
    ofJson?_eq_some_iff (hform v hfield hnull)
  have hdecoded := ofJson?_of_encodes h true
  contradiction

end KDispatch.Term
