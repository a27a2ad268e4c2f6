import KDispatch.Proofs.Kast.Changes

/-!
Other terms in the rules of a definition. A definition document in which a subterm of a rule has been replaced is
read exactly if what stands there now is decoded as a term. Nodes of other kinds are not.
-/

namespace KDispatch

open Json (ChangesField ChangesNode)

namespace Term

/-! ## The decoder on nodes -/

/-- The fields of the terms of a kind. -/
def Kind.fields : Kind → List String
  | .var => ["name"]
  | .token => ["token", "sort"]
  | .apply => ["label", "args"]
  | .asPattern => ["pattern", "alias"]
  | .rewrite => ["lhs", "rhs"]
  | .sequence => ["items"]

/-- The term of a kind that fields make. -/
def ofFields? : Kind → List (Option Json) → Option Term
  | .var, [name] => (name.bind Json.string?).map .var
  | .token, [text, sort] => do
    let text ← text.bind Json.string?
    let sort ← sort.bind Json.name?
    return .token text sort
  | .apply, [label, args] => do
    let label ← label.bind Json.name?
    let args ← Json.orDefault [] (Json.list? (ofJson? true)) args
    return .apply label args
  | .asPattern, [pattern, binder] => do
    let pattern ← pattern.bind (ofJson? true)
    let binder ← binder.bind (ofJson? true)
    return .asPattern pattern binder
  | .rewrite, [lhs, rhs] => do
    let lhs ← lhs.bind (ofJson? true)
    let rhs ← rhs.bind (ofJson? true)
    return .rewrite lhs rhs
  | .sequence, [items] => (Json.orDefault [] (Json.list? (ofJson? true)) items).map .sequence
  | _, _ => none

variable {kind : Kind} {key : String} {indexed : Bool} {tag record value value' x : Json}
  {fields : List (Option Json)}

/-- A node is decoded to the term of its kind, as an object and as an array. -/
theorem ofJson?_eq_ofFields? (hnode : value.node? = some (tag, record))
    (hkind : Json.kind? kinds indexed tag = some (some kind)) :
    ofJson? indexed value = (record.fields? kind.fields).bind (ofFields? kind) := by
  cases value with
  | object members =>
    obtain ⟨node, hlookup, heq⟩ := Option.map_eq_some_iff.1 hnode
    cases heq
    unfold ofJson?
    rw [hlookup, Option.bind_some, hkind]
    cases kind <;> simp [Json.fields?, Kind.fields, ofFields?, member?_eq, listMember?_eq, Json.member?]
  | array items =>
    cases items with
    | nil => contradiction
    | cons first items =>
      cases hnode
      unfold ofJson?
      rw [hkind]
      -- no kind has more than two fields
      rcases items with _ | ⟨a, _ | ⟨b, _ | ⟨c, more⟩⟩⟩
      · cases kind <;> simp [Json.fields?, Kind.fields, ofFields?]
      · cases kind <;> simp [Json.fields?, Kind.fields, ofFields?, listItem?, list?_eq, Option.map_eq_bind,
          Function.comp_def]
      · cases kind <;> simp [Json.fields?, Kind.fields, ofFields?, item?, listItem?, list?_eq]
      · cases kind <;> simp [Json.fields?, Kind.fields]
  | null | bool _ | number _ | string _ => contradiction

/-! ## Other subterms -/

/-- The fields that hold a term. -/
inductive Kind.HoldsTerm : Kind → String → Prop
  | pattern : HoldsTerm .asPattern "pattern"
  | binder : HoldsTerm .asPattern "alias"
  | lhs : HoldsTerm .rewrite "lhs"
  | rhs : HoldsTerm .rewrite "rhs"

/-- The fields that hold a list of terms. -/
inductive Kind.HoldsTerms : Kind → String → Prop
  | args : HoldsTerms .apply "args"
  | items : HoldsTerms .sequence "items"

/-- Whether a value is another one in which `x` stands at the place of one subterm, which may be the whole term. -/
inductive Replaces (x : Json) : Json → Json → Prop
  | here (value : Json) : Replaces x value x
  | field {tag value value' inner inner' : Json} {kind : Kind} {key : String}
      (hkind : Json.kind? kinds true tag = some (some kind)) (hkey : kind.HoldsTerm key)
      (hnode : ChangesNode tag kind.fields key inner inner' value value') (hinner : Replaces x inner inner') :
      Replaces x value value'
  | item {tag value value' inner inner' : Json} {before after : List Json} {kind : Kind} {key : String}
      (hkind : Json.kind? kinds true tag = some (some kind)) (hkey : kind.HoldsTerms key)
      (hnode : ChangesNode tag kind.fields key (.array (before ++ inner :: after))
        (.array (before ++ inner' :: after)) value value')
      (hinner : Replaces x inner inner') : Replaces x value value'

theorem Kind.HoldsTerm.mem (h : kind.HoldsTerm key) : key ∈ kind.fields := by
  cases h <;> decide

theorem Kind.HoldsTerms.mem (h : kind.HoldsTerms key) : key ∈ kind.fields := by
  cases h <;> decide

theorem Kind.nodup_fields (kind : Kind) : kind.fields.Nodup := by
  cases kind <;> decide

/-- Something made of two parts is there exactly if both parts are. -/
theorem isSome_do {α β γ : Type} {x? : Option α} {y? : Option β} {make : α → β → γ} :
    (do let x ← x?; let y ← y?; return make x y : Option γ).isSome ↔ x?.isSome ∧ y?.isSome := by
  cases x? <;> cases y? <;> simp

/-- A term with another term in a field is decoded exactly if this is. -/
theorem isSome_ofFields?_set (hkey : kind.HoldsTerm key)
    (hfield : fields[kind.fields.idxOf key]? = some (some value)) (h : (ofFields? kind fields).isSome) :
    (ofJson? true value).isSome ∧
      ((ofFields? kind (fields.set (kind.fields.idxOf key) (some value'))).isSome ↔
        (ofJson? true value').isSome) := by
  cases hkey with
  | pattern | lhs =>
    match fields, h with
    | [first, second], h =>
      obtain rfl := Option.some.inj hfield
      obtain ⟨hvalue, hsecond⟩ := isSome_do.1 h
      exact ⟨hvalue, isSome_do.trans (and_iff_left hsecond)⟩
  | binder | rhs =>
    match fields, h with
    | [first, second], h =>
      obtain rfl := Option.some.inj hfield
      obtain ⟨hfirst, hvalue⟩ := isSome_do.1 h
      exact ⟨hvalue, isSome_do.trans (and_iff_right hfirst)⟩

theorem isSome_ofFields?_set_list (hkey : kind.HoldsTerms key)
    (hfield : fields[kind.fields.idxOf key]? = some (some value)) (h : (ofFields? kind fields).isSome) :
    (Json.list? (ofJson? true) value).isSome ∧
      ((ofFields? kind (fields.set (kind.fields.idxOf key) (some value'))).isSome ↔
        (Json.list? (ofJson? true) value').isSome) := by
  cases hkey with
  | args =>
    match fields, h with
    | [label, args], h =>
      obtain rfl := Option.some.inj hfield
      obtain ⟨hlabel, hvalue⟩ := isSome_do.1 h
      exact ⟨hvalue, isSome_do.trans (and_iff_right hlabel)⟩
  | items =>
    match fields, h with
    | [items], h =>
      obtain rfl := Option.some.inj hfield
      exact ⟨by simpa [ofFields?] using h, by simp [ofFields?, Kind.fields]⟩

/-- A node in which a field is different is decoded exactly if its fields make a term. -/
theorem isSome_ofJson?_of_changesNode {inner inner' : Json}
    (hkind : Json.kind? kinds true tag = some (some kind)) (hkey : key ∈ kind.fields)
    (hnode : ChangesNode tag kind.fields key inner inner' value value') (h : (ofJson? true value).isSome) :
    ∃ fields, (ofFields? kind fields).isSome ∧ fields[kind.fields.idxOf key]? = some (some inner) ∧
      ofJson? true value' = ofFields? kind (fields.set (kind.fields.idxOf key) (some inner')) := by
  obtain ⟨record, record', hvalue, hvalue', hchange⟩ := hnode
  rw [ofJson?_eq_ofFields? hvalue hkind] at h
  cases hfields : record.fields? kind.fields with
  | none => simp [hfields] at h
  | some fields =>
    obtain ⟨hfield, hfields'⟩ := hchange.fields? hkey kind.nodup_fields hfields
    rw [hfields, Option.bind_some] at h
    refine ⟨fields, h, hfield, ?_⟩
    rw [ofJson?_eq_ofFields? hvalue' hkind, hfields', Option.bind_some]

/-- A list with another item is decoded exactly if this is. -/
theorem isSome_list?_of_changes {before after : List Json}
    (h : (Json.list? (ofJson? true) (.array (before ++ value :: after))).isSome) :
    (ofJson? true value).isSome ∧
      ((Json.list? (ofJson? true) (.array (before ++ value' :: after))).isSome ↔ (ofJson? true value').isSome) := by
  obtain ⟨decoded, hdecoded⟩ := Option.isSome_iff_exists.1 h
  obtain ⟨xs, t, ys, hbefore, ht, hafter, -⟩ := Json.mapM_append_cons_eq_some_iff.1 hdecoded
  refine ⟨by simp [ht], ?_⟩
  rw [Json.list?_array, Json.mapM_append_cons, hbefore, hafter]
  cases ofJson? true value' <;> simp

/-- Where a subterm of a term has been replaced, the whole is decoded exactly if the new subterm is, by induction on
the place of the subterm. -/
theorem Replaces.isSome_iff (h : Replaces x value value') (hvalue : (ofJson? true value).isSome) :
    (ofJson? true value').isSome ↔ (ofJson? true x).isSome := by
  induction h with
  | here value => rfl
  | field hkind hkey hnode hinner ih =>
    obtain ⟨fields, hfields, hfield, hvalue'⟩ := isSome_ofJson?_of_changesNode hkind hkey.mem hnode hvalue
    obtain ⟨hold, hnew⟩ := isSome_ofFields?_set hkey hfield hfields
    rw [hvalue', hnew, ih hold]
  | item hkind hkey hnode hinner ih =>
    obtain ⟨fields, hfields, hfield, hvalue'⟩ := isSome_ofJson?_of_changesNode hkind hkey.mem hnode hvalue
    obtain ⟨hold, hnew⟩ := isSome_ofFields?_set_list hkey hfield hfields
    obtain ⟨hold, hitem⟩ := isSome_list?_of_changes hold
    rw [hvalue', hnew, hitem, ih hold]

theorem Replaces.eq_of_null (h : Replaces x .null value') : value' = x := by
  cases h with
  | here => rfl
  | field _ _ hnode _ | item _ _ hnode _ =>
    obtain ⟨record, record', hnull, -⟩ := hnode
    contradiction

theorem Replaces.ne_null (h : Replaces x value value') (hx : x ≠ .null) : value' ≠ .null := by
  cases h with
  | here => exact hx
  | field _ _ hnode _ | item _ _ hnode _ =>
    obtain ⟨record, record', -, hnode', -⟩ := hnode
    rintro rfl
    contradiction

/-- Only the six kinds of terms have nodes. -/
theorem ofJson?_of_foreign {name : String} (htag : x.HasTag name) (hforeign : name ∉ kinds.map Prod.fst) :
    ofJson? indexed x = none := by
  rw [ofJson?_of_hasTag htag]
  cases hlookup : kinds.lookup name with
  | none => rfl
  | some kind =>
    obtain ⟨before, after, hkinds, -⟩ := List.lookup_eq_some_iff.1 hlookup
    exact absurd (by simp [hkinds]) hforeign

end Term

/-! ## Other subterms in rules -/

/-- Whether `value'` is the definition document `value` in which `x` stands at the place of one subterm of the body or
of a condition of a rule. -/
inductive ReplacesInRule (x value value' : Json) : Prop
  | intro {before after : List Json} {sentence sentence' term term' : Json} {key : String}
      (hsentences : ChangesSentences (before ++ sentence :: after) (before ++ sentence' :: after) value value')
      (hrule : ChangesNode (.string "KRule") ["body", "requires", "ensures", "att"] key term term' sentence
        sentence')
      (hkey : key ∈ ["body", "requires", "ensures"]) (hterm : Term.Replaces x term term')

variable {x value value' : Json}

theorem ReplacesInRule.definition_cases {path : String} {definition : Definition} (h : ReplacesInRule x value value')
    (hx : x ≠ .null) (hdefinition : Document.definition path value = .ok definition) (path' : String) :
    ((Term.ofJson? true x).isSome → ∃ definition', Document.definition path' value' = .ok definition') ∧
      (¬ (Term.ofJson? true x).isSome → Document.definition path' value' = .error (.invalid path' .mismatch)) := by
  obtain ⟨hsentences, ⟨record, record', hsentence, hsentence', hchange⟩, hkey, hterm⟩ := h
  obtain ⟨before, m, after, -, hold, hnew⟩ := hsentences.definition_eq hdefinition path'
  obtain ⟨xs, sentence, ys, hbefore, hdecoded, hafter, -⟩ := Json.mapM_append_cons_eq_some_iff.1 hold
  have hrule : (Rule.ofJson? true record).isSome := by
    rw [Sentence.ofJson?_of_rule hsentence] at hdecoded
    simpa using congrArg Option.isSome hdecoded
  have hreplaced : (Rule.ofJson? true record').isSome ↔ (Term.ofJson? true x).isSome := by
    obtain ⟨hterm', hrule'⟩ := Rule.isSome_ofJson?_of_changes hkey hchange hrule (hterm.ne_null hx)
    rw [hrule']
    -- there is no place inside of null, so there the value stands for the condition itself
    rcases hterm' with rfl | hdecodes
    · rw [hterm.eq_of_null]
    · exact hterm.isSome_iff hdecodes
  rw [hnew, Json.mapM_append_cons, hbefore, hafter, Sentence.ofJson?_of_rule hsentence', ← hreplaced]
  cases Rule.ofJson? true record' <;> simp

namespace Document

/-- In a definition document that can be read, other terms can stand for any of the subterms of the rules, and nothing
else can: a node of a foreign kind makes the whole document unreadable, wherever it stands. -/
theorem readDefinition_of_replaced_subterm {fs fs' : FileSystem} {path path' : String}
    {envelope envelope' : Envelope} {definition : Definition} (hread : read fs path = .ok envelope)
    (hread' : read fs' path' = .ok envelope') (hreplaced : ReplacesInRule x envelope.term envelope'.term)
    (hx : x ≠ .null) (hdefinition : readDefinition fs path = .ok definition) :
    ((∃ definition', readDefinition fs' path' = .ok definition') ↔ ∃ t, Term.ofJson? true x = some t) ∧
      ∀ tag, x.HasTag tag → tag ∉ Term.kinds.map Prod.fst →
        readDefinition fs' path' = .error (.invalid path' .mismatch) := by
  unfold readDefinition at hdefinition ⊢
  rw [hread] at hdefinition
  rw [hread']
  obtain ⟨haccepted, hrefused⟩ := hreplaced.definition_cases hx hdefinition path'
  refine ⟨⟨?_, ?_⟩, fun tag htag hforeign => ?_⟩
  · rintro ⟨definition', hdefinition'⟩
    by_contra hterm
    have herror := hrefused (by simpa [Option.isSome_iff_exists] using hterm)
    exact absurd (herror.symm.trans hdefinition') (by simp)
  · exact fun hterm => haccepted (Option.isSome_iff_exists.2 hterm)
  · exact hrefused (by simp [Term.ofJson?_of_foreign htag hforeign])

/-! A definition with one rule, the body of which is a sequence of one item. -/

def ruleBody (item : Json) : Json := .object [("items", .array [item]), ("node", .string "KSequence")]

def ruleSentence (item : Json) : Json := .object [("body", ruleBody item), ("node", .string "KRule")]

def ruleModule (item : Json) : Json := .object [("localSentences", .array [ruleSentence item]), ("name", .string "M")]

def ruleDocument (item : Json) : Json :=
  .object [("mainModule", .string "M"), ("modules", .array [ruleModule item]), ("node", .string "KDefinition")]

/-- The document in a file, given the text of the item. -/
def ruleFiles (item : List String) : FileSystem :=
  .ofNodes [] [(["d.json"], .file ((["\x7b\"term\":\x7b", "\"node\":", "\"KDefinition\",", "\"mainModule\":",
    "\"M\",", "\"modules\":[\x7b", "\"name\":\"M\",", "\"localSentences\":[", "\x7b\"node\":\"KRule\",",
    "\"body\":\x7b", "\"node\":", "\"KSequence\",", "\"items\":["] ++ item ++
    ["]\x7d\x7d]\x7d]\x7d\x7d"]).flatMap utf8) false)]

theorem changesField_head {names : List String} {key : String} (value value' : Json)
    (after : List (String × Json)) : ChangesField names key value value' (.object ((key, value) :: after))
      (.object ((key, value') :: after)) :=
  @ChangesField.member names key value value' [] after (by simp)

theorem replacesInRule_ruleDocument (item item' : Json) :
    ReplacesInRule item' (ruleDocument item) (ruleDocument item') := by
  have hbody : Term.Replaces item' (ruleBody item) (ruleBody item') :=
    @Term.Replaces.item item' (.string "KSequence") _ _ item item' [] [] .sequence "items" rfl .items
      ⟨_, _, rfl, rfl, changesField_head _ _ _⟩ (.here item)
  have hsentence : ChangesNode (.string "KRule") ["body", "requires", "ensures", "att"] "body" (ruleBody item)
      (ruleBody item') (ruleSentence item) (ruleSentence item') := ⟨_, _, rfl, rfl, changesField_head _ _ _⟩
  have hdocument : ChangesSentences [ruleSentence item] [ruleSentence item'] (ruleDocument item)
      (ruleDocument item') :=
    @ChangesSentences.intro _ _ _ _ [] [] (ruleModule item) (ruleModule item')
      (@ChangesField.member _ _ _ _ [("mainModule", .string "M")] [("node", .string "KDefinition")] (by simp))
      (changesField_head _ _ _)
  exact @ReplacesInRule.intro item' _ _ [] [] _ _ _ _ "body" hdocument hsentence (by simp) hbody

def variableItem : Json := .object [("name", .string "X"), ("node", .string "KVariable")]

def variableText : List String := ["\x7b\"node\":", "\"KVariable\",", "\"name\":\"X\"\x7d"]

/-- A variable as an array, with the position of its tag. -/
def positionItem : Json := .array [.number (.integer 0), .string "Y"]

def foreignItem : Json := .object [("node", .string "InjectedKLabel")]

def foreignText : List String := ["\x7b\"node\":", "\"InjectedKLabel\"\x7d"]

/-- The items that the rule is read with, each with its text. -/
def sampleItems : List (List String × Json) :=
  [(variableText, variableItem), (["[0,\"Y\"]"], positionItem), (foreignText, foreignItem)]

theorem read_ruleFiles : ∀ sample ∈ sampleItems,
    (read (ruleFiles sample.1) "d.json").map Envelope.term = .ok (ruleDocument sample.2) := by
  -- one evaluation of the reader for all files
  decide +kernel

theorem read_ruleFiles_variable :
    (read (ruleFiles variableText) "d.json").map Envelope.term = .ok (ruleDocument variableItem) :=
  read_ruleFiles (variableText, variableItem) (by simp [sampleItems])

theorem readDefinition_ruleFiles : readDefinition (ruleFiles variableText) "d.json" = .ok ⟨"M",
    [⟨"M", [], [.rule ⟨.sequence [.var "X"], none, none, .empty⟩], .empty⟩], .empty⟩ :=
  (readDefinition_of_map_read read_ruleFiles_variable).trans (by decide)

theorem readDefinition_of_replaced_subterm_position :
    (∃ definition, readDefinition (ruleFiles variableText) "d.json" = .ok definition) ∧
      ReplacesInRule positionItem (ruleDocument variableItem) (ruleDocument positionItem) ∧
      ∃ definition, readDefinition (ruleFiles ["[0,\"Y\"]"]) "d.json" = .ok definition := by
  have hterm' := read_ruleFiles (["[0,\"Y\"]"], positionItem) (by simp [sampleItems])
  have hreplaced := replacesInRule_ruleDocument variableItem positionItem
  obtain ⟨envelope, hread, hold⟩ := exists_read read_ruleFiles_variable
  obtain ⟨envelope', hread', hnew⟩ := exists_read hterm'
  refine ⟨⟨_, readDefinition_ruleFiles⟩, hreplaced, ?_⟩
  rw [← hold, ← hnew] at hreplaced
  exact (readDefinition_of_replaced_subterm hread hread' hreplaced (by simp [positionItem])
    readDefinition_ruleFiles).1.2 ⟨.var "Y", rfl⟩

/-- A definition cannot be read once a foreign node stands for a subterm. -/
theorem readDefinition_refuses_foreign_subterm :
    (∃ definition, readDefinition (ruleFiles variableText) "d.json" = .ok definition) ∧
      ReplacesInRule foreignItem (ruleDocument variableItem) (ruleDocument foreignItem) ∧
      foreignItem.HasTag "InjectedKLabel" ∧ "InjectedKLabel" ∉ Term.kinds.map Prod.fst ∧
      (read (ruleFiles variableText) "d.json").map Envelope.term = .ok (ruleDocument variableItem) ∧
      (read (ruleFiles foreignText) "d.json").map Envelope.term = .ok (ruleDocument foreignItem) ∧
      readDefinition (ruleFiles foreignText) "d.json" = .error (.invalid "d.json" .mismatch) := by
  have hforeign := read_ruleFiles (foreignText, foreignItem) (by simp [sampleItems])
  exact ⟨⟨_, readDefinition_ruleFiles⟩, replacesInRule_ruleDocument _ _, rfl, by decide, read_ruleFiles_variable,
    hforeign, (readDefinition_of_map_read hforeign).trans (by decide)⟩

end Document

end KDispatch
