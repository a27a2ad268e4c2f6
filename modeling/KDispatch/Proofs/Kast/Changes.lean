import KDispatch.Proofs.Definition.Encoding
import KDispatch.Proofs.Json.Value
import KDispatch.Proofs.Kast.Document

/-!
Changes in definition documents. A document that is the same as another one but for the sentences of one module is
decoded alike but for these, and so are productions with other items and rules with another term.
-/

namespace KDispatch

open Json (ChangesField)

variable {items items' sentences sentences' : List Json} {key : String} {term term' value value' : Json}
  {indexed : Bool}

/-- A document of which the term is known can be read. -/
theorem Document.exists_read {fs : FileSystem} {path : String} (h : (read fs path).map Envelope.term = .ok term) :
    ∃ envelope, read fs path = .ok envelope ∧ envelope.term = term := by
  cases hread : read fs path with
  | error e => simp [hread, Except.map] at h
  | ok envelope => exact ⟨envelope, rfl, by simpa [hread, Except.map] using h⟩

theorem Document.readDefinition_of_map_read {fs : FileSystem} {path : String}
    (h : (read fs path).map Envelope.term = .ok term) : readDefinition fs path = definition path term := by
  obtain ⟨envelope, hread, rfl⟩ := exists_read h
  unfold readDefinition
  rw [hread]

/-! ## Productions and rules -/

/-- A production with other items is decoded exactly if these are, and then differs in them. -/
theorem Production.ofJson?_of_changes {production : Production}
    (h : ChangesField ["klabel", "sort", "productionItems", "att"] "productionItems" (.array items) (.array items')
      value value') (hproduction : ofJson? indexed value = some production) :
    items.mapM (ProductionItem.ofJson? indexed) = some production.items ∧
      ofJson? indexed value' = (items'.mapM (ProductionItem.ofJson? indexed)).map fun items =>
        { production with items } := by
  unfold ofJson? at hproduction
  obtain ⟨fields, hfields, hproduction⟩ := Option.bind_eq_some_iff.1 hproduction
  obtain ⟨hfield, hfields'⟩ := h.fields? (by decide) (by decide) hfields
  match fields, hproduction with
  | [label, sort, _, att], hproduction =>
    obtain rfl := Option.some.inj hfield
    obtain ⟨label', hlabel, hproduction⟩ := Option.bind_eq_some_iff.1 hproduction
    obtain ⟨sort', hsort, hproduction⟩ := Option.bind_eq_some_iff.1 hproduction
    obtain ⟨decoded, hdecoded, hproduction⟩ := Option.bind_eq_some_iff.1 hproduction
    obtain ⟨attributes, hattributes, hproduction⟩ := Option.bind_eq_some_iff.1 hproduction
    obtain rfl := Option.some.inj hproduction
    refine ⟨hdecoded, ?_⟩
    unfold ofJson?
    rw [hfields']
    cases hdecoded' : items'.mapM (ProductionItem.ofJson? indexed) <;>
      simp [hlabel, hsort, hattributes, hdecoded']

/-- A rule with another term is decoded exactly if this is decoded as a term. -/
theorem Rule.isSome_ofJson?_of_changes (hkey : key ∈ ["body", "requires", "ensures"])
    (h : ChangesField ["body", "requires", "ensures", "att"] key term term' value value')
    (hrule : (ofJson? indexed value).isSome) (hterm' : term' ≠ .null) :
    (term = .null ∨ (Term.ofJson? indexed term).isSome) ∧
      ((ofJson? indexed value').isSome ↔ (Term.ofJson? indexed term').isSome) := by
  obtain ⟨rule, hrule⟩ := Option.isSome_iff_exists.1 hrule
  have hkeys : key ∈ ["body", "requires", "ensures", "att"] := by
    simp only [List.mem_cons, List.not_mem_nil, or_false] at hkey ⊢
    tauto
  unfold ofJson? at hrule
  obtain ⟨fields, hfields, hrule⟩ := Option.bind_eq_some_iff.1 hrule
  obtain ⟨hfield, hfields'⟩ := h.fields? hkeys (by decide) hfields
  match fields, hrule with
  | [body, requires, ensures, att], hrule =>
    obtain ⟨body', hbody, hrule⟩ := Option.bind_eq_some_iff.1 hrule
    obtain ⟨requires', hrequires, hrule⟩ := Option.bind_eq_some_iff.1 hrule
    obtain ⟨ensures', hensures, hrule⟩ := Option.bind_eq_some_iff.1 hrule
    obtain ⟨attributes, hattributes, hrule⟩ := Option.bind_eq_some_iff.1 hrule
    unfold ofJson?
    rw [hfields']
    -- the body has to be there, a condition may have been null
    rcases List.mem_cons.1 hkey with rfl | hkey
    · obtain rfl := Option.some.inj hfield
      refine ⟨.inr (Option.isSome_iff_exists.2 ⟨body', hbody⟩), ?_⟩
      cases hdecoded : Term.ofJson? indexed term' <;> simp [hrequires, hensures, hattributes, hdecoded]
    rcases List.mem_cons.1 hkey with rfl | hkey
    · obtain rfl := Option.some.inj hfield
      refine ⟨Json.isSome_of_orNull hrequires, ?_⟩
      cases hdecoded : Term.ofJson? indexed term' <;>
        simp [hbody, Json.orNull_of_ne_null hterm', hensures, hattributes, hdecoded]
    · obtain rfl := List.mem_singleton.1 hkey
      obtain rfl := Option.some.inj hfield
      refine ⟨Json.isSome_of_orNull hensures, ?_⟩
      cases hdecoded : Term.ofJson? indexed term' <;>
        simp [hbody, Json.orNull_of_ne_null hterm', hrequires, hattributes, hdecoded]

/-! ## Sentences -/

theorem Sentence.ofJson?_of_production {record : Json}
    (h : value.node? = some (.string "KProduction", record)) :
    ofJson? value = (Production.ofJson? true record).map .production := by
  unfold ofJson?
  rw [h]
  rfl

theorem Sentence.ofJson?_of_rule {record : Json} (h : value.node? = some (.string "KRule", record)) :
    ofJson? value = (Rule.ofJson? true record).map .rule := by
  unfold ofJson?
  rw [h]
  rfl

/-! ## Modules and definitions -/

/-- A module with other sentences is decoded exactly if these are, and then differs in them. -/
theorem FlatModule.ofJson?_of_changes {m : FlatModule} (h : ChangesField ["name", "imports", "localSentences", "att"]
      "localSentences" (.array sentences) (.array sentences') value value') (hm : ofJson? value = some m) :
    sentences.mapM Sentence.ofJson? = some m.sentences ∧
      ofJson? value' = (sentences'.mapM Sentence.ofJson?).map fun sentences => { m with sentences } := by
  unfold ofJson? at hm
  obtain ⟨fields, hfields, hm⟩ := Option.bind_eq_some_iff.1 hm
  obtain ⟨hfield, hfields'⟩ := h.fields? (by decide) (by decide) hfields
  match fields, hm with
  | [name, imports, _, att], hm =>
    obtain rfl := Option.some.inj hfield
    obtain ⟨name', hname, hm⟩ := Option.bind_eq_some_iff.1 hm
    obtain ⟨imports', himports, hm⟩ := Option.bind_eq_some_iff.1 hm
    obtain ⟨decoded, hdecoded, hm⟩ := Option.bind_eq_some_iff.1 hm
    obtain ⟨attributes, hattributes, hm⟩ := Option.bind_eq_some_iff.1 hm
    obtain rfl := Option.some.inj hm
    refine ⟨hdecoded, ?_⟩
    unfold ofJson?
    rw [hfields']
    cases hdecoded' : sentences'.mapM Sentence.ofJson? <;>
      simp [hname, himports, hattributes, hdecoded']

/-- Whether two definitions are the same as documents but for the sentences of one module. -/
inductive ChangesSentences (sentences sentences' : List Json) (value value' : Json) : Prop
  | intro {before after : List Json} {m m' : Json}
      (hmodules : ChangesField ["mainModule", "modules", "att"] "modules" (.array (before ++ m :: after))
        (.array (before ++ m' :: after)) value value')
      (hsentences : ChangesField ["name", "imports", "localSentences", "att"] "localSentences"
        (.array sentences) (.array sentences') m m')

namespace ChangesSentences

/-- The changed definition is decoded exactly if the new sentences are, and then differs in these. -/
theorem ofJson?_eq {definition : Definition} (h : ChangesSentences sentences sentences' value value')
    (hdefinition : Definition.ofJson? value = some definition) :
    ∃ before m after, definition.modules = before ++ m :: after ∧
      sentences.mapM Sentence.ofJson? = some m.sentences ∧
      Definition.ofJson? value' = (sentences'.mapM Sentence.ofJson?).map fun sentences =>
        { definition with modules := before ++ { m with sentences } :: after } := by
  obtain ⟨hmodules, hsentences⟩ := h
  unfold Definition.ofJson? at hdefinition
  obtain ⟨fields, hfields, hdefinition⟩ := Option.bind_eq_some_iff.1 hdefinition
  obtain ⟨hfield, hfields'⟩ := hmodules.fields? (by decide) (by decide) hfields
  match fields, hdefinition with
  | [mainModule, _, att], hdefinition =>
    obtain rfl := Option.some.inj hfield
    obtain ⟨mainModule', hmain, hdefinition⟩ := Option.bind_eq_some_iff.1 hdefinition
    obtain ⟨decoded, hdecoded, hdefinition⟩ := Option.bind_eq_some_iff.1 hdefinition
    obtain ⟨attributes, hattributes, hdefinition⟩ := Option.bind_eq_some_iff.1 hdefinition
    obtain rfl := Option.some.inj hdefinition
    obtain ⟨xs, m, ys, hxs, hm, hys, rfl⟩ := Json.mapM_append_cons_eq_some_iff.1 hdecoded
    obtain ⟨hold, hnew⟩ := FlatModule.ofJson?_of_changes hsentences hm
    refine ⟨xs, m, ys, rfl, hold, ?_⟩
    unfold Definition.ofJson?
    rw [hfields']
    cases hdecoded' : sentences'.mapM Sentence.ofJson? <;>
      simp [hmain, hattributes, hxs, hys, hnew, hdecoded']

theorem nodeName_eq (h : ChangesSentences sentences sentences' value value') :
    Document.nodeName value' = Document.nodeName value := by
  obtain ⟨hmodules, -⟩ := h
  unfold Document.nodeName
  rw [hmodules.member?_of_ne (by decide)]

/-- The changed document is a definition exactly if the new sentences are decoded. -/
theorem definition_eq {path : String} {definition : Definition}
    (h : ChangesSentences sentences sentences' value value')
    (hdefinition : Document.definition path value = .ok definition) (path' : String) :
    ∃ before m after, definition.modules = before ++ m :: after ∧
      sentences.mapM Sentence.ofJson? = some m.sentences ∧
      Document.definition path' value' = match sentences'.mapM Sentence.ofJson? with
        | some sentences => .ok { definition with modules := before ++ { m with sentences } :: after }
        | none => .error (.invalid path' .mismatch) := by
  unfold Document.definition at hdefinition ⊢
  rw [h.nodeName_eq]
  split at hdefinition
  · rw [if_pos ‹_›]
    split at hdefinition
    · obtain rfl := Except.ok.inj hdefinition
      obtain ⟨before, m, after, hmodules, hold, hnew⟩ := h.ofJson?_eq ‹_›
      refine ⟨before, m, after, hmodules, hold, ?_⟩
      rw [hnew]
      cases sentences'.mapM Sentence.ofJson? <;> rfl
    · contradiction
  · contradiction

end ChangesSentences

end KDispatch
