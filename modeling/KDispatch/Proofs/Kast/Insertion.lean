import KDispatch.ImportGraph
import KDispatch.Proofs.CoverageLog.Lines
import KDispatch.Proofs.CoverageLog.Run
import KDispatch.Proofs.Kast.Changes
import Mathlib.Logic.Relation

/-!
Sentences and production items of other kinds in definition documents. Any number of them can be inserted anywhere,
and nothing that is made of the definition shows them.
-/

/-! ## Definitions without other kinds -/

namespace KDispatch

def Production.withoutOther (production : Production) : Production :=
  { production with items := production.items.filter (· ≠ .other) }

def Sentence.withoutOther? : Sentence → Option Sentence
  | .production p => some (.production p.withoutOther)
  | .rule r => some (.rule r)
  | .other => none

def FlatModule.withoutOther (m : FlatModule) : FlatModule :=
  { m with sentences := m.sentences.filterMap Sentence.withoutOther? }

/-- The definition without the sentences and the production items of other kinds. -/
def Definition.withoutOther (definition : Definition) : Definition :=
  { definition with modules := definition.modules.map FlatModule.withoutOther }

@[simp] theorem Production.label_withoutOther (production : Production) :
    production.withoutOther.label = production.label := rfl

@[simp] theorem Production.arity_withoutOther (production : Production) :
    production.withoutOther.arity = production.arity := by
  unfold arity withoutOther
  rw [List.countP_filter]
  congr 1
  funext item
  cases item <;> rfl

@[simp] theorem Layout.ofProduction_withoutOther (label : String) (production : Production) :
    ofProduction label production.withoutOther = ofProduction label production := by
  have hitems {α : Type} (take : ProductionItem → Option α) (htake : take .other = none) :
      production.withoutOther.items.filterMap take = production.items.filterMap take := by
    unfold Production.withoutOther
    rw [List.filterMap_filter]
    congr 1
    funext item
    cases item <;> simp [htake]
  unfold ofProduction
  rw [hitems ProductionItem.terminal? rfl, hitems Segment.ofItem? rfl]
  rfl

@[simp] theorem SymbolTable.declare_withoutOther (production : Production) :
    declare production.withoutOther = declare production := by
  funext table
  unfold declare
  simp only [Layout.ofProduction_withoutOther]
  rfl

namespace Definition

variable (definition : Definition)

theorem sentences_withoutOther :
    definition.withoutOther.sentences = definition.sentences.filterMap Sentence.withoutOther? := by
  simp [sentences, withoutOther, FlatModule.withoutOther, List.flatMap_map, List.filterMap_flatMap]

@[simp] theorem rules_withoutOther : definition.withoutOther.rules = definition.rules := by
  rw [rules, rules, sentences_withoutOther, List.filterMap_filterMap]
  congr 1
  funext sentence
  cases sentence <;> rfl

@[simp] theorem productions_withoutOther :
    definition.withoutOther.productions = definition.productions.map Production.withoutOther := by
  rw [productions, productions, sentences_withoutOther, List.filterMap_filterMap, List.map_filterMap]
  congr 1
  funext sentence
  cases sentence <;> rfl

@[simp] theorem ofDefinition_withoutOther :
    SymbolTable.ofDefinition definition.withoutOther = SymbolTable.ofDefinition definition := by
  simp [SymbolTable.ofDefinition, SymbolTable.ofProductions, List.foldr_map]

@[simp] theorem importGraph_withoutOther :
    ImportGraph.ofDefinition definition.withoutOther = ImportGraph.ofDefinition definition := by
  simp [ImportGraph.ofDefinition, ImportGraph.names, ImportGraph.imports, withoutOther, FlatModule.withoutOther,
    List.flatMap_map]

@[simp] theorem ofContent_withoutOther (content : Bytes) :
    CoverageLog.ofContent definition.withoutOther content = CoverageLog.ofContent definition content := by
  refine CoverageLog.ofContent_congr_table (fun id => ?_) definition.ofDefinition_withoutOther content
  rw [ruleById?, ruleById?, rules_withoutOther]

end Definition

end KDispatch

/-! ## Insertions -/

namespace KDispatch

open Json (ChangesNode)

/-- Whether `value'` is the definition document `value` with one more sentence, or one more item in a production, of a
kind that is not modelled. What else the inserted object holds is left open. -/
inductive InsertsOther (value value' : Json) : Prop
  | sentence {before after : List Json} {x : Json} {tag : String} (htag : x.HasTag tag)
      (hother : tag ∉ ["KProduction", "KRule"])
      (h : ChangesSentences (before ++ after) (before ++ x :: after) value value')
  | item {before after earlier later : List Json} {x sentence sentence' : Json} {tag : String}
      (htag : x.HasTag tag) (hother : tag ∉ ["KTerminal", "KNonTerminal"])
      (hproduction : ChangesNode (.string "KProduction") ["klabel", "sort", "productionItems", "att"]
        "productionItems" (.array (before ++ after)) (.array (before ++ x :: after)) sentence sentence')
      (h : ChangesSentences (earlier ++ sentence :: later) (earlier ++ sentence' :: later) value value')

variable {value value' x : Json} {tag path : String} {definition : Definition}

theorem Sentence.ofJson?_of_other (htag : x.HasTag tag) (hother : tag ∉ ["KProduction", "KRule"]) :
    Sentence.ofJson? x = some .other := by
  obtain ⟨hproduction, hrule⟩ : tag ≠ "KProduction" ∧ tag ≠ "KRule" := by simpa using hother
  rw [Sentence.ofJson?_of_hasTag htag, Sentence.lookup_kinds, if_neg hproduction, if_neg hrule]

theorem ProductionItem.ofJson?_of_other {indexed : Bool} (htag : x.HasTag tag)
    (hother : tag ∉ ["KTerminal", "KNonTerminal"]) : ProductionItem.ofJson? indexed x = some .other := by
  obtain ⟨hterminal, hnonTerminal⟩ : tag ≠ "KTerminal" ∧ tag ≠ "KNonTerminal" := by simpa using hother
  rw [ProductionItem.ofJson?_of_hasTag htag, ProductionItem.lookup_kinds, if_neg hterminal, if_neg hnonTerminal]

/-- With an item inserted, a production stays one and is the same without other kinds. -/
theorem Sentence.ofJson?_of_insertedItem {before after : List Json} {sentence sentence' : Json}
    {decoded : Sentence} (htag : x.HasTag tag) (hother : tag ∉ ["KTerminal", "KNonTerminal"])
    (hproduction : ChangesNode (.string "KProduction") ["klabel", "sort", "productionItems", "att"]
      "productionItems" (.array (before ++ after)) (.array (before ++ x :: after)) sentence sentence')
    (hdecoded : Sentence.ofJson? sentence = some decoded) :
    ∃ decoded', Sentence.ofJson? sentence' = some decoded' ∧ decoded'.withoutOther? = decoded.withoutOther? := by
  obtain ⟨record, record', hsentence, hsentence', hchange⟩ := hproduction
  rw [Sentence.ofJson?_of_production hsentence] at hdecoded
  obtain ⟨production, hproduction, rfl⟩ := Option.map_eq_some_iff.1 hdecoded
  obtain ⟨hitems, hproduction'⟩ := Production.ofJson?_of_changes hchange hproduction
  obtain ⟨xs, ys, hdecodedItems, hinserted⟩ := Json.mapM_insert hitems (ProductionItem.ofJson?_of_other htag hother)
  refine ⟨.production { production with items := xs ++ .other :: ys }, ?_, ?_⟩
  · rw [Sentence.ofJson?_of_production hsentence', hproduction', hinserted]
    rfl
  · simp [withoutOther?, Production.withoutOther, hdecodedItems]

/-- One insertion leaves a document a definition, which is the same without other kinds. -/
theorem InsertsOther.exists_definition (h : InsertsOther value value')
    (hdefinition : Document.definition path value = .ok definition) (path' : String) :
    ∃ definition', Document.definition path' value' = .ok definition' ∧
      definition'.withoutOther = definition.withoutOther := by
  cases h with
  | @sentence before after x tag htag hother h =>
    obtain ⟨earlier, m, later, hmodules, hold, hnew⟩ := h.definition_eq hdefinition path'
    obtain ⟨xs, ys, hsentences, hdecoded⟩ := Json.mapM_insert hold (Sentence.ofJson?_of_other htag hother)
    rw [hdecoded] at hnew
    refine ⟨_, hnew, ?_⟩
    simp [Definition.withoutOther, FlatModule.withoutOther, hmodules, hsentences, List.filterMap_cons,
      Sentence.withoutOther?]
  | @item before after first last x sentence sentence' tag htag hother hproduction h =>
    obtain ⟨earlier, m, later, hmodules, hold, hnew⟩ := h.definition_eq hdefinition path'
    obtain ⟨xs, decoded, ys, hfirst, hdecoded, hlast, hsentences⟩ := Json.mapM_append_cons_eq_some_iff.1 hold
    obtain ⟨decoded', hdecoded', hsame⟩ := Sentence.ofJson?_of_insertedItem htag hother hproduction hdecoded
    -- the sentences around the production are decoded as before
    rw [Json.mapM_append_cons_eq_some_iff.2 ⟨xs, decoded', ys, hfirst, hdecoded', hlast, rfl⟩] at hnew
    refine ⟨_, hnew, ?_⟩
    simp [Definition.withoutOther, FlatModule.withoutOther, hmodules, hsentences, List.filterMap_cons, hsame]

/-- The path of a document only shows in errors. -/
theorem Document.definition_of_path (hdefinition : Document.definition path value = .ok definition)
    (path' : String) : Document.definition path' value = .ok definition := by
  unfold Document.definition at hdefinition ⊢
  split at hdefinition
  · rw [if_pos ‹_›]
    split at hdefinition
    · exact hdefinition
    · contradiction
  · contradiction

/-- Any number of insertions leaves a document a definition, by induction on their number. -/
theorem exists_definition_of_insertions (h : Relation.ReflTransGen InsertsOther value value')
    (hdefinition : Document.definition path value = .ok definition) (path' : String) :
    ∃ definition', Document.definition path' value' = .ok definition' ∧
      definition'.withoutOther = definition.withoutOther := by
  induction h with
  | refl => exact ⟨definition, Document.definition_of_path hdefinition path', rfl⟩
  | tail _ hstep ih =>
    obtain ⟨between, hbetween, hsame⟩ := ih
    obtain ⟨definition', hdefinition', hlast⟩ := hstep.exists_definition hbetween path'
    exact ⟨definition', hdefinition', hlast.trans hsame⟩

/-- What is made of two definitions is the same: their rules, the labels and numbers of arguments of their
productions, how terms and rules are printed, their import graphs, and their coverage logs. -/
structure Definition.SameUse (d e : Definition) : Prop where
  rules : d.rules = e.rules
  productions : (d.productions.map fun p => (p.label, p.arity)) = e.productions.map fun p => (p.label, p.arity)
  termText : ∀ t : Term, t.text (SymbolTable.ofDefinition d) = t.text (SymbolTable.ofDefinition e)
  ruleText : ∀ rule : Rule, rule.text (SymbolTable.ofDefinition d) = rule.text (SymbolTable.ofDefinition e)
  graph : ImportGraph.ofDefinition d = ImportGraph.ofDefinition e
  dot : (ImportGraph.ofDefinition d).toDot = (ImportGraph.ofDefinition e).toDot
  log : ∀ content, CoverageLog.ofContent d content = CoverageLog.ofContent e content

theorem Definition.sameUse_of_withoutOther {d e : Definition} (h : d.withoutOther = e.withoutOther) :
    d.SameUse e := by
  have htable : SymbolTable.ofDefinition d = SymbolTable.ofDefinition e := by
    rw [← d.ofDefinition_withoutOther, h, e.ofDefinition_withoutOther]
  have hgraph : ImportGraph.ofDefinition d = ImportGraph.ofDefinition e := by
    rw [← d.importGraph_withoutOther, h, e.importGraph_withoutOther]
  refine ⟨?_, ?_, fun t => by rw [htable], fun rule => by rw [htable], hgraph, by rw [hgraph], fun content => ?_⟩
  · rw [← d.rules_withoutOther, h, e.rules_withoutOther]
  · have hproductions := congrArg (List.map fun p => (p.label, p.arity)) (congrArg Definition.productions h)
    simpa [Function.comp_def] using hproductions
  · rw [← d.ofContent_withoutOther, h, e.ofContent_withoutOther]

/-- Requests that read definitions of the same use, and coverage files of the same contents, come to the same, and
write the same bytes. -/
theorem Definition.SameUse.run_eq {d : Definition} (huse : d.SameUse definition) {request request' : Request}
    {s s' opened opened' : Session} {coverage coverage' : CoverageFile} {content : Bytes} {sink sink' : Sink}
    (h : request.ReadsCoverage s definition coverage content sink opened)
    (h' : request'.ReadsCoverage s' d coverage' content sink' opened') (hpath : coverage'.path = coverage.path)
    (htakes : ∀ cause held, sink ≠ .refusing cause held) (htakes' : ∀ cause held, sink' ≠ .refusing cause held)
    (host host' : Host) : (request'.run host' s').1 = (request.run host s).1 ∧
      ∃ bytes, (request.run host s).2.shown? sink = (opened.shown? sink).map (· ++ bytes) ∧
        (request'.run host' s').2.shown? sink' = (opened'.shown? sink').map (· ++ bytes) := by
  obtain ⟨hresult, hshown⟩ := h.run_eq htakes host
  obtain ⟨hresult', hshown'⟩ := h'.run_eq htakes' host'
  rw [huse.log, hpath] at hresult'
  rw [huse.log] at hshown'
  exact ⟨hresult'.trans hresult.symm, _, hshown, hshown'⟩

namespace Document

/-- Sentences and production items of other kinds, inserted in any number and anywhere in a document that can be read
as a definition, leave one that can, of which the same is made. So the coverage log of any file comes to the same, and
the same bytes go to the output. -/
theorem readDefinition_of_insertions {fs fs' : FileSystem} {path path' : String} {envelope envelope' : Envelope}
    (hread : read fs path = .ok envelope) (hread' : read fs' path' = .ok envelope')
    (hinsertions : Relation.ReflTransGen InsertsOther envelope.term envelope'.term)
    (hdefinition : readDefinition fs path = .ok definition) :
    ∃ definition', readDefinition fs' path' = .ok definition' ∧ definition'.SameUse definition ∧
      ∀ (request request' : Request) (s s' opened opened' : Session) (coverage coverage' : CoverageFile)
        (content : Bytes) (sink sink' : Sink),
        request.ReadsCoverage s definition coverage content sink opened →
        request'.ReadsCoverage s' definition' coverage' content sink' opened' → coverage'.path = coverage.path →
        (∀ cause held, sink ≠ .refusing cause held) → (∀ cause held, sink' ≠ .refusing cause held) →
        ∀ host host' : Host, (request'.run host' s').1 = (request.run host s).1 ∧
          ∃ bytes, (request.run host s).2.shown? sink = (opened.shown? sink).map (· ++ bytes) ∧
            (request'.run host' s').2.shown? sink' = (opened'.shown? sink').map (· ++ bytes) := by
  have hold : Document.definition path envelope.term = .ok definition := by
    rw [readDefinition, hread] at hdefinition
    exact hdefinition
  obtain ⟨definition', hnew, hsame⟩ := exists_definition_of_insertions hinsertions hold path'
  have huse := Definition.sameUse_of_withoutOther hsame
  refine ⟨definition', ?_, huse, ?_⟩
  · rw [readDefinition, hread']
    exact hnew
  · intro request request' s s' opened opened' coverage coverage' content sink sink' h h' hpath htakes htakes'
    exact huse.run_eq h h' hpath htakes htakes'

/-! The sample definition, with an item and a sentence of other kinds. -/

def regexItem : Json := .object [("node", .string "KRegexTerminal"), ("regex", .string "a")]

def contextSentence : Json := .object [("body", .null), ("node", .string "KContext")]

def sampleProductionValue (items : List Json) : Json :=
  .array [.string "KProduction", .string "f", .string "S", .array (.array [.string "KTerminal", .string "f"] ::
    (items ++ [.array [.string "KNonTerminal", .string "S"]]))]

def sampleRuleValue : Json :=
  .array [.string "KRule", .array [.string "KApply", .string "f", .array [.array [.string "KVariable", .string "X"]]],
    .null, .null, .object [("UNIQUE_ID", .string "r1")]]

def sampleModuleValue (items sentences : List Json) : Json :=
  .array [.string "M", .array [], .array (sampleProductionValue items :: (sentences ++ [sampleRuleValue]))]

def sampleValue (items sentences : List Json) : Json :=
  .object [("mainModule", .string "M"), ("modules", .array [sampleModuleValue items sentences]),
    ("node", .string "KDefinition")]

theorem changesSentences_sampleValue (items items' sentences sentences' : List Json) :
    ChangesSentences (sampleProductionValue items :: (sentences ++ [sampleRuleValue]))
      (sampleProductionValue items' :: (sentences' ++ [sampleRuleValue])) (sampleValue items sentences)
      (sampleValue items' sentences') := by
  refine @ChangesSentences.intro _ _ _ _ [] [] (sampleModuleValue items sentences)
    (sampleModuleValue items' sentences') ?_ ?_
  · exact @Json.ChangesField.member _ _ _ _ [("mainModule", .string "M")] [("node", .string "KDefinition")] (by simp)
  · exact @Json.ChangesField.element _ _ _ _ [.string "M", .array []] [] rfl

theorem insertions_sampleValue :
    Relation.ReflTransGen InsertsOther (sampleValue [] []) (sampleValue [regexItem] [contextSentence]) := by
  have hproduction : ChangesNode (.string "KProduction") ["klabel", "sort", "productionItems", "att"]
      "productionItems" (.array [.array [.string "KTerminal", .string "f"], .array [.string "KNonTerminal", .string "S"]])
      (.array [.array [.string "KTerminal", .string "f"], regexItem, .array [.string "KNonTerminal", .string "S"]])
      (sampleProductionValue []) (sampleProductionValue [regexItem]) :=
    ⟨_, _, rfl, rfl, @Json.ChangesField.element _ _ _ _ [.string "f", .string "S"] [] rfl⟩
  have hitem : InsertsOther (sampleValue [] []) (sampleValue [regexItem] []) :=
    @InsertsOther.item _ _ [.array [.string "KTerminal", .string "f"]] [.array [.string "KNonTerminal", .string "S"]]
      [] [sampleRuleValue] regexItem _ _ "KRegexTerminal" rfl (by decide) hproduction
      (changesSentences_sampleValue [] [regexItem] [] [])
  have hsentence : InsertsOther (sampleValue [regexItem] []) (sampleValue [regexItem] [contextSentence]) :=
    @InsertsOther.sentence _ _ [sampleProductionValue [regexItem]] [sampleRuleValue] contextSentence "KContext" rfl
      (by decide) (changesSentences_sampleValue [regexItem] [regexItem] [] [contextSentence])
  exact .tail (.single hitem) hsentence

/-- The sample document with an item and a sentence of other kinds. -/
def insertedDocument : Bytes :=
  ["\x7b\"term\":\x7b", "\"node\":", "\"KDefinition\",", "\"mainModule\":", "\"M\",", "\"modules\":[",
    "[\"M\",[],[", "[\"KProduction\",", "\"f\",\"S\",", "[[\"KTerminal\",\"f\"],", "\x7b\"node\":",
    "\"KRegexTerminal\",", "\"regex\":\"a\"\x7d,", "[\"KNonTerminal\",", "\"S\"]]],", "\x7b\"node\":",
    "\"KContext\",", "\"body\":null\x7d,", "[\"KRule\",", "[\"KApply\",\"f\",", "[[\"KVariable\",",
    "\"X\"]]],null,null,", "\x7b\"UNIQUE_ID\":", "\"r1\"\x7d]]]]\x7d\x7d"].flatMap utf8

theorem readDefinition_of_insertions_sample :
    ∃ definition', readDefinition (Request.sampleFiles insertedDocument Request.sampleCoverage)
        (Path.join "d" "compiled.json") = .ok definition' ∧
      definition'.SameUse Request.sampleDefinition ∧
      (Request.sampleRequest.run Request.sampleHost
          (.start (Request.sampleFiles insertedDocument Request.sampleCoverage) [])).1 =
        (Request.sampleRequest.run Request.sampleHost
          (.start (Request.sampleFiles Request.sampleDocument Request.sampleCoverage) [])).1 := by
  have hold : (read (Request.sampleFiles Request.sampleDocument Request.sampleCoverage)
      (Path.join "d" "compiled.json")).map Envelope.term = .ok (sampleValue [] []) := by decide +kernel
  have hnew : (read (Request.sampleFiles insertedDocument Request.sampleCoverage)
      (Path.join "d" "compiled.json")).map Envelope.term = .ok (sampleValue [regexItem] [contextSentence]) := by
    decide +kernel
  have hinsertions := insertions_sampleValue
  obtain ⟨envelope, hread, hterm⟩ := exists_read hold
  obtain ⟨envelope', hread', hterm'⟩ := exists_read hnew
  rw [← hterm, ← hterm'] at hinsertions
  obtain ⟨definition', hdefinition', huse, hruns⟩ :=
    readDefinition_of_insertions hread hread' hinsertions Request.readDefinition_sample
  have hlogs := Request.logsCoverage_sample Request.readDefinition_sample
  have hlogs' := Request.logsCoverage_sample hdefinition'
  exact ⟨definition', hdefinition', huse, (hruns _ _ _ _ _ _ _ _ _ _ _ hlogs.readsCoverage hlogs'.readsCoverage rfl
    (by simp) (by simp) Request.sampleHost Request.sampleHost).1⟩

end Document

end KDispatch
