import KDispatch.Proofs.CoverageLog.Lines
import KDispatch.Proofs.Session.Course

/-!
Carrying out a request for a coverage log. If its files can be used and the output is none of those that
are read, the output shows the log and the request comes to what the log says, whatever else is in the
session.
-/

namespace KDispatch

/-- The summary or the error that a request for a coverage log comes to. -/
def CoverageLog.outcome (log : CoverageLog) (path : String) : Except RequestError Summary :=
  match log.failure with
  | none => .ok ⟨.coverageLog, "coverage-log " ++ path, 0, [], []⟩
  | some failure => .error (failure.toError path)

/-- A request for a coverage log whose files can be used: the coverage file and the definition are read from
the session, and the output, which is none of them, opens and takes all bytes. -/
structure Request.LogsCoverage (request : Request) (s : Session) (definition : Definition)
    (coverage : CoverageFile) (content : Bytes) (sink : Sink) (opened : Session) : Prop where
  command : request.command = .coverageLog
  inputs : request.openInputs s.files = .ok (some coverage)
  content : (s.readAt coverage.location).1 = .ok content
  definition : ∃ directory ∈ request.definition,
    Document.readDefinition s.files (Path.join directory "compiled.json") = .ok definition
  output : s.openSink request.output = .ok (sink, opened)
  takes : ∀ cause held, sink ≠ .refusing cause held
  names : s.files.NamesAgree
  besideCoverage : ∀ output ∈ sink.location?, coverage.location ∉ s.files.namesOf output
  besideDefinition : ∀ output ∈ sink.location?, ∀ directory ∈ request.definition, ∀ document,
    s.files.locate (Path.join directory "compiled.json") = .ok document →
      document ∉ s.files.namesOf output

/-- What is read for a coverage log once the output has been opened, which may be one of the files. -/
structure Request.ReadsCoverage (request : Request) (s : Session) (definition : Definition)
    (coverage : CoverageFile) (content : Bytes) (sink : Sink) (opened : Session) : Prop where
  command : request.command = .coverageLog
  inputs : request.openInputs s.files = .ok (some coverage)
  output : s.openSink request.output = .ok (sink, opened)
  definition : ∃ directory ∈ request.definition,
    Document.readDefinition opened.files (Path.join directory "compiled.json") = .ok definition
  content : (opened.readAt coverage.location).1 = .ok content

theorem CoverageLog.flatten_pieces (log : CoverageLog) :
    (log.entries.flatMap CoverageEntry.pieces).flatten = log.text := by
  simp only [text, List.flatMap_def, List.flatten_flatten, List.map_map]
  rfl

/-! ## The work -/

/-- Whether a step that started with an opened output has left the log there and come to its outcome. -/
structure CoverageLog.Written (log : CoverageLog) (path : String) (start : Session) (sink : Sink)
    (ended : Except RequestError (Summary × Sink) × Session) : Prop where
  result : ended.1 = (log.outcome path).map fun summary =>
    (summary, sink.advance (Utf8.encode log.text).length)
  atEnd : ended.2.AtEnd (sink.advance (Utf8.encode log.text).length)
  shown : ended.2.shown? sink = (start.shown? sink).map (· ++ Utf8.encode log.text)

theorem CoverageLog.Written.of_shown {log : CoverageLog} {path : String} {s t : Session} {sink : Sink}
    {ended : Except RequestError (Summary × Sink) × Session} (h : log.Written path s sink ended)
    (hshown : s.shown? sink = t.shown? sink) : log.Written path t sink ended :=
  ⟨h.result, h.atEnd, hshown ▸ h.shown⟩

theorem CoverageLog.Written.reporting {log : CoverageLog} {path : String} {s : Session} {sink : Sink}
    {step : Step (Summary × Sink)} (h : log.Written path s sink (step s)) :
    log.Written path s sink (step.reporting s) where
  result := (Session.fst_reporting step s).trans h.result
  atEnd := (Session.atEnd_congr (Session.files_reporting step s)).2 h.atEnd
  shown := (Session.shown?_reporting step s sink).trans h.shown

namespace Session

variable {s : Session} {sink : Sink} {request : Request} {coverage : CoverageFile} {content : Bytes}

/-- The log of what is read goes to the output, and the result is the outcome of the log. -/
theorem written_writeLog (hend : s.AtEnd sink) (hcommand : request.command = .coverageLog)
    (hcontent : (s.readAt coverage.location).1 = .ok content) (definition : Definition) :
    (CoverageLog.ofContent definition content).Written coverage.path s sink
      (writeLog request definition coverage sink s) := by
  obtain ⟨stdin, hread⟩ := readAt_ok hcontent
  have hend' : ({ s with stdin } : Session).AtEnd sink := (atEnd_congr rfl).1 hend
  generalize hlog : CoverageLog.ofContent definition content = log
  obtain ⟨s', hwrite, hatEnd, hshown⟩ :=
    writeAll_of_atEnd hend' (log.entries.flatMap CoverageEntry.pieces)
  rw [log.flatten_pieces] at hwrite hatEnd hshown
  have hstart : ({ s with stdin } : Session).shown? sink = s.shown? sink := shown?_congr rfl rfl rfl sink
  rw [hstart] at hshown
  unfold writeLog
  rw [hread]
  dsimp only
  rw [hlog, hwrite]
  dsimp only
  cases hfailure : log.failure with
  | some failure =>
    refine ⟨?_, hatEnd, hshown⟩
    rw [CoverageLog.outcome, hfailure]
    rfl
  | none =>
    refine ⟨?_, (atEnd_congr rfl).1 hatEnd, (shown?_log ..).trans hshown⟩
    rw [CoverageLog.outcome, hfailure, hcommand]
    rfl

theorem written_logCoverage (hend : s.AtEnd sink) (hcommand : request.command = .coverageLog)
    (hcontent : (s.readAt coverage.location).1 = .ok content) {definition : Definition}
    (hdefinition : ∃ directory ∈ request.definition,
      Document.readDefinition s.files (Path.join directory "compiled.json") = .ok definition) :
    (CoverageLog.ofContent definition content).Written coverage.path s sink
      (s.logCoverage request (some coverage) sink) := by
  obtain ⟨directory, hdirectory, hread⟩ := hdefinition
  obtain ⟨records, hread⟩ := readDefinition_ok hread
  have hcontent' : (({ s with records } : Session).readAt coverage.location).1 = .ok content :=
    (readAt_congr (s := { s with records }) (t := s) rfl rfl).trans hcontent
  have hwritten := written_writeLog (s := { s with records }) ((atEnd_congr rfl).1 hend) hcommand
    hcontent' definition
  refine CoverageLog.Written.reporting ?_
  rw [hdirectory]
  dsimp only
  rw [hread]
  exact hwritten.of_shown (shown?_congr rfl rfl rfl sink)

end Session

/-! ## The request -/

/-- A log that the work has left in the output is what the request comes to. -/
theorem Request.run_of_written {request : Request} {host : Host} {s opened : Session}
    {coverage : Option CoverageFile} {sink : Sink} {log : CoverageLog} {path : String}
    (hinputs : request.openInputs s.files = .ok coverage)
    (houtput : s.openSink request.output = .ok (sink, opened))
    (hwritten : ∀ records,
      log.Written path opened sink (request.perform host coverage sink { opened with records })) :
    (request.run host s).1 = log.outcome path ∧
      (request.run host s).2.shown? sink = (opened.shown? sink).map (· ++ Utf8.encode log.text) := by
  obtain ⟨before, after, result, ended, hdeliver, hrun⟩ := run_of_openSink hinputs houtput host
  rcases hwork : request.perform host coverage sink { opened with records := before } with ⟨done, s'⟩
  obtain ⟨hresult, hend, hshown⟩ := hwork ▸ hwritten before
  rw [hwork] at hdeliver
  dsimp only at hresult hend hshown
  have hended : ended.shown? sink = ({ ended with records := after } : Session).shown? sink :=
    Session.shown?_congr rfl rfl rfl sink
  rw [hrun, ← hended]
  cases hfailure : log.failure with
  | some failure =>
    rw [CoverageLog.outcome, hfailure] at hresult ⊢
    rw [hresult] at hdeliver
    cases hdeliver
    exact ⟨rfl, hshown⟩
  | none =>
    rw [CoverageLog.outcome, hfailure] at hresult ⊢
    obtain ⟨s'', hfinish, hfinal⟩ := Session.finish_of_atEnd hend []
    -- the summary of a log has no output of its own
    rw [hresult] at hdeliver
    dsimp only [Except.map, deliver] at hdeliver
    rw [Utf8.encode_nil, hfinish] at hdeliver
    cases hdeliver
    rw [Session.shown?_advance, Session.shown?_advance, hshown, Option.map_map] at hfinal
    refine ⟨rfl, ?_⟩
    simpa [Function.comp_def] using hfinal

namespace Request

variable {request : Request} {s opened : Session} {definition : Definition} {coverage : CoverageFile}
  {content : Bytes} {sink : Sink}

/-- The output and the outcome of a request are those of the log, if the output takes bytes. -/
theorem ReadsCoverage.run_eq (h : request.ReadsCoverage s definition coverage content sink opened)
    (htakes : ∀ cause held, sink ≠ .refusing cause held) (host : Host) :
    (request.run host s).1 = (CoverageLog.ofContent definition content).outcome coverage.path ∧
      (request.run host s).2.shown? sink = (opened.shown? sink).map
        (· ++ Utf8.encode (CoverageLog.ofContent definition content).text) := by
  have hend := Session.atEnd_of_openSink h.output htakes
  refine run_of_written h.inputs h.output fun records => ?_
  have hcontent : (({ opened with records } : Session).readAt coverage.location).1 = .ok content :=
    (Session.readAt_congr (s := { opened with records }) (t := opened) rfl rfl).trans h.content
  have hwritten := Session.written_logCoverage (s := { opened with records })
    ((Session.atEnd_congr rfl).1 hend) h.command hcontent h.definition
  rw [perform, h.command]
  exact hwritten.of_shown (Session.shown?_congr rfl rfl rfl sink)

/-- Files beside the output are read as they were before it was opened. -/
theorem LogsCoverage.readsCoverage
    (h : request.LogsCoverage s definition coverage content sink opened) :
    request.ReadsCoverage s definition coverage content sink opened := by
  obtain ⟨hopened, -, hsame⟩ := Session.openSink_cases h.names.namesReplaceable h.output
  have hstdin : opened.stdin = s.stdin := by rw [hopened]
  have hbeside : ¬ s.IsOutput sink coverage.location := fun ⟨output, houtput, hname⟩ =>
    h.besideCoverage output houtput hname
  obtain ⟨directory, hdirectory, hread⟩ := h.definition
  have hdefinition : Document.readDefinition opened.files (Path.join directory "compiled.json") =
      .ok definition := by
    refine hsame.readDefinition_ok (fun document hlocate ⟨output, houtput, hname⟩ => ?_) hread
    exact h.besideDefinition output houtput directory hdirectory document hlocate hname
  exact ⟨h.command, h.inputs, h.output, ⟨directory, hdirectory, hdefinition⟩,
    (Session.readAt_congr (hsame.elsewhere _ hbeside) hstdin).trans h.content⟩

theorem LogsCoverage.run_eq (h : request.LogsCoverage s definition coverage content sink opened)
    (host : Host) :
    (request.run host s).1 = (CoverageLog.ofContent definition content).outcome coverage.path ∧
      (request.run host s).2.shown? sink = (opened.shown? sink).map
        (· ++ Utf8.encode (CoverageLog.ofContent definition content).text) :=
  h.readsCoverage.run_eq h.takes host

def sampleFiles (document coverage : Bytes) : FileSystem :=
  .ofNodes [] [(["d"], .directory), (["d", "compiled.json"], .file document false),
    (["coverage"], .file coverage false)]

def sampleRequest : Request :=
  ⟨.coverageLog, some "d", .standard, .file "log", .kast, .pretty, some "coverage", none, []⟩

def sampleHost : Host := ⟨fun _ _ _ => .error .notFound, "/tmp", "input"⟩

/-- The session in which the new file has been opened. -/
def sampleOpened (document coverage : Bytes) : Session :=
  .start (((sampleFiles document coverage).put ["log"] (.file [] false)).stamp ["log"]) []

/-- Any definition that reads can be used with any coverage file. -/
theorem logsCoverage_sample {document content : Bytes} {definition : Definition}
    (h : Document.readDefinition (sampleFiles document content) (Path.join "d" "compiled.json") =
      .ok definition) :
    sampleRequest.LogsCoverage (.start (sampleFiles document content) []) definition
      ⟨"coverage", ["coverage"]⟩ content (.file ["log"] 0) (sampleOpened document content) where
  command := rfl
  inputs := rfl
  content := rfl
  definition := ⟨"d", rfl, h⟩
  output := rfl
  takes := by simp
  names := FileSystem.namesAgree_ofNodes _ _
  besideCoverage := by
    rintro output houtput
    cases houtput
    change ["coverage"] ∉ [["log"]]
    decide
  besideDefinition := by
    rintro output houtput directory hdirectory document' hlocate
    cases houtput
    cases hdirectory
    have hdocument : (sampleFiles document content).locate (Path.join "d" "compiled.json") =
      .ok ["d", "compiled.json"] := rfl
    obtain rfl := Except.ok.inj (hdocument.symm.trans hlocate)
    change ["d", "compiled.json"] ∉ [["log"]]
    decide

/-- A rule with an identifier. -/
def sampleRule (attributes : List (String × Json)) : Rule :=
  ⟨.apply "f" [.var "X"], none, none,
    KeyMap.ofList ((Attributes.uniqueIdKey, .string "r1") :: attributes)⟩

def sampleProduction (sort : String) : Production :=
  ⟨some "f", some sort, [.terminal "f", .nonTerminal "S"], .empty⟩

def sampleDefinition : Definition :=
  ⟨"M", [⟨"M", [], [.production (sampleProduction "S"), .rule (sampleRule [])], .empty⟩], .empty⟩

/-- The sample definition as a document. -/
def sampleDocument : Bytes :=
  ["\x7b\"term\":\x7b", "\"node\":", "\"KDefinition\",", "\"mainModule\":", "\"M\",", "\"modules\":[",
    "[\"M\",[],[", "[\"KProduction\",", "\"f\",\"S\",", "[[\"KTerminal\",\"f\"],",
    "[\"KNonTerminal\",", "\"S\"]]],", "[\"KRule\",", "[\"KApply\",\"f\",", "[[\"KVariable\",",
    "\"X\"]]],null,null,", "\x7b\"UNIQUE_ID\":", "\"r1\"\x7d]]]]\x7d\x7d"].flatMap utf8

/-- The second rule is unknown, so the log ends before the first rule comes again. -/
def sampleCoverage : Bytes := utf8 "r1\r\n \nr2\nr1"

theorem readDefinition_sample : Document.readDefinition (sampleFiles sampleDocument sampleCoverage)
    (Path.join "d" "compiled.json") = .ok sampleDefinition := by
  decide +kernel

/-- Requests with definitions whose first rules are the same up to the source map, and whose first productions
have the same shapes, leave the same bytes and come to the same. -/
theorem run_coverageLog_of_first_sentences {request' : Request} {s' opened' : Session}
    {definition' : Definition} {coverage' : CoverageFile} {sink' : Sink}
    (h : request.LogsCoverage s definition coverage content sink opened)
    (h' : request'.LogsCoverage s' definition' coverage' content sink' opened')
    (hpath : coverage.path = coverage'.path)
    (hrules : ∀ id, (definition.ruleById? id).map Rule.withoutSourceMap =
      (definition'.ruleById? id).map Rule.withoutSourceMap)
    (hproductions : ∀ label, (definition.productionByLabel? label).map Production.shape =
      (definition'.productionByLabel? label).map Production.shape) (host host' : Host) :
    (request.run host s).1 = (request'.run host' s').1 ∧
      ∃ bytes, (request.run host s).2.shown? sink = (opened.shown? sink).map (· ++ bytes) ∧
        (request'.run host' s').2.shown? sink' = (opened'.shown? sink').map (· ++ bytes) := by
  obtain ⟨hresult, hshown⟩ := h.run_eq host
  obtain ⟨hresult', hshown'⟩ := h'.run_eq host'
  rw [CoverageLog.ofContent_congr hrules hproductions] at hresult hshown
  exact ⟨by rw [hresult, hresult', hpath], _, hshown, hshown'⟩

/-- The sample definition in two modules, with another sort, a source map and later duplicates. -/
def regroupedDefinition : Definition :=
  ⟨"M", [⟨"N", [], [.rule (sampleRule [(Attributes.locationKey, .string "L")]),
      .rule ⟨.var "X", none, none, KeyMap.ofList [(Attributes.uniqueIdKey, .string "r1")]⟩], .empty⟩,
    ⟨"M", ["N"], [.production (sampleProduction "T"), .production ⟨some "f", none, [], .empty⟩],
      .empty⟩], .empty⟩

def regroupedDocument : Bytes :=
  ["\x7b\"term\":\x7b", "\"node\":", "\"KDefinition\",", "\"mainModule\":", "\"M\",", "\"modules\":[",
    "[\"N\",[],[", "[\"KRule\",", "[\"KApply\",\"f\",", "[[\"KVariable\",", "\"X\"]]],null,null,",
    "\x7b\"UNIQUE_ID\":", "\"r1\",", "\"org.kframework.", "attributes.", "Location\":", "\"L\"\x7d],",
    "[\"KRule\",", "[\"KVariable\",", "\"X\"],null,null,", "\x7b\"UNIQUE_ID\":", "\"r1\"\x7d]]],",
    "[\"M\",[\"N\"],[", "[\"KProduction\",", "\"f\",\"T\",", "[[\"KTerminal\",\"f\"],",
    "[\"KNonTerminal\",", "\"S\"]]],", "[\"KProduction\",", "\"f\",null,[]]]]]\x7d\x7d"].flatMap utf8

theorem run_coverageLog_of_first_sentences_regrouped :
    sampleRequest.LogsCoverage (.start (sampleFiles sampleDocument sampleCoverage) []) sampleDefinition
        ⟨"coverage", ["coverage"]⟩ sampleCoverage (.file ["log"] 0)
        (sampleOpened sampleDocument sampleCoverage) ∧
      sampleRequest.LogsCoverage (.start (sampleFiles regroupedDocument sampleCoverage) [])
        regroupedDefinition ⟨"coverage", ["coverage"]⟩ sampleCoverage (.file ["log"] 0)
        (sampleOpened regroupedDocument sampleCoverage) ∧
      (sampleRequest.run sampleHost (.start (sampleFiles sampleDocument sampleCoverage) [])).1 =
        (sampleRequest.run sampleHost (.start (sampleFiles regroupedDocument sampleCoverage) [])).1 := by
  have hsample := logsCoverage_sample readDefinition_sample
  have hregrouped : Document.readDefinition (sampleFiles regroupedDocument sampleCoverage)
      (Path.join "d" "compiled.json") = .ok regroupedDefinition := by
    decide +kernel
  have hrules (id : String) : (sampleDefinition.ruleById? id).map Rule.withoutSourceMap =
      (regroupedDefinition.ruleById? id).map Rule.withoutSourceMap := by
    by_cases hid : id = "r1"
    · subst hid
      decide +kernel
    · have hnone (d : Definition) (h : ∀ rule ∈ d.rules, rule.uniqueId? = some "r1") :
          d.ruleById? id = none :=
        Definition.ruleById?_eq_none_iff.2 fun rule hrule heq =>
          hid (Option.some.inj (heq.symm.trans (h rule hrule)))
      rw [hnone sampleDefinition (by decide +kernel), hnone regroupedDefinition (by decide +kernel)]
  have hproductions (label : String) :
      (sampleDefinition.productionByLabel? label).map Production.shape =
        (regroupedDefinition.productionByLabel? label).map Production.shape := by
    by_cases hlabel : label = "f"
    · subst hlabel
      decide +kernel
    · have hnone (d : Definition) (h : ∀ production ∈ d.productions, production.label = some "f") :
          d.productionByLabel? label = none :=
        List.find?_eq_none.2 fun production hproduction => by
          simp [h production hproduction, Ne.symm hlabel]
      rw [hnone sampleDefinition (by decide +kernel), hnone regroupedDefinition (by decide +kernel)]
  exact ⟨hsample, logsCoverage_sample hregrouped,
    (run_coverageLog_of_first_sentences hsample (logsCoverage_sample hregrouped) rfl hrules
      hproductions sampleHost sampleHost).1⟩

end Request

end KDispatch
