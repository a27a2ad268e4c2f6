import KDispatch.Proofs.CoverageLog.Run
import KDispatch.Proofs.Printing.Rule

/-!
Reading a coverage log back. An entry is two line feeds and a paragraph: the identifier on the first line, and
then the printed rule, all further lines of which are indented. So the paragraphs of a log are its entries,
whatever the texts in its rules look like.
-/

namespace KDispatch

namespace CoverageLog

/-- The identifiers on the lines that are not blank, in order, each with the rule that is printed for it. -/
inductive Names (definition : Definition) : List Bytes → List (String × Rule) → Prop
  | nil : Names definition [] []
  | blank {line : Bytes} {more : List Bytes} {printed : List (String × Rule)} {text : Text}
      (h : Utf8.encode text = line) (hblank : Text.trim text = [])
      (hmore : Names definition more printed) : Names definition (line :: more) printed
  | rule {line : Bytes} {more : List Bytes} {printed : List (String × Rule)} {text : Text} {id : String}
      {rule : Rule} (h : Utf8.encode text = line) (hid : Text.trim text = id.toList) (hne : id ≠ "")
      (hrule : definition.ruleById? id = some rule) (hmore : Names definition more printed) :
      Names definition (line :: more)
        ((id, rule.withoutSourceMap.stripCoverageLogger.minimize) :: printed)

/-- What stands in a log for an identifier and its rule, without the line feeds before it. -/
def paragraph (table : SymbolTable) (named : String × Rule) : Text :=
  "Rule: ".toList ++ named.1.toList ++ "\nUnparsed:\n".toList ++ named.2.text table

variable {definition : Definition} {table : SymbolTable} {ls : List Bytes}
  {printed : List (String × Rule)}

/-! ## The rules of a log -/

theorem entry?_ok_cases {line : Bytes} {entry : Option CoverageEntry}
    (h : entry? definition.withoutSourceMap table line = .ok entry) :
    (∃ text, Utf8.encode text = line ∧ Text.trim text = [] ∧ entry = none) ∨
      ∃ text id rule, Utf8.encode text = line ∧ Text.trim text = id.toList ∧ id ≠ "" ∧
        definition.ruleById? id = some rule ∧
        entry = some ⟨id, rule.withoutSourceMap.stripCoverageLogger.minimize.text table⟩ := by
  cases hread : Utf8.decode? line with
  | none =>
    unfold entry? at h
    rw [hread] at h
    contradiction
  | some text =>
    have hline : Utf8.encode text = line := Utf8.decode?_eq_some_iff_encode.1 hread
    by_cases hblank : Text.trim text = []
    · unfold entry? at h
      rw [hread] at h
      dsimp only at h
      rw [hblank] at h
      exact .inl ⟨text, hline, hblank, (Except.ok.inj h).symm⟩
    · have hid : Text.trim text = (idOnLine text).toList := by simp [idOnLine]
      have hne : idOnLine text ≠ "" := by simpa [idOnLine] using hblank
      rw [entry?_of_trim hline hid hne, Definition.ruleById?_withoutSourceMap] at h
      cases hrule : definition.ruleById? (idOnLine text) with
      | none =>
        rw [hrule] at h
        contradiction
      | some rule =>
        rw [hrule] at h
        exact .inr ⟨text, _, rule, hline, hid, hne, hrule, (Except.ok.inj h).symm⟩

/-- A log that no line stops has an entry for each rule that is named, by induction on the lines. -/
theorem names_of_failure
    (h : (ofLines definition.withoutSourceMap table ls).failure = none) :
    ∃ printed, Names definition ls printed ∧
      (ofLines definition.withoutSourceMap table ls).entries =
        printed.map fun named => ⟨named.1, named.2.text table⟩ := by
  induction ls with
  | nil => exact ⟨[], .nil, rfl⟩
  | cons line more ih =>
    cases hentry : entry? definition.withoutSourceMap table line with
    | error failure =>
      rw [ofLines_cons, hentry] at h
      contradiction
    | ok entry =>
      rcases entry?_ok_cases hentry with
        ⟨text, hline, hblank, rfl⟩ | ⟨text, id, rule, hline, hid, hne, hrule, rfl⟩
      · rw [ofLines_cons, hentry] at h ⊢
        obtain ⟨printed, hnames, hentries⟩ := ih h
        exact ⟨printed, .blank hline hblank hnames, hentries⟩
      · rw [ofLines_cons, hentry] at h ⊢
        obtain ⟨printed, hnames, hentries⟩ := ih h
        refine ⟨_, .rule hline hid hne hrule hnames, ?_⟩
        dsimp only
        rw [hentries]
        rfl

/-- All rules of a log are rules of the definition. -/
theorem Names.exists_rule (h : Names definition ls printed) :
    ∀ named ∈ printed, ∃ rule ∈ definition.rules,
      named.2 = rule.withoutSourceMap.stripCoverageLogger.minimize := by
  induction h with
  | nil => simp
  | blank _ _ _ ih => exact ih
  | rule _ _ _ hrule _ ih =>
    rw [List.forall_mem_cons]
    exact ⟨⟨_, List.mem_of_find?_eq_some hrule, rfl⟩, ih⟩

/-! ## Identifiers -/

theorem IsSplit.newline_notMem {content : Bytes} (h : IsSplit content ls) :
    ∀ line ∈ ls, 0x0A ∉ line := by
  induction h with
  | empty => simp
  | last h _ => simpa using h
  | next h _ ih =>
    rw [List.forall_mem_cons]
    refine ⟨fun hmem => h ?_, ih⟩
    unfold Text.withoutReturn at hmem
    split at hmem
    · exact List.dropLast_subset _ hmem
    · exact hmem

theorem mem_of_mem_trim {c : Char} {text : Text} (h : c ∈ Text.trim text) : c ∈ text := by
  have hfront : c ∈ text.dropWhile Text.isBlank := by
    have hback : c ∈ ((text.dropWhile Text.isBlank).reverse.dropWhile Text.isBlank) := by
      simpa [Text.trim, Text.dropEndWhile] using h
    simpa using (List.dropWhile_suffix _).subset hback
  exact (List.dropWhile_suffix _).subset hfront

theorem newline_mem_encode {text : Text} (h : '\n' ∈ text) : 0x0A ∈ Utf8.encode text :=
  List.mem_flatMap.2 ⟨'\n', h, by decide⟩

/-- An identifier is on one line. -/
theorem Names.newline_notMem (h : Names definition ls printed) (hlines : ∀ line ∈ ls, 0x0A ∉ line) :
    ∀ named ∈ printed, '\n' ∉ named.1.toList := by
  induction h with
  | nil => simp
  | blank _ _ _ ih => exact ih (List.forall_mem_cons.1 hlines).2
  | rule hline hid _ _ _ ih =>
    rw [List.forall_mem_cons] at hlines ⊢
    refine ⟨fun hmem => hlines.1 ?_, ih hlines.2⟩
    rw [← hline]
    exact newline_mem_encode (mem_of_mem_trim (hid ▸ hmem))

/-! ## Paragraphs -/

theorem laterLines_paragraph {named : String × Rule} (hid : '\n' ∉ named.1.toList)
    (hattributes : named.2.attributes.IsSingleLine) :
    ∀ line ∈ Text.laterLines (paragraph table named), line ≠ [] := by
  have hfirst : '\n' ∉ "Rule: ".toList ++ named.1.toList := by simp [hid]
  have hrule : ∀ line ∈ Text.laterLines (named.2.text table), line ≠ [] := by
    intro line hline hempty
    have hindented := (Rule.isIndented hattributes table).lines line hline
    simp [hempty] at hindented
  obtain ⟨rest, hrest⟩ : ∃ rest, named.2.text table = "rule ".toList ++ rest := by
    rw [Rule.text_eq_append_afterBody]
    unfold Rule.throughBody
    rw [List.append_assoc, List.append_assoc]
    exact ⟨_, rfl⟩
  have hmark : "\nUnparsed:\n".toList = '\n' :: ("Unparsed:".toList ++ ['\n']) := by decide
  -- after the line of the identifier come the mark, the rule's first line and its indented lines
  unfold paragraph
  rw [List.append_assoc, Text.laterLines_append_of_notMem hfirst, hmark, List.cons_append,
    List.append_assoc, List.singleton_append, Text.laterLines_cons_newline,
    Text.laterLines_append_of_notMem (by decide), Text.laterLines_cons_newline, List.forall_mem_cons,
    List.forall_mem_cons]
  refine ⟨by simp, ?_, hrule⟩
  rw [hrest]
  simp

theorem text_eq_flatMap_paragraph (log : CoverageLog)
    (h : log.entries = printed.map fun named => ⟨named.1, named.2.text table⟩) :
    log.text = (printed.map (paragraph table)).flatMap ('\n' :: '\n' :: ·) := by
  have hmark : "\n\nRule: ".toList = '\n' :: '\n' :: "Rule: ".toList := by decide
  unfold text paragraph
  rw [h, List.flatMap_map, List.flatMap_map]
  simp [CoverageEntry.text, CoverageEntry.pieces, hmark]

end CoverageLog

/-! ## The request -/

/-- A log that is written without a failure is about a definition and a coverage file that have been read. -/
theorem Session.logCoverage_ok_cases {request : Request} {s : Session} {coverage? : Option CoverageFile}
    {sink : Sink} {done : Summary × Sink} (h : (s.logCoverage request coverage? sink).1 = .ok done) :
    ∃ directory coverage definition content, request.definition = some directory ∧
      coverage? = some coverage ∧
      Document.readDefinition s.files (Path.join directory "compiled.json") = .ok definition ∧
      (s.readAt coverage.location).1 = .ok content ∧
      (CoverageLog.ofContent definition content).failure = none := by
  unfold logCoverage at h
  rw [fst_reporting] at h
  split at h
  case h_1 => contradiction
  case h_2 => contradiction
  case h_3 directory coverage hdirectory =>
    obtain ⟨records, hread⟩ := s.readDefinition_eq (Path.join directory "compiled.json")
    rw [hread] at h
    cases hdefinition : Document.readDefinition s.files (Path.join directory "compiled.json") with
    | error e =>
      rw [hdefinition] at h
      contradiction
    | ok definition =>
      rw [hdefinition] at h
      dsimp only at h
      have hcongr : (({ s with records } : Session).readAt coverage.location).1 =
          (s.readAt coverage.location).1 := readAt_congr rfl rfl
      cases hcontent : (s.readAt coverage.location).1 with
      | error cause =>
        rw [hcontent] at hcongr
        unfold writeLog at h
        split at h
        case h_1 => contradiction
        case h_2 hok => simp [hok] at hcongr
      | ok content =>
        obtain ⟨stdin, hok⟩ := readAt_ok (hcongr.trans hcontent)
        refine ⟨directory, coverage, definition, content, hdirectory, rfl, hdefinition, hcontent, ?_⟩
        unfold writeLog at h
        rw [hok] at h
        dsimp only at h
        split at h
        case h_1 => contradiction
        case h_2 =>
          split at h
          case h_1 => contradiction
          case h_2 hfailure => exact hfailure

namespace Request

variable {request : Request} {host : Host} {s : Session}

theorem exists_work_of_deliver {work : Except RequestError (Summary × Sink) × Session} {summary : Summary}
    (h : (request.deliver work).1 = .ok summary) : ∃ done, work.1 = .ok done := by
  rcases work with ⟨_ | done, s⟩
  · contradiction
  · exact ⟨done, rfl⟩

/-- A request that succeeds has read a definition and a coverage file, no line of which stops the log. -/
theorem readsCoverage_of_ok {summary : Summary} (hcommand : request.command = .coverageLog)
    (h : (request.run host s).1 = .ok summary) :
    ∃ definition coverage content sink opened,
      request.ReadsCoverage s definition coverage content sink opened ∧
      (CoverageLog.ofContent definition content).failure = none := by
  obtain ⟨coverage?, sink, opened, hinputs, houtput⟩ := opened_of_ok h
  obtain ⟨before, after, result, ended, hdeliver, hrun⟩ := run_of_openSink hinputs houtput host
  rw [hrun] at h
  obtain ⟨done, hdone⟩ := exists_work_of_deliver ((congrArg Prod.fst hdeliver).trans h)
  rw [perform, hcommand] at hdone
  obtain ⟨directory, coverage, definition, content, hdirectory, rfl, hdefinition, hcontent, hfailure⟩ :=
    Session.logCoverage_ok_cases hdone
  have hread : (opened.readAt coverage.location).1 = .ok content :=
    (Session.readAt_congr (s := opened) (t := { opened with records := before }) rfl rfl).trans hcontent
  exact ⟨definition, coverage, content, sink, opened,
    ⟨hcommand, hinputs, houtput, ⟨directory, hdirectory, hdefinition⟩, hread⟩, hfailure⟩

/-- A log that is written can be read back. The rules are those that the lines of the coverage file name, and
if no attribute of a printed rule has a line feed in it, the paragraphs of what is written are the entries; the
lines of a rule can be told from the first line of an entry by their indentation. -/
theorem run_coverageLog_paragraphs {summary : Summary} (hcommand : request.command = .coverageLog)
    (h : (request.run host s).1 = .ok summary) :
    ∃ definition coverage content sink opened lines printed written,
      request.ReadsCoverage s definition coverage content sink opened ∧
      CoverageLog.IsSplit content lines ∧ CoverageLog.Names definition lines printed ∧
      (request.run host s).2.shown? sink = (opened.shown? sink).map (· ++ Utf8.encode written) ∧
      ((∀ named ∈ printed, named.2.attributes.IsSingleLine) →
        Text.paragraphs written =
            [] :: printed.map (CoverageLog.paragraph (SymbolTable.ofDefinition definition)) ∧
          ∀ named ∈ printed, named.2.IsIndented (SymbolTable.ofDefinition definition)) := by
  obtain ⟨definition, coverage, content, sink, opened, hreads, hfailure⟩ := readsCoverage_of_ok hcommand h
  have hlines := CoverageLog.isSplit_iff.2 (rfl : CoverageLog.lines content = _)
  rw [CoverageLog.ofContent_eq] at hfailure
  obtain ⟨printed, hnames, hentries⟩ := CoverageLog.names_of_failure hfailure
  rw [← CoverageLog.ofContent_eq] at hentries
  refine ⟨definition, coverage, content, sink, opened, _, printed,
    (CoverageLog.ofContent definition content).text, hreads, hlines, hnames, ?_, fun hattributes => ⟨?_, ?_⟩⟩
  · by_cases htakes : ∀ cause held, sink ≠ .refusing cause held
    · exact (hreads.run_eq htakes host).2
    · -- an output that takes no bytes shows none
      push Not at htakes
      obtain ⟨cause, held, rfl⟩ := htakes
      rfl
  · rw [CoverageLog.text_eq_flatMap_paragraph _ hentries]
    refine Text.paragraphs_flatMap fun text htext => ?_
    obtain ⟨named, hnamed, rfl⟩ := List.mem_map.1 htext
    exact CoverageLog.laterLines_paragraph
      (hnames.newline_notMem hlines.newline_notMem named hnamed) (hattributes named hnamed)
  · exact fun named hnamed => Rule.isIndented (hattributes named hnamed) _

/-- A rule in which a token looks like the beginning of an entry. -/
def headerRule : Rule :=
  ⟨.apply "f" [.token "a\n\nRule: r1\n" "S"], some (.token "\n\n" "Bool"), none,
    KeyMap.ofList [(Attributes.uniqueIdKey, .string "r1")]⟩

def headerDefinition : Definition :=
  ⟨"M", [⟨"M", [], [.production (sampleProduction "S"), .rule headerRule], .empty⟩], .empty⟩

def headerDocument : Bytes :=
  ["\x7b\"term\":\x7b", "\"node\":", "\"KDefinition\",", "\"mainModule\":", "\"M\",", "\"modules\":[",
    "[\"M\",[],[", "[\"KProduction\",", "\"f\",\"S\",", "[[\"KTerminal\",\"f\"],",
    "[\"KNonTerminal\",", "\"S\"]]],", "[\"KRule\",", "[\"KApply\",\"f\",", "[[\"KToken\",",
    "\"a\\n\\nRule: r1\\n\",", "\"S\"]]],", "[\"KToken\",", "\"\\n\\n\",", "\"Bool\"],null,",
    "\x7b\"UNIQUE_ID\":", "\"r1\"\x7d]]]]\x7d\x7d"].flatMap utf8

/-- The rule comes twice, with a blank line between. -/
def headerCoverage : Bytes := utf8 "r1\r\n \nr1"

theorem readDefinition_header :
    Document.readDefinition (sampleFiles headerDocument headerCoverage)
      (Path.join "d" "compiled.json") = .ok headerDefinition := by
  decide +kernel

theorem isSingleLine_header {rule : Rule} (h : rule ∈ headerDefinition.rules) :
    rule.withoutSourceMap.stripCoverageLogger.minimize.attributes.IsSingleLine := by
  obtain rfl : rule = headerRule := List.mem_singleton.1 h
  intro entry hentry
  obtain rfl : entry = (Attributes.uniqueIdKey, .string "r1") := List.mem_singleton.1 hentry
  simp [Attributes.uniqueIdKey]

def headerLog : Text :=
  "\n\nRule: r1\nUnparsed:\nrule f a\n     \n     Rule: r1\n     ".toList ++
    "\n  requires \n  \n  \n  [UNIQUE_ID(r1)]".toList ++
    "\n\nRule: r1\nUnparsed:\nrule f a\n     \n     Rule: r1\n     ".toList ++
    "\n  requires \n  \n  \n  [UNIQUE_ID(r1)]".toList

theorem run_coverageLog_paragraphs_header :
    (sampleRequest.run sampleHost (.start (sampleFiles headerDocument headerCoverage) [])).1 =
        .ok ⟨.coverageLog, "coverage-log coverage", 0, [], []⟩ ∧
      (sampleRequest.run sampleHost
        (.start (sampleFiles headerDocument headerCoverage) [])).2.shown? (.file ["log"] 0) =
          some (Utf8.encode headerLog) ∧
      ∃ printed, CoverageLog.Names headerDefinition (CoverageLog.lines headerCoverage) printed ∧
        Text.paragraphs headerLog =
          [] :: printed.map (CoverageLog.paragraph (SymbolTable.ofDefinition headerDefinition)) := by
  have hsample := logsCoverage_sample readDefinition_header
  obtain ⟨hresult, hbytes⟩ := hsample.run_eq sampleHost
  have hlog : (CoverageLog.ofContent headerDefinition headerCoverage).outcome "coverage" =
        .ok ⟨.coverageLog, "coverage-log coverage", 0, [], []⟩ ∧
      (CoverageLog.ofContent headerDefinition headerCoverage).text = headerLog := by
    decide +kernel
  rw [hlog.1] at hresult
  rw [hlog.2] at hbytes
  obtain ⟨definition, coverage, content, sink, opened, lines, printed, written,
    ⟨-, hinputs, houtput, ⟨directory, hdirectory, hdefinition⟩, hcontent⟩, hlines, hnames, hshown,
    hparagraphs⟩ := run_coverageLog_paragraphs rfl hresult
  -- the files of the run determine all that the theorem says to exist
  obtain rfl := Option.some.inj (Except.ok.inj (hsample.inputs.symm.trans hinputs))
  obtain ⟨rfl, rfl⟩ := Prod.mk.inj (Except.ok.inj (hsample.output.symm.trans houtput))
  cases hdirectory
  have hopened : Document.readDefinition (sampleOpened headerDocument headerCoverage).files
      (Path.join "d" "compiled.json") = .ok headerDefinition := by
    decide +kernel
  obtain rfl := Except.ok.inj (hopened.symm.trans hdefinition)
  obtain rfl : headerCoverage = content := Except.ok.inj hcontent
  obtain rfl : headerLog = written := by
    have hsame : Utf8.encode headerLog = Utf8.encode written :=
      Option.some.inj (hbytes.symm.trans hshown)
    exact Option.some.inj ((Utf8.decode?_eq_some_iff_encode.2 hsame).symm.trans
      (Utf8.decode?_eq_some_iff_encode.2 rfl))
  rw [CoverageLog.isSplit_iff.1 hlines] at hnames
  have hattributes : ∀ named ∈ printed, named.2.attributes.IsSingleLine := by
    intro named hnamed
    obtain ⟨rule, hrule, heq⟩ := hnames.exists_rule named hnamed
    rw [heq]
    exact isSingleLine_header hrule
  exact ⟨hresult, hbytes, printed, hnames, (hparagraphs hattributes).1⟩

end Request

end KDispatch
