import KDispatch.Proofs.Session.Frame

/-!
Which checks come first. The files that a request reads are opened before the output is created, and a process
is only started once the output has been. Whether a definition or a coverage file has been named at all is seen
by the work itself, when the output has been emptied already.
-/

namespace KDispatch

namespace Request

variable {host : Host} {request : Request} {s opened : Session} {sink : Sink}

/-! ## Files that cannot be opened -/

theorem openSink_of_create {path : String} {cause : SystemError} (houtput : request.output = .file path)
    (h : s.files.create path = .error cause) :
    s.openSink request.output = .error (.inputOutput path cause) := by
  rw [houtput, Session.openSink, h]

/-- An input, a coverage file or an output that cannot be opened ends a request, in this order, and nothing is
different then but the log records. A request starts one process at most, for a command that has a tool and
after all of its files have been opened. -/
theorem run_checks_files_first (host : Host) (request : Request) (s : Session) :
    (∀ path cause, request.input = .file path → s.files.openToRead path = .error cause →
      ∃ records, request.run host s = (.error (.inputOutput path cause), { s with records })) ∧
    (∀ path cause, request.input.IsReadable s.files → request.coverageFile = some path →
      s.files.openToRead path = .error cause →
      ∃ records, request.run host s = (.error (.inputOutput path cause), { s with records })) ∧
    (∀ path cause, request.InputsReadable s.files → request.output = .file path →
      s.files.create path = .error cause →
      ∃ records, request.run host s = (.error (.inputOutput path cause), { s with records })) ∧
    ((request.run host s).2.calls = s.calls ∨
      ∃ tool sink input ready process, request.Starts host s tool sink input ready process ∧
        request.command ∈ [.parse, .run, .prove] ∧ request.InputsReadable s.files ∧
        (request.run host s).2.calls = s.calls ++ [request.call tool input.path]) := by
  refine ⟨fun path cause hinput h => ?_, fun path cause hinput hcoverage h => ?_,
    fun path cause hinputs houtput h => ?_, ?_⟩
  · exact run_of_openInputs_error (openInputs_of_input hinput h) host
  · exact run_of_openInputs_error (openInputs_of_coverage hinput hcoverage h) host
  · obtain ⟨coverage, hopened⟩ := hinputs.openInputs_eq_ok
    exact run_of_openSink_error hopened (openSink_of_create houtput h) host
  · have hcases := run_cases host request s
    generalize request.run host s = ended at hcases ⊢
    cases hcases with
    | refused _ => exact .inl rfl
    | unstarted hcalls _ => exact .inl hcalls
    | @started tool sink input ready process _ _ hstarts hcalls _ =>
      refine .inr ⟨tool, sink, input, ready, process, hstarts, ?_, ?_, hcalls⟩
      · have hcommand := hstarts.command
        cases hkind : request.command <;> simp [hkind, Command.tool?] at hcommand ⊢
      · obtain ⟨coverage, opened, records, hinputs, -, -⟩ := hstarts.opened
        exact inputsReadable_of_openInputs hinputs

end Request

/-! ## Missing arguments -/

/-- Whether an error says that an argument is missing. -/
def RequestError.IsMissingArgument : RequestError → Prop
  | .missingDefinition _ | .missingCoverageFile => True
  | .inputOutput _ _ | .kast _ | .spawn _ _ => False

/-- Whether opening a place to write changes no content: nothing is emptied and nothing created. -/
def Place.OpensUnchanged (fs : FileSystem) : Place → Prop
  | .standard => True
  | .file path => ∃ location node, fs.locateToCreate path = .ok location ∧
    fs.node? location = some node ∧ ∀ content ∈ fs.content? location, content = []

namespace Request

variable {host : Host} {request : Request} {s opened : Session} {sink : Sink}
  {coverage : Option CoverageFile} {e : RequestError}

/-- The argument that a request lacks, as the error that says so. -/
inductive Lacks (request : Request) : RequestError → Prop
  | definition (hcommand : request.command = .graphImports ∨ request.command = .coverageLog)
      (h : request.definition = none) : Lacks request (.missingDefinition request.command)
  | coverageFile {directory : String} (hcommand : request.command = .coverageLog)
      (hdirectory : request.definition = some directory) (h : request.coverageFile = none) :
      Lacks request .missingCoverageFile

/-- A coverage file is opened exactly if one has been named. -/
theorem coverageFile_of_openInputs (h : request.openInputs s.files = .ok coverage) :
    request.coverageFile = coverage.map CoverageFile.path := by
  unfold openInputs openCoverage at h
  split at h
  · contradiction
  · cases hfile : request.coverageFile with
    | none =>
      rw [hfile] at h
      cases h
      rfl
    | some path =>
      rw [hfile] at h
      cases hopen : openToRead s.files path with
      | error e => simp [hopen, Except.map] at h
      | ok location =>
        obtain rfl : some ⟨path, location⟩ = coverage := by simpa [hopen, Except.map] using h
        rfl

theorem perform_of_lacks (h : request.Lacks e) (hinputs : request.openInputs s.files = .ok coverage)
    (host : Host) (sink : Sink) (opened : Session) :
    ∃ records, request.perform host coverage sink opened = (.error e, { opened with records }) := by
  cases h with
  | definition hcommand hdefinition =>
    rcases hcommand with hcommand | hcommand
    · obtain ⟨records, hrender⟩ : ∃ records, Session.renderGraphs request opened =
          (.error (.missingDefinition request.command), { opened with records }) := by
        refine Step.reporting_of_eq ?_
        rw [hdefinition]
      refine ⟨records, ?_⟩
      simp only [perform, hcommand] at hrender ⊢
      rw [hrender]
    · obtain ⟨records, hlog⟩ : ∃ records, Session.logCoverage request coverage sink opened =
          (.error (.missingDefinition request.command), { opened with records }) := by
        refine Step.reporting_of_eq ?_
        rw [hdefinition]
      refine ⟨records, ?_⟩
      simp only [perform, hcommand] at hlog ⊢
      exact hlog
  | coverageFile hcommand hdirectory hnone =>
    obtain rfl : coverage = none := by
      simpa [hnone] using (coverageFile_of_openInputs hinputs).symm
    obtain ⟨records, hlog⟩ : ∃ records, Session.logCoverage request none sink opened =
        (.error .missingCoverageFile, { opened with records }) := by
      refine Step.reporting_of_eq ?_
      rw [hdirectory]
    refine ⟨records, ?_⟩
    simp only [perform, hcommand]
    exact hlog

theorem run_of_lacks (h : request.Lacks e) (hinputs : request.openInputs s.files = .ok coverage)
    (hopen : s.openSink request.output = .ok (sink, opened)) (host : Host) :
    ∃ records, request.run host s = (.error e, { opened with records }) := by
  obtain ⟨before, after, result, ended, hdeliver, hrun⟩ := run_of_openSink hinputs hopen host
  obtain ⟨records, hwork⟩ := perform_of_lacks h hinputs host sink { opened with records := before }
  rw [hwork] at hdeliver
  cases hdeliver
  exact ⟨after, hrun⟩

/-! Only the work itself asks for arguments, so no other error is about them. -/

theorem not_isMissingArgument_of_openInputs (h : request.openInputs s.files = .error e) :
    ¬ e.IsMissingArgument := by
  rcases inputsReadable_or_openInputs_error request s.files with hreadable | ⟨path, cause, hrefused⟩
  · obtain ⟨coverage, hok⟩ := hreadable.openInputs_eq_ok
    rw [h] at hok
    contradiction
  · rw [h] at hrefused
    cases hrefused
    exact id

theorem not_isMissingArgument_of_openSink {place : Place} (h : s.openSink place = .error e) :
    ¬ e.IsMissingArgument := by
  unfold Session.openSink at h
  split at h
  · contradiction
  · split at h <;> cases h
    exact id

theorem not_isMissingArgument_of_writeLog {definition : Definition} {file : CoverageFile}
    (h : (Session.writeLog request definition file sink s).1 = .error e) : ¬ e.IsMissingArgument := by
  unfold Session.writeLog at h
  split at h
  · cases h
    exact id
  · dsimp only at h
    split at h
    · cases h
      exact id
    · split at h
      case h_1 failure _ =>
        cases h
        cases failure <;> exact id
      case h_2 => contradiction

theorem not_isMissingArgument_of_toolRun {tool : Tool}
    {work : Except RequestError (Summary × Sink) × Session}
    (hrun : Session.ToolRun host request sink tool s work) (h : work.1 = .error e) :
    ¬ e.IsMissingArgument := by
  cases hrun with
  | @unprovided e' refused records hinput =>
    have hprovided := Session.provided_provideInput host request.input s
    rw [hinput] at hprovided
    cases h
    generalize request.input = input at hprovided
    cases hprovided
    exact id
  | unstarted _ _ =>
    cases h
    exact id
  | ended _ _ => contradiction

/-- The work on graphs comes to a summary, whether the graphs can be written or not. -/
theorem perform_graphs {directory : String} (hcommand : request.command = .graphImports)
    (hdirectory : request.definition = some directory) :
    (request.perform host coverage sink s).1 = .ok (⟨request.command, "graph-imports " ++ directory,
      if (Session.writeGraphs directory graphStages s).1 then 0 else 1, [], []⟩, sink) := by
  have hrendered : (Session.renderGraphs request s).1 = .ok ⟨request.command,
      "graph-imports " ++ directory,
      if (Session.writeGraphs directory graphStages s).1 then 0 else 1, [], []⟩ := by
    unfold Session.renderGraphs
    rw [Session.fst_reporting, hdirectory]
  simp only [perform, hcommand] at hrendered ⊢
  generalize Session.renderGraphs request s = rendered at hrendered ⊢
  rcases rendered with ⟨_ | summary, s'⟩
  · contradiction
  · rw [Except.ok.inj hrendered]

theorem not_isMissingArgument_of_logCoverage {directory : String} {file : CoverageFile}
    (hdirectory : request.definition = some directory)
    (h : (Session.logCoverage request (some file) sink s).1 = .error e) : ¬ e.IsMissingArgument := by
  unfold Session.logCoverage at h
  rw [Session.fst_reporting, hdirectory] at h
  dsimp only at h
  split at h
  · cases h
    exact id
  · exact not_isMissingArgument_of_writeLog h

/-- The work says that an argument is missing only if the request lacks it. -/
theorem lacks_of_perform (hinputs : request.openInputs s.files = .ok coverage) (he : e.IsMissingArgument)
    (h : (request.perform host coverage sink opened).1 = .error e) : request.Lacks e := by
  -- a lack ends the work with its own error, so it is the one that `e` is about
  have hlacks {e' : RequestError} (h' : request.Lacks e') : request.Lacks e := by
    obtain ⟨records, hwork⟩ := perform_of_lacks h' hinputs host sink opened
    rw [hwork] at h
    obtain rfl := Except.error.inj h
    exact h'
  cases htool : request.command.tool? with
  | some tool =>
    rw [perform_of_tool htool] at h
    exact absurd he (not_isMissingArgument_of_toolRun (Session.toolRun_runTool ..) h)
  | none =>
  cases hdirectory : request.definition with
  | none => exact hlacks (.definition (command_of_tool?_eq_none htool) hdirectory)
  | some directory =>
    rcases command_of_tool?_eq_none htool with hcommand | hcommand
    · rw [perform_graphs hcommand hdirectory] at h
      contradiction
    · cases hfile : request.coverageFile with
      | none => exact hlacks (.coverageFile hcommand hdirectory hfile)
      | some path =>
        obtain ⟨file, rfl, -⟩ : ∃ file, coverage = some file ∧ file.path = path := by
          simpa [hfile] using (coverageFile_of_openInputs hinputs).symm
        simp only [perform, hcommand] at h
        exact absurd he (not_isMissingArgument_of_logCoverage hdirectory h)

/-- A request says that an argument is missing exactly if it lacks it and all of its files can be opened. -/
theorem run_missing_iff (he : e.IsMissingArgument) (host : Host) (s : Session) :
    (request.run host s).1 = .error e ↔ request.Lacks e ∧ request.InputsReadable s.files ∧
      ∃ opening, s.openSink request.output = .ok opening := by
  constructor
  · intro h
    cases hinputs : request.openInputs s.files with
    | error e' =>
      obtain ⟨records, hrun⟩ := run_of_openInputs_error hinputs host
      rw [hrun] at h
      cases h
      exact absurd he (not_isMissingArgument_of_openInputs hinputs)
    | ok coverage =>
    cases hopen : s.openSink request.output with
    | error e' =>
      obtain ⟨records, hrun⟩ := run_of_openSink_error hinputs hopen host
      rw [hrun] at h
      cases h
      exact absurd he (not_isMissingArgument_of_openSink hopen)
    | ok opening =>
    obtain ⟨sink, opened⟩ := opening
    refine ⟨?_, inputsReadable_of_openInputs hinputs, _, rfl⟩
    obtain ⟨before, after, result, ended, hdeliver, hrun⟩ := run_of_openSink hinputs hopen host
    rw [hrun] at h
    generalize hwork : request.perform host coverage sink { opened with records := before } = work
      at hdeliver
    rcases work with ⟨e' | ⟨summary, written⟩, s'⟩
    · cases hdeliver
      cases h
      exact lacks_of_perform hinputs he (congrArg Prod.fst hwork)
    · -- an output that refuses the last bytes is named by the error
      unfold deliver at hdeliver
      dsimp only at hdeliver
      split at hdeliver <;> cases hdeliver <;> cases h
      exact he.elim
  · rintro ⟨hlacks, hreadable, ⟨sink, opened⟩, hopen⟩
    obtain ⟨coverage, hinputs⟩ := hreadable.openInputs_eq_ok
    obtain ⟨records, hrun⟩ := run_of_lacks hlacks hinputs hopen host
    rw [hrun]

theorem node?_openSink_eq_iff {place : Place} (hnames : s.files.NamesAgree)
    (h : s.openSink place = .ok (sink, opened)) :
    (∀ location, opened.files.node? location = s.files.node? location) ↔
      place.OpensUnchanged s.files := by
  cases place with
  | standard =>
    cases h
    exact iff_of_true (fun _ => rfl) trivial
  | file path =>
    obtain ⟨location, files, hlocate, hcreated, rfl, rfl⟩ := Session.openSink_file_eq_ok_iff.1 h
    dsimp only
    rw [FileSystem.node?_createAt_eq_iff hnames hcreated]
    constructor
    · rintro ⟨⟨node, hnode⟩, hcontent⟩
      exact ⟨location, node, hlocate, hnode, hcontent⟩
    · rintro ⟨found, node, hfound, hnode, hcontent⟩
      obtain rfl := Except.ok.inj (hlocate.symm.trans hfound)
      exact ⟨⟨node, hnode⟩, hcontent⟩

/-- A request that lacks an argument ends when its output has been opened: the files are as before exactly if
the output is standard output or opening it emptied nothing and created nothing. -/
theorem run_missing_argument (he : e.IsMissingArgument) (hnames : s.files.NamesAgree) (host : Host) :
    ((request.run host s).1 = .error e ↔ request.Lacks e ∧ request.InputsReadable s.files ∧
      ∃ opening, s.openSink request.output = .ok opening) ∧
    ((request.run host s).1 = .error e → (request.run host s).2.calls = s.calls ∧
      ((∀ location, (request.run host s).2.files.node? location = s.files.node? location) ↔
        request.output.OpensUnchanged s.files)) := by
  refine ⟨run_missing_iff he host s, fun h => ?_⟩
  obtain ⟨hlacks, hreadable, ⟨sink, opened⟩, hopen⟩ := (run_missing_iff he host s).1 h
  obtain ⟨coverage, hinputs⟩ := hreadable.openInputs_eq_ok
  obtain ⟨records, hrun⟩ := run_of_lacks hlacks hinputs hopen host
  have hnodes := node?_openSink_eq_iff hnames hopen
  rw [hrun]
  exact ⟨(keptBeside_opened host hopen).1.calls, hnodes⟩

/-! An output that is there already, and a request for graphs that names no definition. -/

def outputFiles (content : Bytes) : FileSystem := .ofNodes [] [(["out.txt"], .file content false)]

def graphsRequest : Request :=
  ⟨.graphImports, none, .standard, .file "out.txt", .pretty, .pretty, none, none, []⟩

def idleHost : Host := ⟨fun _ _ _ => .error .notFound, "/tmp", "input"⟩

theorem run_missing_argument_empties_output :
    (graphsRequest.run idleHost (.start (outputFiles (utf8 "previous result\n")) [])).1 =
        .error (.missingDefinition .graphImports) ∧
      (outputFiles (utf8 "previous result\n")).content? ["out.txt"] = some (utf8 "previous result\n") ∧
      (graphsRequest.run idleHost
        (.start (outputFiles (utf8 "previous result\n")) [])).2.files.content? ["out.txt"] = some [] :=
  ⟨rfl, rfl, rfl⟩

theorem run_missing_argument_of_empty_output :
    (outputFiles []).NamesAgree ∧
      (graphsRequest.run idleHost (.start (outputFiles []) [])).1 =
        .error (.missingDefinition .graphImports) ∧
      ∀ location, (graphsRequest.run idleHost (.start (outputFiles []) [])).2.files.node? location =
        (outputFiles []).node? location := by
  have hnames : (outputFiles []).NamesAgree := FileSystem.namesAgree_ofNodes _ _
  obtain ⟨hresult, hfiles⟩ := @run_missing_argument graphsRequest (.start (outputFiles []) [])
    (.missingDefinition .graphImports) trivial hnames idleHost
  have hrun : (graphsRequest.run idleHost (.start (outputFiles []) [])).1 =
      .error (.missingDefinition .graphImports) := rfl
  refine ⟨hnames, hrun, (hfiles hrun).2.2 ⟨["out.txt"], .file [] false, rfl, rfl, ?_⟩⟩
  intro content hcontent
  exact (Option.some.inj hcontent).symm

end Request

end KDispatch
