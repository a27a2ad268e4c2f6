import KDispatch.Proofs.Session.Checks
import KDispatch.Proofs.Session.Relay

/-!
The exit status of the program. It tells what has become of the run: 0 for work that was done, 1 for what went
wrong in the program, 2 for a command line that cannot be read, and otherwise what the tool that was started has
ended with.
-/

namespace KDispatch

/-- The status that the program takes over from a process: its exit code, or 1 if a signal has killed it. -/
def Ending.exitStatus : Ending → Nat
  | .exited code => code.toNat
  | .killed _ => 1

namespace Summary

variable {summary : Summary}

theorem processExitCode_of_success (h : summary.success = true) : summary.processExitCode = 0 := by
  have hcode : summary.exitCode = 0 := by simpa [success] using h
  simp [processExitCode, hcode]

/-- A summary is reported as a success exactly if its exit code is 0. -/
theorem processExitCode_eq_zero_iff : summary.processExitCode = 0 ↔ summary.exitCode = 0 := by
  unfold processExitCode
  split <;> omega

/-- The exit code of a process fits into the status, and no signal is taken for a success. -/
theorem processExitCode_of_ending {ending : Ending} (h : summary.exitCode = ending.code) :
    summary.processExitCode = ending.exitStatus := by
  cases ending with
  | exited code =>
    have hcode := code.toNat_lt
    have hexit : summary.exitCode = (code.toNat : Int) := h
    rw [processExitCode, if_pos (by omega), hexit]
    rfl
  | killed signal =>
    have hsignal := signal.positive
    have hexit : summary.exitCode = -(signal.number : Int) := h
    rw [processExitCode, if_neg (by omega)]
    rfl

end Summary

namespace Ending

theorem exitStatus_eq_zero_iff {ending : Ending} : ending.exitStatus = 0 ↔ ending = .exited 0 := by
  cases ending with
  | exited code => simp [exitStatus, ← UInt8.toNat_inj]
  | killed signal => simp [exitStatus]

end Ending

/-! ## Graphs -/

/-- Whether the graph of some stage cannot be written: the document of the stage does not read as a definition, or
the file for the graph cannot be written. The graphs of the stages before it are there by then. -/
inductive StageFails (directory : String) : List String → FileSystem → Prop
  | unread {stage : String} {stages : List String} {fs : FileSystem} {e : KastError}
      (hread : Document.readDefinition fs (Path.withExtension (Path.join directory stage) "json") = .error e) :
      StageFails directory (stage :: stages) fs
  | unwritten {stage : String} {stages : List String} {fs : FileSystem} {definition : Definition}
      {cause : SystemError}
      (hread : Document.readDefinition fs (Path.withExtension (Path.join directory stage) "json") =
        .ok definition)
      (hwrite : fs.write (Path.withExtension (Path.join directory stage) "dot")
        (Utf8.encode (ImportGraph.ofDefinition definition).dotText) = .error cause) :
      StageFails directory (stage :: stages) fs
  | later {stage : String} {stages : List String} {fs files : FileSystem} {definition : Definition}
      (hread : Document.readDefinition fs (Path.withExtension (Path.join directory stage) "json") =
        .ok definition)
      (hwrite : fs.write (Path.withExtension (Path.join directory stage) "dot")
        (Utf8.encode (ImportGraph.ofDefinition definition).dotText) = .ok files)
      (hlater : StageFails directory stages files) :
      StageFails directory (stage :: stages) fs

namespace Session

/-- Writing the graph of one stage reads its definition and writes one file. -/
theorem writeGraph_eq (s : Session) (base : String) :
    ∃ records, s.writeGraph base =
      match Document.readDefinition s.files (Path.withExtension base "json") with
      | .error e => (.error e, { s with records })
      | .ok definition =>
        match s.files.write (Path.withExtension base "dot")
            (Utf8.encode (ImportGraph.ofDefinition definition).dotText) with
        | .error cause => (.error (.inaccessible (Path.withExtension base "dot") cause), { s with records })
        | .ok files => (.ok (Path.withExtension base "dot"), { s with files, records }) := by
  obtain ⟨records, hread⟩ := s.readDefinition_eq (Path.withExtension base "json")
  unfold writeGraph
  rw [hread]
  cases Document.readDefinition s.files (Path.withExtension base "json") with
  | error e => exact ⟨_, rfl⟩
  | ok definition =>
    dsimp only
    cases s.files.write (Path.withExtension base "dot")
        (Utf8.encode (ImportGraph.ofDefinition definition).dotText) with
    | error cause => exact ⟨_, rfl⟩
    | ok files => exact ⟨_, rfl⟩

/-- The graphs are all written unless one of the stages fails, by induction on the stages. -/
theorem writeGraphs_eq_false_iff {directory : String} {stages : List String} {s : Session} :
    (writeGraphs directory stages s).1 = false ↔ StageFails directory stages s.files := by
  induction stages generalizing s with
  | nil =>
    have hnil : writeGraphs directory [] s = (true, s) := rfl
    exact iff_of_false (by simp [hnil]) fun h => by cases h
  | cons stage stages ih =>
    obtain ⟨records, hgraph⟩ := s.writeGraph_eq (Path.join directory stage)
    rw [writeGraphs_cons, hgraph]
    cases hread : Document.readDefinition s.files (Path.withExtension (Path.join directory stage) "json") with
    | error e =>
      exact iff_of_true rfl (.unread hread)
    | ok definition =>
      dsimp only
      cases hwrite : s.files.write (Path.withExtension (Path.join directory stage) "dot")
          (Utf8.encode (ImportGraph.ofDefinition definition).dotText) with
      | error cause => exact iff_of_true rfl (.unwritten hread hwrite)
      | ok files =>
        dsimp only
        rw [ih]
        refine ⟨.later hread hwrite, fun h => ?_⟩
        cases h with
        | unread hread' => simp [hread] at hread'
        | unwritten hread' hwrite' =>
          obtain rfl := Except.ok.inj (hread.symm.trans hread')
          simp [hwrite] at hwrite'
        | later hread' hwrite' hlater =>
          obtain rfl := Except.ok.inj (hread.symm.trans hread')
          obtain rfl := Except.ok.inj (hwrite.symm.trans hwrite')
          exact hlater

end Session

namespace Session

/-- An output that has just been opened takes nothing without complaint, as it holds back no bytes yet. -/
theorem finish_nil_of_openSink {s opened : Session} {place : Place} {sink : Sink}
    (hopen : s.openSink place = .ok (sink, opened)) (t : Session) : (t.finish [] sink).1 = .ok () := by
  cases place with
  | standard =>
    cases hopen
    rfl
  | file path =>
    obtain ⟨location, files, -, -, rfl, -⟩ := openSink_file_eq_ok_iff.1 hopen
    unfold Sink.ofLocation
    split <;> rfl

end Session

/-! ## Requests -/

namespace Request

variable {host : Host} {request : Request} {s opened ready : Session} {summary : Summary} {sink : Sink}
  {coverage : Option CoverageFile} {tool : Tool} {input : InputFile} {process : Process}

/-- The exit code of a request that has started a process is that of the process. -/
theorem Starts.exitCode (h : request.Starts host s tool sink input ready process)
    (hrun : (request.run host s).1 = .ok summary) : summary.exitCode = process.ending.code := by
  obtain ⟨before, after, result, ended, hdeliver, hstarted⟩ := h.run_eq
  rw [hstarted] at hrun
  obtain rfl : result = .ok summary := hrun
  obtain ⟨rfl, -⟩ := deliver_eq_ok_iff.1 hdeliver
  rfl

/-- A request that has started a process succeeds if its output takes bytes. -/
theorem Starts.exists_ok (h : request.Starts host s tool sink input ready process)
    (htakes : ∀ cause held, sink ≠ .refusing cause held) :
    ∃ summary, (request.run host s).1 = .ok summary := by
  obtain ⟨before, after, result, ended, hdeliver, hrun⟩ := h.run_eq
  obtain ⟨finished, hfinish⟩ := Session.exists_finish_ok
    (Sink.relocate_ne_refusing htakes process.openFile)
    { ready.afterProcess (request.call tool input.path) input process with records := before }
    (Utf8.encode (request.summaryOf (request.call tool input.path) process).stdout)
  rw [deliver_eq_ok_iff.2 ⟨rfl, hfinish⟩] at hdeliver
  obtain ⟨rfl, rfl⟩ := Prod.mk.inj hdeliver
  exact ⟨_, congrArg Prod.fst hrun⟩

/-- A request for graphs with its files opened comes to a summary; its exit code tells whether a stage fails. -/
theorem run_graphs {directory : String} (hcommand : request.command = .graphImports)
    (hdirectory : request.definition = some directory) (hinputs : request.openInputs s.files = .ok coverage)
    (hopen : s.openSink request.output = .ok (sink, opened)) (host : Host) :
    ∃ summary, (request.run host s).1 = .ok summary ∧
      (StageFails directory graphStages opened.files → summary.exitCode = 1) ∧
      (¬ StageFails directory graphStages opened.files → summary.exitCode = 0) := by
  obtain ⟨before, after, result, ended, hdeliver, hrun⟩ := run_of_openSink hinputs hopen host
  have hwork := @perform_graphs host request { opened with records := before } sink coverage directory
    hcommand hdirectory
  have hstages := @Session.writeGraphs_eq_false_iff directory graphStages { opened with records := before }
  generalize request.perform host coverage sink { opened with records := before } = work
    at hdeliver hwork
  generalize (Session.writeGraphs directory graphStages { opened with records := before }).1 = written
    at hwork hstages
  obtain ⟨worked, t⟩ := work
  obtain rfl : worked = _ := hwork
  have hfinish := Session.finish_nil_of_openSink hopen t
  rcases hfinished : t.finish [] sink with ⟨finished, u⟩
  rw [hfinished] at hfinish
  obtain rfl : finished = .ok () := hfinish
  rw [deliver_eq_ok_iff.2 ⟨rfl, hfinished⟩] at hdeliver
  obtain ⟨rfl, rfl⟩ := Prod.mk.inj hdeliver
  refine ⟨_, congrArg Prod.fst hrun, fun hfails => ?_, fun hfails => ?_⟩
  · simp [hstages.2 hfails]
  · simp [Bool.of_not_eq_false (hfails ∘ hstages.1)]

theorem exitCode_of_writeLog {definition : Definition} {file : CoverageFile} {written : Sink}
    (h : (Session.writeLog request definition file sink s).1 = .ok (summary, written)) :
    summary.exitCode = 0 := by
  unfold Session.writeLog at h
  split at h
  · contradiction
  dsimp only at h
  split at h
  · contradiction
  split at h
  · contradiction
  · obtain ⟨rfl, -⟩ := Prod.mk.inj (Except.ok.inj h)
    rfl

theorem exitCode_of_logCoverage {written : Sink}
    (h : (Session.logCoverage request coverage sink s).1 = .ok (summary, written)) :
    summary.exitCode = 0 := by
  unfold Session.logCoverage at h
  rw [Session.fst_reporting] at h
  split at h
  · contradiction
  · contradiction
  split at h
  · contradiction
  · exact exitCode_of_writeLog h

/-- Work without a tool fails only by a stage of the graphs, if it comes to a summary at all. -/
theorem exitCode_of_perform {written : Sink} (htool : request.command.tool? = none)
    (hinputs : request.openInputs opened.files = .ok coverage)
    (h : (request.perform host coverage sink s).1 = .ok (summary, written)) :
    summary.exitCode = 0 ∨ summary.exitCode = 1 := by
  rcases command_of_tool?_eq_none htool with hcommand | hcommand
  · cases hdirectory : request.definition with
    | none =>
      obtain ⟨records, hlacks⟩ := perform_of_lacks (.definition (.inl hcommand) hdirectory) hinputs host sink s
      rw [hlacks] at h
      contradiction
    | some directory =>
      rw [perform_graphs hcommand hdirectory] at h
      obtain ⟨rfl, -⟩ := Prod.mk.inj (Except.ok.inj h)
      dsimp only
      split
      · exact .inl rfl
      · exact .inr rfl
  · simp only [perform, hcommand] at h
    exact .inl (exitCode_of_logCoverage h)

/-- A request that succeeds without a process has the exit code 0 or 1. -/
theorem exitCode_of_unstarted
    (h : ∀ tool sink input ready process, ¬ request.Starts host s tool sink input ready process)
    (hrun : (request.run host s).1 = .ok summary) : summary.exitCode = 0 ∨ summary.exitCode = 1 := by
  obtain ⟨coverage, sink, opened, hinputs, hopen⟩ := opened_of_ok hrun
  cases htool : request.command.tool? with
  | some tool =>
    have hcase := run_toolCase hinputs hopen htool host
    generalize request.run host s = work at hrun hcase
    cases hcase with
    | uncopied _ _ => contradiction
    | unstarted _ _ => contradiction
    | started hinput hstart _ =>
      exact absurd ⟨htool, ⟨coverage, opened, opened.records, hinputs, hopen, hinput⟩, hstart⟩ (h _ _ _ _ _)
  | none =>
    obtain ⟨before, after, result, ended, hdeliver, hended⟩ := run_of_openSink hinputs hopen host
    rw [hended] at hrun
    obtain rfl : result = .ok summary := hrun
    generalize hwork : request.perform host coverage sink { opened with records := before } = work at hdeliver
    rcases work with ⟨e | ⟨written, finished⟩, t⟩
    · cases hdeliver
    · obtain ⟨rfl, -⟩ := deliver_eq_ok_iff.1 hdeliver
      exact exitCode_of_perform htool hinputs (congrArg Prod.fst hwork)

end Request

/-! ## The program -/

namespace Program

variable {settings : Settings} {request : Request}

/-- Whether logging starts: the variable that selects the format is unset or names a format. -/
def Settings.LogStarts (settings : Settings) : Prop :=
  ∃ format, Log.Format.ofVariable settings.logFormat = .ok format

/-- The status for what a request has come to. -/
def status : Except RequestError Summary → Nat
  | .error _ => 1
  | .ok summary => summary.processExitCode

theorem exitCode_outcome (s : Session) (result : Except RequestError Summary) :
    (outcome s result).exitCode = status result := by
  cases result with
  | error e => rfl
  | ok summary =>
    unfold outcome
    dsimp only
    split
    · exact (Summary.processExitCode_of_success ‹_›).symm
    · rfl

theorem status_eq_zero_iff {result : Except RequestError Summary} :
    status result = 0 ↔ ∃ summary, result = .ok summary ∧ summary.exitCode = 0 := by
  cases result with
  | error e => simp [status]
  | ok summary => simp [status, Summary.processExitCode_eq_zero_iff]

theorem run_of_not_logStarts (h : ¬ settings.LogStarts) (host : Host) (s : Session) :
    (run host settings s).1.exitCode = 1 := by
  unfold run
  cases hformat : Log.Format.ofVariable settings.logFormat with
  | error e => rfl
  | ok format => exact absurd ⟨format, hformat⟩ h

theorem run_of_usageError {e : UsageError} (hlog : settings.LogStarts)
    (h : Request.ofWords settings.release settings.words = .error e) (host : Host) (s : Session) :
    (run host settings s).1.exitCode = if e = .help then 0 else 2 := by
  obtain ⟨format, hformat⟩ := hlog
  unfold run
  rw [hformat, h]
  cases e <;> rfl

theorem run_of_request (hlog : settings.LogStarts)
    (h : Request.ofWords settings.release settings.words = .ok request) (host : Host) (s : Session) :
    (run host settings s).1.exitCode = status (request.run host s).1 := by
  obtain ⟨format, hformat⟩ := hlog
  unfold run
  rw [hformat, h]
  exact exitCode_outcome _ _

/-- What the exit status of a run tells. -/
structure StatusTells (host : Host) (settings : Settings) (s : Session) (code : Nat) : Prop where
  success : code = 0 ↔ settings.LogStarts ∧
    (Request.ofWords settings.release settings.words = .error .help ∨
      ∃ request summary, Request.ofWords settings.release settings.words = .ok request ∧
        (request.run host s).1 = .ok summary ∧ summary.exitCode = 0)
  unlogged : ¬ settings.LogStarts → code = 1
  misused : settings.LogStarts → ∀ e ≠ UsageError.help,
    Request.ofWords settings.release settings.words = .error e → code = 2
  /-- The status of a process that was started is taken over, if the output takes what the process has written. -/
  started : settings.LogStarts → ∀ request tool sink input ready process,
    Request.ofWords settings.release settings.words = .ok request →
    request.Starts host s tool sink input ready process →
    (process.ending ≠ .exited 0 → code ≠ 0) ∧
    ((∀ cause held, sink ≠ .refusing cause held) → code = process.ending.exitStatus)
  failed : settings.LogStarts → ∀ request e,
    Request.ofWords settings.release settings.words = .ok request →
    (request.run host s).1 = .error e → code = 1
  /-- For graphs, the status tells whether the graph of some stage cannot be written. -/
  graphs : settings.LogStarts → ∀ request directory coverage sink opened,
    Request.ofWords settings.release settings.words = .ok request →
    request.command = .graphImports → request.definition = some directory →
    request.openInputs s.files = .ok coverage → s.openSink request.output = .ok (sink, opened) →
    (StageFails directory graphStages opened.files → code = 1) ∧
    (¬ StageFails directory graphStages opened.files → code = 0)
  /-- Without a process there is no other status for a request. -/
  unstarted : settings.LogStarts → ∀ request,
    Request.ofWords settings.release settings.words = .ok request →
    (∀ tool sink input ready process, ¬ request.Starts host s tool sink input ready process) →
    code = 0 ∨ code = 1

/-- The exit status tells success from failure in every run. -/
theorem run_exitCode (host : Host) (settings : Settings) (s : Session) :
    StatusTells host settings s (run host settings s).1.exitCode where
  success := by
    by_cases hlog : settings.LogStarts
    · cases hwords : Request.ofWords settings.release settings.words with
      | error e =>
        rw [run_of_usageError hlog hwords]
        simp [hlog]
      | ok request =>
        rw [run_of_request hlog hwords, status_eq_zero_iff]
        simp [hlog]
    · rw [run_of_not_logStarts hlog]
      simp [hlog]
  unlogged hlog := run_of_not_logStarts hlog host s
  misused hlog e he hwords := by
    rw [run_of_usageError hlog hwords, if_neg he]
  started hlog request tool sink input ready process hwords hstarts := by
    rw [run_of_request hlog hwords]
    constructor
    · intro hending hzero
      obtain ⟨summary, hrun, hcode⟩ := status_eq_zero_iff.1 hzero
      have htaken := Summary.processExitCode_of_ending (hstarts.exitCode hrun)
      rw [Summary.processExitCode_eq_zero_iff.2 hcode] at htaken
      exact hending (Ending.exitStatus_eq_zero_iff.1 htaken.symm)
    · intro htakes
      obtain ⟨summary, hrun⟩ := hstarts.exists_ok htakes
      rw [hrun]
      exact Summary.processExitCode_of_ending (hstarts.exitCode hrun)
  failed hlog request e hwords hrun := by
    rw [run_of_request hlog hwords, hrun]
    rfl
  graphs hlog request directory coverage sink opened hwords hcommand hdirectory hinputs hopen := by
    rw [run_of_request hlog hwords]
    obtain ⟨summary, hrun, hfails, hwritten⟩ := Request.run_graphs hcommand hdirectory hinputs hopen host
    rw [hrun]
    refine ⟨fun h => ?_, fun h => ?_⟩
    · simp [status, Summary.processExitCode, hfails h]
    · simp [status, Summary.processExitCode, hwritten h]
  unstarted hlog request hwords hunstarted := by
    rw [run_of_request hlog hwords]
    cases hrun : (request.run host s).1 with
    | error e => exact .inr rfl
    | ok summary =>
      rcases Request.exitCode_of_unstarted hunstarted hrun with hcode | hcode
      · simp [status, Summary.processExitCode, hcode]
      · simp [status, Summary.processExitCode, hcode]

/-! A tool that is killed when it has written its output. -/

def killingHost : Host where
  run _ openFile fs := .ok ⟨.killed ⟨9, by decide⟩, utf8 "3", [], fs, openFile⟩
  temporaryDirectory := "/tmp"
  temporaryName := "input"

def parseSettings : Settings := ⟨none, none, ["parse", "--input", "in"]⟩

def parseRequest : Request := ⟨.parse, none, .file "in", .standard, .pretty, .pretty, none, none, []⟩

theorem run_exitCode_killed :
    parseSettings.LogStarts ∧
      (∃ request tool sink input ready process,
        Request.ofWords parseSettings.release parseSettings.words = .ok request ∧
        request.Starts killingHost (.start Request.toolFiles []) tool sink input ready process) ∧
      (run killingHost parseSettings (.start Request.toolFiles [])).1.exitCode = 1 ∧
      (run killingHost parseSettings (.start Request.toolFiles [])).2.stdout = utf8 "3" := by
  have hlog : parseSettings.LogStarts := ⟨_, rfl⟩
  have hwords : Request.ofWords parseSettings.release parseSettings.words =
      .ok parseRequest := rfl
  have hstarts : parseRequest.Starts killingHost (.start Request.toolFiles []) .kast .standard ⟨"in", none⟩
      (.start Request.toolFiles []) _ :=
    ⟨rfl, ⟨none, .start Request.toolFiles [], [], rfl, rfl, rfl⟩, rfl⟩
  have htells := run_exitCode killingHost parseSettings (.start Request.toolFiles [])
  exact ⟨hlog, ⟨_, _, _, _, _, _, hwords, hstarts⟩,
    (htells.started hlog _ _ _ _ _ _ hwords hstarts).2 (by simp), rfl⟩

end Program

end KDispatch
