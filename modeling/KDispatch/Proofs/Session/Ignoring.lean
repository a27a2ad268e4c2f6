import KDispatch.Proofs.Session.Tool

/-!
Steps that ignore standard input. Whatever stands there, they come to the same result and the same session but for
standard input itself, which they leave alone. All of the work does so that neither copies standard input for a tool
nor reads a file that is standard input under another name.
-/

namespace KDispatch

namespace Session

/-- Whether a step does the same from a session whatever its standard input is, and leaves that alone. -/
def Ignores {α : Type} (step : Session → α × Session) (s : Session) : Prop :=
  ∀ stdin, step { s with stdin } = ((step s).1, { (step s).2 with stdin })

variable {s : Session} {host : Host} {request : Request} {sink : Sink}

theorem Ignores.unread {α : Type} {step : Session → α × Session} (h : Ignores step s) :
    (step s).2.stdin = s.stdin := by
  have hsame := congrArg (fun ended => ended.2.stdin) (h s.stdin)
  exact hsame

theorem Ignores.reporting {α : Type} {step : Step α} (h : Ignores step s) : Ignores step.reporting s := by
  intro stdin
  unfold Step.reporting
  rw [h stdin]
  rcases step s with ⟨_ | _, ended⟩ <;> rfl

/-! ## Reading -/

theorem ignores_readDefinition (s : Session) (path : String) : Ignores (·.readDefinition path) s := by
  intro stdin
  unfold readDefinition readEnvelope
  dsimp only
  cases Document.read s.files path with
  | error e => rfl
  | ok envelope =>
    dsimp only
    cases Document.definition path envelope.term <;> rfl

theorem ignores_readAt {location : Location}
    (h : s.files.node? location ≠ some (.device (.descriptor 0))) : Ignores (·.readAt location) s := by
  intro stdin
  unfold readAt
  dsimp only
  split
  · contradiction
  · rfl

/-! ## Writing -/

theorem ignores_write (s : Session) (bytes : Bytes) (sink : Sink) : Ignores (·.write bytes sink) s := by
  intro stdin
  cases sink with
  | refusing cause held =>
    simp only [write]
    split <;> rfl
  | standard | errors | file _ _ | nowhere => rfl

theorem openSink_stdin (s : Session) (place : Place) (stdin : Bytes) :
    ({ s with stdin } : Session).openSink place =
      (s.openSink place).map fun opening => (opening.1, { opening.2 with stdin }) := by
  cases place with
  | standard => rfl
  | file path =>
    unfold openSink
    dsimp only
    cases s.files.create path <;> rfl

theorem ignores_writeAll (s : Session) (texts : List Text) (sink : Sink) :
    Ignores (·.writeAll texts sink) s := by
  induction texts generalizing s sink with
  | nil => exact fun _ => rfl
  | cons text texts ih =>
    intro stdin
    dsimp only
    rw [writeAll, writeAll]
    have hwrite := ignores_write s (Utf8.encode text) sink stdin
    dsimp only at hwrite
    rw [hwrite]
    rcases s.write (Utf8.encode text) sink with ⟨_ | written, t⟩
    · rfl
    · exact ih t written stdin

theorem ignores_finish (s : Session) (bytes : Bytes) (sink : Sink) : Ignores (·.finish bytes sink) s := by
  intro stdin
  have hwrite := ignores_write s bytes sink stdin
  dsimp only at hwrite ⊢
  unfold finish
  rw [hwrite]
  rcases s.write bytes sink with ⟨_ | written, t⟩
  · rfl
  · cases written with
    | refusing cause held => cases held <;> rfl
    | standard | errors | file _ _ | nowhere => rfl

/-! ## The work -/

theorem ignores_writeLog {coverage : CoverageFile}
    (h : s.files.node? coverage.location ≠ some (.device (.descriptor 0))) (definition : Definition) :
    Ignores (writeLog request definition coverage sink) s := by
  intro stdin
  have hread := ignores_readAt h stdin
  dsimp only at hread
  unfold writeLog
  rw [hread]
  rcases s.readAt coverage.location with ⟨_ | content, t⟩
  · rfl
  dsimp only
  have hwrite := ignores_writeAll t
    ((CoverageLog.ofContent definition content).entries.flatMap CoverageEntry.pieces) sink stdin
  dsimp only at hwrite
  rw [hwrite]
  rcases t.writeAll ((CoverageLog.ofContent definition content).entries.flatMap CoverageEntry.pieces) sink
    with ⟨_ | written, t'⟩
  · rfl
  dsimp only
  cases (CoverageLog.ofContent definition content).failure <;> rfl

theorem ignores_logCoverage {coverage : Option CoverageFile}
    (h : ∀ opened ∈ coverage, s.files.node? opened.location ≠ some (.device (.descriptor 0))) :
    Ignores (logCoverage request coverage sink) s := by
  unfold logCoverage
  refine Ignores.reporting fun stdin => ?_
  dsimp only
  cases request.definition with
  | none => rfl
  | some directory =>
  cases coverage with
  | none => rfl
  | some coverage =>
  have hread := ignores_readDefinition s (Path.join directory "compiled.json") stdin
  dsimp only at hread ⊢
  rw [hread]
  obtain ⟨records, hdefinition⟩ := s.readDefinition_eq (Path.join directory "compiled.json")
  rw [hdefinition]
  cases Document.readDefinition s.files (Path.join directory "compiled.json") with
  | error e => rfl
  | ok definition => exact ignores_writeLog (s := { s with records }) (h coverage rfl) definition stdin

theorem ignores_writeGraph (s : Session) (base : String) : Ignores (·.writeGraph base) s := by
  intro stdin
  have hread := ignores_readDefinition s (Path.withExtension base "json") stdin
  dsimp only at hread ⊢
  unfold writeGraph
  rw [hread]
  rcases s.readDefinition (Path.withExtension base "json") with ⟨e | definition, t⟩
  · rfl
  · dsimp only
    split <;> rfl

/-- The graphs of all stages, by induction on the stages that are left. -/
theorem ignores_writeGraphs (directory : String) (stages : List String) (s : Session) :
    Ignores (writeGraphs directory stages) s := by
  induction stages generalizing s with
  | nil => exact fun _ => rfl
  | cons stage stages ih =>
    intro stdin
    have hgraph := ignores_writeGraph s (Path.join directory stage) stdin
    dsimp only at hgraph
    rw [writeGraphs_cons, writeGraphs_cons, hgraph]
    rcases s.writeGraph (Path.join directory stage) with ⟨e | target, t⟩
    · rfl
    · exact ih t stdin

theorem ignores_renderGraphs (s : Session) (request : Request) : Ignores (renderGraphs request) s := by
  unfold renderGraphs
  refine Ignores.reporting fun stdin => ?_
  dsimp only
  cases request.definition with
  | none => rfl
  | some directory =>
    dsimp only
    rw [ignores_writeGraphs directory graphStages s stdin]

/-! ## Tools -/

theorem ignores_runCall (s : Session) (host : Host) (sink : Sink) (call : Call) :
    Ignores (runCall host sink call) s := by
  unfold runCall
  refine Ignores.reporting fun stdin => ?_
  dsimp only [log]
  split <;> rfl

theorem releaseInput_stdin (s : Session) (input : InputFile) (stdin : Bytes) :
    ({ s with stdin } : Session).releaseInput input = { s.releaseInput input with stdin } := by
  unfold releaseInput
  split <;> rfl

/-- A tool whose input is a file. -/
theorem ignores_runTool (s : Session) (host : Host) {path : String} (hinput : request.input = .file path)
    (sink : Sink) (tool : Tool) : Ignores (runTool host request sink tool) s := by
  unfold runTool
  refine Ignores.reporting fun stdin => ?_
  have hprovided (t : Session) : provideInput host request.input t = (.ok ⟨path, none⟩, t) := by
    rw [hinput]
    rfl
  have hcall := ignores_runCall s host sink (request.call tool path) stdin
  rw [hprovided, hprovided]
  dsimp only
  rw [hcall]
  rcases runCall host sink (request.call tool path) s with ⟨e | ⟨output, written⟩, t⟩
  all_goals
    dsimp only
    rw [releaseInput_stdin]

end Session

/-- Whether a path leads to standard input. -/
def FileSystem.IsStandardInput (fs : FileSystem) (path : String) : Prop :=
  ∃ location, fs.locate path = .ok location ∧ fs.node? location = some (.device (.descriptor 0))

namespace Request

open Session (Ignores)

variable {host other : Host} {request : Request} {s : Session} {sink : Sink}
  {coverage : Option CoverageFile}

/-- Whether a request hands standard input on to a tool. -/
def CopiesInput (request : Request) : Prop := request.command.tool?.isSome ∧ request.input = .standard

theorem ignores_perform (h : ¬ request.CopiesInput)
    (hcoverage : request.command = .coverageLog → ∀ opened ∈ coverage,
      s.files.node? opened.location ≠ some (.device (.descriptor 0)))
    (host : Host) (sink : Sink) : Ignores (request.perform host coverage sink) s := by
  cases htool : request.command.tool? with
  | some tool =>
    rw [perform_of_tool htool]
    cases hinput : request.input with
    | standard => exact absurd ⟨by rw [htool]; rfl, hinput⟩ h
    | file path => exact Session.ignores_runTool s host hinput sink tool
  | none =>
    rcases command_of_tool?_eq_none htool with hcommand | hcommand
    · intro stdin
      have hgraphs := Session.ignores_renderGraphs s request stdin
      simp only [perform, hcommand]
      rw [hgraphs]
      rcases Session.renderGraphs request s with ⟨_ | _, _⟩ <;> rfl
    · intro stdin
      simp only [perform, hcommand]
      exact Session.ignores_logCoverage (hcoverage hcommand) stdin

theorem perform_congr (h : ¬ request.CopiesInput) (hrun : other.run = host.run)
    (coverage : Option CoverageFile) (sink : Sink) :
    request.perform other coverage sink = request.perform host coverage sink := by
  cases htool : request.command.tool? with
  | some tool =>
    rw [perform_of_tool htool, perform_of_tool htool]
    cases hinput : request.input with
    | standard => exact absurd ⟨by rw [htool]; rfl, hinput⟩ h
    | file path =>
      unfold Session.runTool Session.runCall
      rw [hinput, hrun]
      rfl
  | none =>
    funext t
    rcases command_of_tool?_eq_none htool with hcommand | hcommand <;> simp only [perform, hcommand]

/-! ## Requests -/

/-- The files that a request reads itself, besides its input. -/
inductive Reads (request : Request) : String → Prop
  | coverage {path : String} (hcommand : request.command = .coverageLog)
      (hpath : request.coverageFile = some path) : Reads request path
  | definition {directory : String} (hcommand : request.command = .coverageLog)
      (hdirectory : request.definition = some directory) :
      Reads request (Path.join directory "compiled.json")
  | stage {directory stage : String} (hcommand : request.command = .graphImports)
      (hdirectory : request.definition = some directory) (hstage : stage ∈ graphStages) :
      Reads request (Path.withExtension (Path.join directory stage) "json")

theorem ignores_run (hnames : s.files.NamesReplaceable) (h : ¬ request.CopiesInput)
    (hreads : ∀ path, request.Reads path → ¬ s.files.IsStandardInput path) (host : Host) :
    Ignores (request.run host) s := by
  unfold run
  refine Ignores.reporting fun stdin => ?_
  have hlog : ({ s with stdin } : Session).log .info "parsed arguments" [] =
      { s.log .info "parsed arguments" [] with stdin } := rfl
  have hfiles : (s.log .info "parsed arguments" []).files = s.files := rfl
  dsimp only
  rw [hlog]
  generalize s.log .info "parsed arguments" [] = t at hfiles ⊢
  rw [← hfiles] at hnames hreads
  cases hinputs : request.openInputs t.files with
  | error e => rfl
  | ok coverage =>
  dsimp only
  rw [Session.openSink_stdin]
  cases hopen : t.openSink request.output with
  | error e => rfl
  | ok opening =>
  obtain ⟨sink, opened⟩ := opening
  -- the coverage file was no standard input before the output was opened
  have hcoverage (hcommand : request.command = .coverageLog) (file) (hfile : file ∈ coverage) :
      opened.files.node? file.location ≠ some (.device (.descriptor 0)) := by
    rw [hfile] at hinputs
    obtain ⟨hpath, hlocate⟩ := locate_of_openInputs hinputs
    intro hdevice
    have hsame := (Session.openSink_cases hnames hopen).2.2
    exact hreads file.path (.coverage hcommand hpath)
      ⟨file.location, hlocate, hsame.symm.node?_of_not_file (by simp) hdevice⟩
  have hperform := ignores_perform h hcoverage host sink stdin
  simp only [Except.map]
  rw [hperform]
  rcases request.perform host coverage sink opened with ⟨e | ⟨summary, written⟩, ended⟩
  · rfl
  · have hfinish := Session.ignores_finish ended (Utf8.encode summary.stdout) written stdin
    dsimp only at hfinish ⊢
    rw [hfinish]
    rcases ended.finish (Utf8.encode summary.stdout) written with ⟨_ | _, _⟩ <;> rfl

/-- Where temporary files are put matters only to a request that copies standard input. -/
theorem run_congr (h : ¬ request.CopiesInput) (hrun : other.run = host.run) :
    request.run other = request.run host := by
  unfold run
  simp only [perform_congr h hrun]

end Request

end KDispatch
