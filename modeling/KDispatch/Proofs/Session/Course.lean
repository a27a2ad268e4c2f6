import KDispatch.Proofs.Session.Output
import KDispatch.Session.Run

/-!
The course of a request. If an input or the output cannot be opened, the request ends there and nothing is
different but the log records. Otherwise the work begins with the output opened, and what a tool has to do with
it is said once here: its input may be missing, it may not start, or it starts once and ends.
-/

/-! ## Reading

A definition or a file that is read leaves the files and the output streams as they are, and reads as before
where a file has been created beside it.
-/

namespace KDispatch

open FileSystem (SameBeside)

theorem Document.readDefinition_congr {fs fs' : FileSystem} {path : String}
    (h : fs.read path = fs'.read path) : readDefinition fs path = readDefinition fs' path := by
  simp only [readDefinition, read, FileSystem.readText, h]

/-- A definition that reads has bytes in its file. -/
theorem Document.read_of_readDefinition {fs : FileSystem} {path : String} {definition : Definition}
    (h : readDefinition fs path = .ok definition) : ∃ bytes, fs.read path = .ok bytes := by
  cases hread : fs.read path with
  | ok bytes => exact ⟨bytes, rfl⟩
  | error cause => simp [readDefinition, read, FileSystem.readText, hread] at h

theorem FileSystem.SameBeside.readDefinition_ok {changed : Location → Prop}
    {before after : FileSystem} (h : SameBeside changed before after) {path : String}
    (hbeside : ∀ location, before.locate path = .ok location → ¬ changed location)
    {definition : Definition} (hread : Document.readDefinition before path = .ok definition) :
    Document.readDefinition after path = .ok definition := by
  obtain ⟨bytes, hbytes⟩ := Document.read_of_readDefinition hread
  rw [← hread]
  exact Document.readDefinition_congr ((h.read_ok hbeside hbytes).trans hbytes.symm)

namespace Session

variable {s : Session}

/-- Reading a definition only adds log records to the session. -/
theorem readDefinition_eq (s : Session) (path : String) :
    ∃ records, s.readDefinition path = (Document.readDefinition s.files path, { s with records }) := by
  unfold readDefinition readEnvelope Document.readDefinition
  cases Document.read s.files path with
  | error e => exact ⟨_, rfl⟩
  | ok envelope =>
    dsimp only
    cases Document.definition path envelope.term with
    | error e => exact ⟨_, rfl⟩
    | ok definition => exact ⟨_, rfl⟩

theorem readDefinition_ok {path : String} {definition : Definition}
    (h : Document.readDefinition s.files path = .ok definition) :
    ∃ records, s.readDefinition path = (.ok definition, { s with records }) := by
  rw [← h]
  exact s.readDefinition_eq path

/-- Reading what stands at a location uses up standard input at most. -/
theorem readAt_ok {location : Location} {content : Bytes} (h : (s.readAt location).1 = .ok content) :
    ∃ stdin, s.readAt location = (.ok content, { s with stdin }) := by
  unfold readAt at h ⊢
  split at h
  · cases h
    exact ⟨[], rfl⟩
  · exact ⟨s.stdin, Prod.ext h rfl⟩

/-- What is read at a location depends on what stands there and on standard input. -/
theorem readAt_congr {t : Session} {location : Location}
    (hnode : s.files.node? location = t.files.node? location) (hstdin : s.stdin = t.stdin) :
    (s.readAt location).1 = (t.readAt location).1 := by
  unfold readAt FileSystem.readAt
  rw [hnode, hstdin]
  split <;> rfl

end Session

/-- Recording that a step has failed is all that is added to it. -/
theorem Step.reporting_of_eq {α : Type} {step : Step α} {s t : Session}
    {result : Except RequestError α} (h : step s = (result, t)) :
    ∃ records, step.reporting s = (result, { t with records }) := by
  unfold reporting
  rw [h]
  cases result with
  | error e => exact ⟨_, rfl⟩
  | ok value => exact ⟨t.records, rfl⟩

/-! ## Opening the inputs -/

theorem openToRead_eq_mapError (fs : FileSystem) (path : String) :
    openToRead fs path = (fs.openToRead path).mapError (.inputOutput path) := by
  unfold openToRead
  cases fs.openToRead path <;> rfl

/-- Whether an input can be opened. -/
def Place.IsReadable (fs : FileSystem) : Place → Prop
  | .standard => True
  | .file path => ∃ location, fs.openToRead path = .ok location

/-- Whether the input and the coverage file, if there is one, can be opened. -/
structure Request.InputsReadable (request : Request) (fs : FileSystem) : Prop where
  input : request.input.IsReadable fs
  coverage : ∀ path ∈ request.coverageFile, ∃ location, fs.openToRead path = .ok location

namespace Request

variable {request : Request} {fs : FileSystem} {path : String} {cause : SystemError}

theorem checkReadable_eq_ok {input : Place} (h : input.IsReadable fs) :
    input.checkReadable fs = .ok () := by
  cases input with
  | standard => rfl
  | file path =>
    obtain ⟨location, hopen⟩ := h
    simp [Place.checkReadable, openToRead_eq_mapError, hopen, Except.map, Except.mapError]

theorem openInputs_of_input (hinput : request.input = .file path)
    (h : fs.openToRead path = .error cause) :
    request.openInputs fs = .error (.inputOutput path cause) := by
  simp [openInputs, hinput, Place.checkReadable, openToRead_eq_mapError, h, Except.map, Except.mapError]

theorem openInputs_of_coverage (hinput : request.input.IsReadable fs)
    (hcoverage : request.coverageFile = some path) (h : fs.openToRead path = .error cause) :
    request.openInputs fs = .error (.inputOutput path cause) := by
  simp [openInputs, checkReadable_eq_ok hinput, openCoverage, hcoverage, openToRead_eq_mapError, h, Except.map,
    Except.mapError]

theorem InputsReadable.openInputs_eq_ok (h : request.InputsReadable fs) :
    ∃ coverage, request.openInputs fs = .ok coverage := by
  rw [openInputs, checkReadable_eq_ok h.input]
  dsimp only
  cases hcoverage : request.coverageFile with
  | none => exact ⟨none, by rw [openCoverage, hcoverage]⟩
  | some path =>
    obtain ⟨location, hopen⟩ := h.coverage path hcoverage
    refine ⟨some ⟨path, location⟩, ?_⟩
    simp [openCoverage, hcoverage, openToRead_eq_mapError, hopen, Except.map, Except.mapError]

/-- Inputs that cannot be opened are named by the error. -/
theorem inputsReadable_or_openInputs_error (request : Request) (fs : FileSystem) :
    request.InputsReadable fs ∨
      ∃ path cause, request.openInputs fs = .error (.inputOutput path cause) := by
  by_cases hinput : request.input.IsReadable fs
  · by_cases hcoverage : ∀ path ∈ request.coverageFile, ∃ location, fs.openToRead path = .ok location
    · exact .inl ⟨hinput, hcoverage⟩
    · obtain ⟨path, hpath, hrefused⟩ : ∃ path, request.coverageFile = some path ∧
          ∀ location, fs.openToRead path ≠ .ok location := by simpa using hcoverage
      cases hopen : fs.openToRead path with
      | ok location => exact absurd hopen (hrefused location)
      | error cause => exact .inr ⟨path, cause, openInputs_of_coverage hinput hpath hopen⟩
  · cases hplace : request.input with
    | standard =>
      rw [hplace] at hinput
      exact absurd trivial hinput
    | file path =>
      rw [hplace] at hinput
      cases hopen : fs.openToRead path with
      | ok location => exact absurd ⟨location, hopen⟩ hinput
      | error cause => exact .inr ⟨path, cause, openInputs_of_input hplace hopen⟩

theorem inputsReadable_of_openInputs {coverage : Option CoverageFile}
    (h : request.openInputs fs = .ok coverage) : request.InputsReadable fs := by
  refine (inputsReadable_or_openInputs_error request fs).resolve_right fun ⟨path, cause, hrefused⟩ => ?_
  rw [h] at hrefused
  contradiction

/-- What the coverage file is opened as. -/
theorem locate_of_openInputs {coverage : CoverageFile}
    (h : request.openInputs fs = .ok (some coverage)) :
    request.coverageFile = some coverage.path ∧ fs.locate coverage.path = .ok coverage.location := by
  rw [openInputs, checkReadable_eq_ok (inputsReadable_of_openInputs h).input] at h
  dsimp only at h
  cases hcoverage : request.coverageFile with
  | none => simp [openCoverage, hcoverage] at h
  | some path =>
    rw [openCoverage, hcoverage] at h
    dsimp only at h
    cases hlocate : fs.locate path with
    | error cause => simp [openToRead_eq_mapError, FileSystem.openToRead, hlocate, Except.map, Except.mapError] at h
    | ok location =>
      by_cases hthere : (fs.node? location).isSome
      · simp only [openToRead_eq_mapError, FileSystem.openToRead, hlocate, if_pos hthere, Except.map,
          Except.mapError] at h
        cases h
        exact ⟨rfl, hlocate⟩
      · simp [openToRead_eq_mapError, FileSystem.openToRead, hlocate, hthere, Except.map, Except.mapError] at h

end Request

/-! ## The stages of a request -/

namespace Request

variable {request : Request} {s opened : Session} {sink : Sink} {coverage : Option CoverageFile}
  {e : RequestError}

theorem command_of_tool?_eq_none (h : request.command.tool? = none) :
    request.command = .graphImports ∨ request.command = .coverageLog := by
  cases hcommand : request.command <;> simp [hcommand, Command.tool?] at h ⊢

/-- All commands that have a tool do the same work with it. -/
theorem perform_of_tool {tool : Tool} (h : request.command.tool? = some tool) (host : Host)
    (coverage : Option CoverageFile) (sink : Sink) :
    request.perform host coverage sink = Session.runTool host request sink tool := by
  funext s
  cases hcommand : request.command with
  | graphImports | coverageLog => simp [hcommand, Command.tool?] at h
  | parse | run | prove =>
    obtain rfl : _ = tool := by simpa [hcommand, Command.tool?] using h
    simp only [perform, hcommand]

/-- The end of a request: the standard output of the work goes to the output. -/
def deliver (request : Request) :
    Except RequestError (Summary × Sink) × Session → Except RequestError Summary × Session
  | (.error e, s) => (.error e, s)
  | (.ok (summary, sink), s) =>
    match s.finish (Utf8.encode summary.stdout) sink with
    | (.error cause, s) => (.error (.inputOutput request.output.name cause), s)
    | (.ok (), s) => (.ok summary, s)

theorem run_of_openInputs_error (h : request.openInputs s.files = .error e) (host : Host) :
    ∃ records, request.run host s = (.error e, { s with records }) := by
  refine Step.reporting_of_eq (t := s.log .info "parsed arguments" []) ?_
  simp only [Session.log, h]

theorem run_of_openSink_error (hinputs : request.openInputs s.files = .ok coverage)
    (h : s.openSink request.output = .error e) (host : Host) :
    ∃ records, request.run host s = (.error e, { s with records }) := by
  refine Step.reporting_of_eq (t := s.log .info "parsed arguments" []) ?_
  simp only [Session.log, hinputs, Session.openSink_error_records h]

/-- A request whose files cannot all be opened ends with an error and nothing else but log records. -/
theorem refused_or_opened (host : Host) (request : Request) (s : Session) :
    (∃ e records, request.run host s = (.error e, { s with records })) ∨
      ∃ coverage sink opened, request.openInputs s.files = .ok coverage ∧
        s.openSink request.output = .ok (sink, opened) := by
  cases hinputs : request.openInputs s.files with
  | error e => exact .inl ⟨e, run_of_openInputs_error hinputs host⟩
  | ok coverage =>
    cases hopen : s.openSink request.output with
    | error e => exact .inl ⟨e, run_of_openSink_error hinputs hopen host⟩
    | ok opening => exact .inr ⟨coverage, opening.1, opening.2, rfl, rfl⟩

/-- A request that succeeds has opened its files. -/
theorem opened_of_ok {host : Host} {summary : Summary} (h : (request.run host s).1 = .ok summary) :
    ∃ coverage sink opened, request.openInputs s.files = .ok coverage ∧
      s.openSink request.output = .ok (sink, opened) := by
  rcases refused_or_opened host request s with ⟨e, records, hrun⟩ | hopened
  · rw [hrun] at h
    contradiction
  · exact hopened

/-- With its output opened, a request does its work and delivers what the work has written. -/
theorem run_of_openSink (hinputs : request.openInputs s.files = .ok coverage)
    (h : s.openSink request.output = .ok (sink, opened)) (host : Host) :
    ∃ before after result ended,
      request.deliver (request.perform host coverage sink { opened with records := before }) =
        (result, ended) ∧
      request.run host s = (result, { ended with records := after }) := by
  refine ⟨s.records ++ [⟨.step, .info, some "parsed arguments", []⟩], ?_⟩
  generalize hwork : request.perform host coverage sink { opened with records := _ } = work
  rcases hended : request.deliver work with ⟨result, ended⟩
  have hrun : ∃ after, request.run host s = (result, { ended with records := after }) := by
    refine Step.reporting_of_eq ?_
    simp only [Session.log, hinputs, Session.openSink_records h, hwork]
    rw [← hended]
    rcases work with ⟨_ | _, _⟩ <;> rfl
  obtain ⟨after, hrun⟩ := hrun
  exact ⟨after, result, ended, rfl, hrun⟩

end Request

/-! ## Tools -/

namespace Session

variable {s : Session} {host : Host} {request : Request} {sink : Sink} {tool : Tool}

/-- An input that is a file is used as it is; standard input becomes a temporary file. -/
inductive Provided (host : Host) (s : Session) : Place → Except RequestError InputFile × Session → Prop
  | inPlace (path : String) : Provided host s (.file path) (.ok ⟨path, none⟩, s)
  | refused {cause : SystemError} {records : List Log.Record}
      (h : s.files.create host.temporaryPath = .error cause) :
      Provided host s .standard
        (.error (.inputOutput host.temporaryDirectory cause), { s with records })
  | copied {location : Location} {files : FileSystem} {records : List Log.Record}
      (h : s.files.create host.temporaryPath = .ok (location, files)) :
      Provided host s .standard (.ok ⟨host.temporaryPath, some location⟩,
        { s with files := files.writeAt location 0 s.stdin, stdin := [], records })

theorem provided_provideInput (host : Host) (input : Place) (s : Session) :
    Provided host s input (provideInput host input s) := by
  cases input with
  | file path => exact .inPlace path
  | standard =>
    unfold provideInput Step.reporting
    cases hcreate : s.files.create host.temporaryPath with
    | error cause =>
      simp only [hcreate]
      exact .refused hcreate
    | ok created =>
      simp only [hcreate]
      exact .copied hcreate

/-- What a tool has to do with a session: it gets no input, or it does not start, or it starts once and
ends. A temporary input is gone afterwards. -/
inductive ToolRun (host : Host) (request : Request) (sink : Sink) (tool : Tool) (s : Session) :
    Except RequestError (Summary × Sink) × Session → Prop
  | unprovided {e : RequestError} {refused : Session} {records : List Log.Record}
      (hinput : provideInput host request.input s = (.error e, refused)) :
      ToolRun host request sink tool s (.error e, { refused with records })
  | unstarted {input : InputFile} {ready : Session} {cause : SystemError} {records : List Log.Record}
      (hinput : provideInput host request.input s = (.ok input, ready))
      (hstart : host.run.start (request.call tool input.path) sink.location? ready.files =
        .error cause) :
      ToolRun host request sink tool s
        (.error (.spawn (request.call tool input.path).program cause),
          { ready.releaseInput input with records })
  | ended {input : InputFile} {ready : Session} {process : Process} {records : List Log.Record}
      (hinput : provideInput host request.input s = (.ok input, ready))
      (hstart : host.run.start (request.call tool input.path) sink.location? ready.files =
        .ok process) :
      ToolRun host request sink tool s
        (.ok (⟨request.command, (request.call tool input.path).display, process.ending.code,
            Utf8.decodeLossy process.stdout, Utf8.decodeLossy process.stderr⟩,
          sink.relocate process.openFile),
        { ({ ready with
            files := process.files
            calls := ready.calls ++ [request.call tool input.path] }).releaseInput input with records })

theorem toolRun_runTool (host : Host) (request : Request) (sink : Sink) (tool : Tool) (s : Session) :
    ToolRun host request sink tool s (runTool host request sink tool s) := by
  unfold runTool Step.reporting
  rcases hinput : provideInput host request.input s with ⟨e | input, ready⟩
  · simp only [hinput]
    exact .unprovided hinput
  rcases input with ⟨path, temporary⟩
  cases hstart : host.run.start (request.call tool path) sink.location? ready.files with
  | error cause =>
    simp only [hinput, runCall, Step.reporting, log, hstart]
    cases temporary <;> exact @ToolRun.unstarted _ _ _ _ _ _ ready _ _ hinput hstart
  | ok process =>
    simp only [hinput, runCall, Step.reporting, log, hstart]
    cases temporary <;> exact .ended hinput hstart

end Session

end KDispatch
