import KDispatch.Proofs.Session.Frame

/-!
Requests for a tool. With its files opened, such a request goes in one of three ways: standard input cannot be
copied, the tool does not start, or it starts once and what it has written is delivered. Which way it is does not
depend on the log records, so a process that a request starts says what its whole run comes to.
-/

namespace KDispatch

open Session (provideInput)

namespace Session

/-- The log records have no part in providing the input. -/
theorem provideInput_records (host : Host) (input : Place) (s : Session) (records : List Log.Record) :
    ∃ after, provideInput host input { s with records } =
      ((provideInput host input s).1, { (provideInput host input s).2 with records := after }) := by
  cases input with
  | file path => exact ⟨records, rfl⟩
  | standard =>
    unfold provideInput Step.reporting
    cases hcreate : s.files.create host.temporaryPath with
    | error cause =>
      simp only [hcreate]
      exact ⟨_, rfl⟩
    | ok created =>
      simp only [hcreate]
      exact ⟨_, rfl⟩

/-- An input that is provided is the file itself or a copy of standard input. -/
theorem provideInput_eq_ok {host : Host} {place : Place} {s ready : Session} {input : InputFile}
    (h : provideInput host place s = (.ok input, ready)) :
    (place = .file input.path ∧ input.temporary = none ∧ ready = s) ∨
      (place = .standard ∧ input.path = host.temporaryPath ∧ ∃ location files records,
        s.files.create host.temporaryPath = .ok (location, files) ∧ input.temporary = some location ∧
        ready = { s with files := files.writeAt location 0 s.stdin, stdin := [], records }) := by
  have hprovided := provided_provideInput host place s
  rw [h] at hprovided
  cases hprovided with
  | inPlace path => exact .inl ⟨rfl, rfl, rfl⟩
  | copied hcreate => exact .inr ⟨rfl, rfl, _, _, _, hcreate, rfl, rfl⟩

/-- The session after a process has ended and its input has been taken away. -/
def afterProcess (ready : Session) (call : Call) (input : InputFile) (process : Process) : Session :=
  ({ ready with files := process.files, calls := ready.calls ++ [call] }).releaseInput input

theorem afterProcess_records (ready : Session) (call : Call) (input : InputFile) (process : Process)
    (records after : List Log.Record) :
    ({ ({ ready with records } : Session).afterProcess call input process with records := after } : Session) =
      { ready.afterProcess call input process with records := after } := by
  unfold afterProcess releaseInput
  split <;> rfl

theorem releaseInput_records (s : Session) (input : InputFile) (records after : List Log.Record) :
    ({ ({ s with records } : Session).releaseInput input with records := after } : Session) =
      { s.releaseInput input with records := after } := by
  unfold releaseInput
  split <;> rfl

end Session

namespace Request

variable {host : Host} {request : Request} {s opened ready : Session} {sink : Sink} {tool : Tool}
  {coverage : Option CoverageFile} {input : InputFile} {process : Process}

/-- What a process of a request is summed up as. -/
def summaryOf (request : Request) (call : Call) (process : Process) : Summary where
  command := request.command
  description := call.display
  exitCode := process.ending.code
  stdout := Utf8.decodeLossy process.stdout
  stderr := Utf8.decodeLossy process.stderr

/-- How a request for a tool goes once its output has been opened. -/
inductive ToolCase (host : Host) (request : Request) (tool : Tool) (sink : Sink) (opened : Session) :
    Except RequestError Summary × Session → Prop
  | uncopied {cause : SystemError} {records : List Log.Record} (hinput : request.input = .standard)
      (hcreate : opened.files.create host.temporaryPath = .error cause) :
      ToolCase host request tool sink opened
        (.error (.inputOutput host.temporaryDirectory cause), { opened with records })
  | unstarted {input : InputFile} {ready : Session} {cause : SystemError} {records : List Log.Record}
      (hinput : provideInput host request.input opened = (.ok input, ready))
      (hstart : host.run.start (request.call tool input.path) sink.location? ready.files =
        .error cause) :
      ToolCase host request tool sink opened
        (.error (.spawn (tool.program request.release) cause), { ready.releaseInput input with records })
  | started {input : InputFile} {ready : Session} {process : Process} {before after : List Log.Record}
      {result : Except RequestError Summary} {ended : Session}
      (hinput : provideInput host request.input opened = (.ok input, ready))
      (hstart : host.run.start (request.call tool input.path) sink.location? ready.files = .ok process)
      (hdeliver : request.deliver
        (.ok (request.summaryOf (request.call tool input.path) process, sink.relocate process.openFile),
          { ready.afterProcess (request.call tool input.path) input process with records := before }) =
        (result, ended)) :
      ToolCase host request tool sink opened (result, { ended with records := after })

/-- Delivering starts no process. -/
theorem calls_deliver (request : Request) (work : Except RequestError (Summary × Sink) × Session) :
    (request.deliver work).2.calls = work.2.calls := by
  have hkept := Session.KeptBeside.refl (fun _ => True) work.2
  exact (hkept.deliver request fun _ _ _ _ _ _ _ => trivial).calls

/-- A request whose files have been opened goes in one of these ways if its command has a tool. -/
theorem run_toolCase (hinputs : request.openInputs s.files = .ok coverage)
    (hopen : s.openSink request.output = .ok (sink, opened)) (htool : request.command.tool? = some tool)
    (host : Host) : ToolCase host request tool sink opened (request.run host s) := by
  obtain ⟨before, after, result, ended, hdeliver, hrun⟩ := run_of_openSink hinputs hopen host
  rw [hrun]
  rw [perform_of_tool htool] at hdeliver
  have htoolRun := Session.toolRun_runTool host request sink tool { opened with records := before }
  obtain ⟨records, hrecords⟩ := Session.provideInput_records host request.input opened before
  generalize Session.runTool host request sink tool { opened with records := before } = work
    at hdeliver htoolRun
  cases htoolRun with
  | unprovided hinput =>
    cases hdeliver
    have hprovided := Session.provided_provideInput host request.input { opened with records := before }
    rw [hinput] at hprovided
    generalize hplace : request.input = place at hprovided
    cases hprovided with
    | refused hcreate => exact .uncopied hplace hcreate
  | @unstarted input ready cause _ hinput hstart =>
    cases hdeliver
    obtain ⟨hprovided, rfl⟩ := Prod.mk.inj (hrecords.symm.trans hinput)
    rw [Session.releaseInput_records]
    exact .unstarted (Prod.ext hprovided rfl) hstart
  | @ended input ready process written hinput hstart =>
    obtain ⟨hprovided, rfl⟩ := Prod.mk.inj (hrecords.symm.trans hinput)
    refine @ToolCase.started _ _ _ _ _ _ _ _ written _ _ _ (Prod.ext hprovided rfl) hstart ?_
    rw [← Session.afterProcess_records _ _ _ _ records]
    exact hdeliver

/-- A process that a request starts is the one that its run is about. -/
theorem Starts.run_eq (h : request.Starts host s tool sink input ready process) :
    ∃ before after result ended,
      request.deliver
        (.ok (request.summaryOf (request.call tool input.path) process, sink.relocate process.openFile),
          { ready.afterProcess (request.call tool input.path) input process with records := before }) =
        (result, ended) ∧
      request.run host s = (result, { ended with records := after }) := by
  obtain ⟨coverage, opened, records, hinputs, hopen, hprovide⟩ := h.opened
  obtain ⟨after, hrecords⟩ := Session.provideInput_records host request.input opened records
  obtain ⟨hprovided, rfl⟩ := Prod.mk.inj (hrecords.symm.trans hprovide)
  have hstart := h.start
  have hcase := run_toolCase hinputs hopen h.command host
  generalize request.run host s = ended at hcase
  -- the same input is provided, so the same process starts
  cases hcase with
  | uncopied hinput hcreate =>
    have hcopied := Session.provided_provideInput host .standard opened
    rw [hinput] at hprovided
    generalize provideInput host .standard opened = provided at hprovided hcopied
    cases hcopied with
    | refused _ => contradiction
    | copied hcreated =>
      rw [hcreate] at hcreated
      contradiction
  | unstarted hinput hrefused =>
    rw [hinput] at hprovided hstart
    cases hprovided
    rw [hrefused] at hstart
    contradiction
  | @started _ _ _ before after result ended hinput hstarted hdeliver =>
    rw [hinput] at hprovided hstart
    cases hprovided
    obtain rfl := Except.ok.inj (hstarted.symm.trans hstart)
    refine ⟨before, after, result, ended, ?_, rfl⟩
    rw [hinput, Session.afterProcess_records]
    exact hdeliver

end Request

end KDispatch
