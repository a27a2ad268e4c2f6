import KDispatch.Proofs.Session.Course

/-!
What a request changes. Each part of the work keeps all files but the one it writes to and starts no process;
only a call of a tool does, and what the tool does to the files is its own affair. From this the whole course of
a request is put together: where it can end, and what is different then.
-/

namespace KDispatch

open FileSystem (SameBeside)

namespace Session

/-- Whether no process has been started since `start` and files have changed at certain locations only. -/
structure KeptBeside (changed : Location → Prop) (start s : Session) : Prop where
  calls : s.calls = start.calls
  shared : s.files.shared = start.files.shared
  files : start.files.NamesReplaceable → SameBeside changed start.files s.files

/-- Whether all names of an opened output are among the changed locations. -/
def Covers (changed : Location → Prop) (start : Session) (sink : Sink) : Prop :=
  start.files.NamesReplaceable → ∀ output ∈ sink.location?, ∀ name,
    start.files.SameFile output name → changed name

theorem location?_write {s t : Session} {bytes : Bytes} {sink written : Sink}
    (h : s.write bytes sink = (.ok written, t)) : written.location? = sink.location? := by
  cases sink with
  | refusing cause held =>
    simp only [write] at h
    split at h <;> cases h
    rfl
  | _ =>
    cases h
    rfl

-- unfolding a recursion looks into what its steps do, which here is reading a document
attribute [local irreducible] writeGraph in
theorem writeGraphs_cons (directory stage : String) (stages : List String) (s : Session) :
    writeGraphs directory (stage :: stages) s =
      match s.writeGraph (Path.join directory stage) with
      | (.ok _, s) => writeGraphs directory stages s
      | (.error e, s) =>
        (false, s.log .warn "import graph generation failed"
          [("base", .text (Path.join directory stage)), ("error", .text e.message),
            ("code", .text e.code)]) := rfl

namespace KeptBeside

variable {changed : Location → Prop} {start s t : Session} {sink : Sink}

theorem refl (changed : Location → Prop) (s : Session) : KeptBeside changed s s :=
  ⟨rfl, rfl, fun _ => .refl _ _⟩

theorem of_eq (h : KeptBeside changed start s) (hcalls : t.calls = s.calls) (hfiles : t.files = s.files) :
    KeptBeside changed start t where
  calls := hcalls.trans h.calls
  shared := hfiles ▸ h.shared
  files := hfiles ▸ h.files

theorem reporting {α : Type} {step : Step α} (h : KeptBeside changed start (step s).2) :
    KeptBeside changed start (step.reporting s).2 := by
  refine h.of_eq ?_ (files_reporting step s)
  unfold Step.reporting
  split <;> simp [*, report]

/-! ## Files -/

theorem writeAt (h : KeptBeside changed start s) {location : Location}
    (hlocation : start.files.NamesReplaceable → ∀ name,
      start.files.SameFile location name → changed name) (offset : Nat) (bytes : Bytes) :
    KeptBeside changed start { s with files := s.files.writeAt location offset bytes } where
  calls := h.calls
  shared := (FileSystem.shared_writeAt ..).trans h.shared
  files hnames := by
    have hreplaceable := hnames.of_sameBeside (h.files hnames) h.shared
    refine (h.files hnames).trans ((FileSystem.sameBeside_writeAt hreplaceable ..).mono fun name hname => ?_)
    exact hlocation hnames name
      ((FileSystem.sameFile_congr h.shared).1 (FileSystem.sameFile_of_mem_namesOf hname))

/-- A path is created where it would have been created at the start. -/
theorem locateToCreate_of_create (h : KeptBeside changed start s) {path : String} {location : Location}
    {files : FileSystem} (hcreate : s.files.create path = .ok (location, files))
    (hnames : start.files.NamesReplaceable) : start.files.locateToCreate path = .ok location :=
  (h.files hnames).symm.locateToCreate_ok (FileSystem.create_eq_ok_iff.1 hcreate).1

theorem create (h : KeptBeside changed start s) {path : String} {location : Location}
    {files : FileSystem} (hcreate : s.files.create path = .ok (location, files))
    (hpath : ∀ target, start.files.locateToCreate path = .ok target → ∀ name,
      start.files.SameFile target name → changed name) :
    KeptBeside changed start { s with files } := by
  have hcreated := (FileSystem.create_eq_ok_iff.1 hcreate).2
  refine ⟨h.calls, (FileSystem.shared_createAt hcreated).trans h.shared, fun hnames => ?_⟩
  have hreplaceable := hnames.of_sameBeside (h.files hnames) h.shared
  refine (h.files hnames).trans
    ((FileSystem.sameBeside_createAt hreplaceable hcreated).mono fun name hname => ?_)
  exact hpath location (h.locateToCreate_of_create hcreate hnames) name
    ((FileSystem.sameFile_congr h.shared).1 (FileSystem.sameFile_of_mem_namesOf hname))

theorem writeFile (h : KeptBeside changed start s) {path : String} {bytes : Bytes} {files : FileSystem}
    (hwrite : s.files.write path bytes = .ok files)
    (hpath : ∀ target, start.files.locateToCreate path = .ok target → ∀ name,
      start.files.SameFile target name → changed name) :
    KeptBeside changed start { s with files } := by
  unfold FileSystem.write at hwrite
  split at hwrite
  case h_1 => contradiction
  case h_2 location created hcreate =>
    have hcreated := h.create hcreate hpath
    have hlocation := h.locateToCreate_of_create hcreate
    -- a device that takes no bytes leaves the files as they were when it was opened
    split at hwrite
    case h_1 =>
      split at hwrite <;> cases hwrite
      exact hcreated
    case h_2 =>
      split at hwrite <;> cases hwrite
      exact hcreated
    case h_3 =>
      cases hwrite
      exact hcreated.writeAt (fun hnames => hpath location (hlocation hnames)) 0 bytes

/-! ## Outputs -/

theorem openSink (h : KeptBeside changed start s) {place : Place}
    (hopen : s.openSink place = .ok (sink, t))
    (hpath : ∀ path, place = .file path → ∀ target, start.files.locateToCreate path = .ok target →
      ∀ name, start.files.SameFile target name → changed name) :
    KeptBeside changed start t ∧ Covers changed start sink := by
  cases place with
  | standard =>
    cases hopen
    exact ⟨h, fun _ output houtput => absurd houtput (by simp [Sink.location?])⟩
  | file path =>
    obtain ⟨location, files, hlocate, hcreated, rfl, rfl⟩ := openSink_file_eq_ok_iff.1 hopen
    have hcreate := FileSystem.create_eq_ok_iff.2 ⟨hlocate, hcreated⟩
    refine ⟨h.create hcreate (hpath path rfl), fun hnames output houtput => ?_⟩
    obtain rfl : location = output := by
      unfold Sink.ofLocation at houtput
      split at houtput <;> simp_all [Sink.location?]
    exact hpath path rfl location (h.locateToCreate_of_create hcreate hnames)

theorem write (h : KeptBeside changed start s) (hsink : Covers changed start sink) (bytes : Bytes) :
    KeptBeside changed start (s.write bytes sink).2 := by
  cases sink with
  | standard => exact h.of_eq rfl rfl
  | errors => exact h.of_eq rfl rfl
  | nowhere => exact h
  | file location offset => exact h.writeAt (fun hnames => hsink hnames location rfl) offset bytes
  | refusing cause held =>
    simp only [Session.write]
    split <;> exact h

theorem writeAll (h : KeptBeside changed start s) (hsink : Covers changed start sink) (texts : List Text) :
    KeptBeside changed start (s.writeAll texts sink).2 ∧
      ∀ written ∈ (s.writeAll texts sink).1.toOption, Covers changed start written := by
  induction texts generalizing s sink with
  | nil => exact ⟨h, by rintro _ ⟨⟩; exact hsink⟩
  | cons text texts ih =>
    have hwrite := h.write hsink (Utf8.encode text)
    rcases hwritten : s.write (Utf8.encode text) sink with ⟨_ | written, s'⟩
    · rw [hwritten] at hwrite
      rw [Session.writeAll, hwritten]
      exact ⟨hwrite, by simp [Except.toOption]⟩
    · rw [hwritten] at hwrite
      rw [Session.writeAll, hwritten]
      refine ih hwrite ?_
      rwa [Covers, location?_write hwritten]

theorem finish (h : KeptBeside changed start s) (hsink : Covers changed start sink) (bytes : Bytes) :
    KeptBeside changed start (s.finish bytes sink).2 := by
  have hwrite := h.write hsink bytes
  unfold Session.finish
  split <;> simp_all

/-! ## Reading -/

theorem readDefinition (h : KeptBeside changed start s) (path : String) :
    KeptBeside changed start (s.readDefinition path).2 := by
  obtain ⟨records, hread⟩ := s.readDefinition_eq path
  rw [hread]
  exact h.of_eq rfl rfl

theorem readAt (h : KeptBeside changed start s) (location : Location) :
    KeptBeside changed start (s.readAt location).2 := by
  unfold Session.readAt
  split
  · exact h.of_eq rfl rfl
  · exact h

/-! ## The work -/

theorem writeLog (h : KeptBeside changed start s) (hsink : Covers changed start sink) (request : Request)
    (definition : Definition) (coverage : CoverageFile) :
    KeptBeside changed start (Session.writeLog request definition coverage sink s).2 ∧
      ∀ done ∈ (Session.writeLog request definition coverage sink s).1.toOption,
        Covers changed start done.2 := by
  have hread := h.readAt coverage.location
  unfold Session.writeLog
  split
  case h_1 hrefused =>
    rw [hrefused] at hread
    exact ⟨hread, by simp [Except.toOption]⟩
  case h_2 content s' hok =>
    rw [hok] at hread
    have hwrite := hread.writeAll hsink
      ((CoverageLog.ofContent definition content).entries.flatMap CoverageEntry.pieces)
    dsimp only
    split
    case h_1 hrefused =>
      rw [hrefused] at hwrite
      exact ⟨hwrite.1, by simp [Except.toOption]⟩
    case h_2 written s'' hwritten =>
      rw [hwritten] at hwrite
      split
      · exact ⟨hwrite.1, by simp [Except.toOption]⟩
      · exact ⟨hwrite.1.of_eq rfl rfl, by rintro _ ⟨⟩; exact hwrite.2 written rfl⟩

theorem logCoverage (h : KeptBeside changed start s) (hsink : Covers changed start sink) (request : Request)
    (coverage : Option CoverageFile) :
    KeptBeside changed start (s.logCoverage request coverage sink).2 ∧
      ∀ done ∈ (s.logCoverage request coverage sink).1.toOption, Covers changed start done.2 := by
  unfold Session.logCoverage
  rw [fst_reporting]
  refine And.imp_left KeptBeside.reporting ?_
  split
  case h_1 => exact ⟨h, by simp [Except.toOption]⟩
  case h_2 => exact ⟨h, by simp [Except.toOption]⟩
  case h_3 directory coverage _ =>
    have hread := h.readDefinition (Path.join directory "compiled.json")
    generalize s.readDefinition (Path.join directory "compiled.json") = found at hread ⊢
    rcases found with ⟨_ | definition, s'⟩
    · exact ⟨hread, by simp [Except.toOption]⟩
    · exact hread.writeLog hsink request definition coverage

theorem writeGraph (h : KeptBeside changed start s) {base : String}
    (hbase : ∀ target, start.files.locateToCreate (Path.withExtension base "dot") = .ok target → ∀ name,
      start.files.SameFile target name → changed name) :
    KeptBeside changed start (s.writeGraph base).2 := by
  have hread := h.readDefinition (Path.withExtension base "json")
  unfold Session.writeGraph
  generalize s.readDefinition (Path.withExtension base "json") = found at hread ⊢
  rcases found with ⟨e | definition, s'⟩
  · exact hread.of_eq rfl rfl
  · dsimp only
    split
    case h_1 => exact hread.of_eq rfl rfl
    case h_2 files hwrite =>
      exact (hread.writeFile hwrite hbase).of_eq rfl rfl

/-- The graphs of all stages, by induction on the stages that are left. -/
theorem writeGraphs (h : KeptBeside changed start s) {directory : String} {stages : List String}
    (hstages : ∀ stage ∈ stages, ∀ target,
      start.files.locateToCreate (Path.withExtension (Path.join directory stage) "dot") = .ok target →
      ∀ name, start.files.SameFile target name → changed name) :
    KeptBeside changed start (Session.writeGraphs directory stages s).2 := by
  induction stages generalizing s with
  | nil => exact h
  | cons stage stages ih =>
    obtain ⟨hstage, hstages⟩ := List.forall_mem_cons.1 hstages
    have hgraph := h.writeGraph hstage
    rw [writeGraphs_cons]
    generalize s.writeGraph (Path.join directory stage) = written at hgraph ⊢
    rcases written with ⟨e | target, s'⟩
    · exact hgraph.of_eq rfl rfl
    · exact ih hgraph hstages

theorem renderGraphs (h : KeptBeside changed start s) {request : Request}
    (hgraphs : ∀ directory ∈ request.definition, ∀ stage ∈ graphStages, ∀ target,
      start.files.locateToCreate (Path.withExtension (Path.join directory stage) "dot") = .ok target →
      ∀ name, start.files.SameFile target name → changed name) :
    KeptBeside changed start (Session.renderGraphs request s).2 := by
  refine KeptBeside.reporting ?_
  split
  case h_1 => exact h
  case h_2 directory hdirectory => exact h.writeGraphs (hgraphs directory hdirectory)

theorem provideInput (h : KeptBeside changed start s) (host : Host) {input : Place}
    (htemporary : input = .standard → ∀ target,
      start.files.locateToCreate host.temporaryPath = .ok target → ∀ name,
      start.files.SameFile target name → changed name) :
    KeptBeside changed start (Session.provideInput host input s).2 ∧
      ∀ provided ∈ (Session.provideInput host input s).1.toOption, ∀ temporary ∈ provided.temporary,
        start.files.NamesReplaceable → changed temporary := by
  have hprovided := provided_provideInput host input s
  generalize Session.provideInput host input s = ended at hprovided ⊢
  cases hprovided with
  | inPlace path => exact ⟨h, by rintro _ ⟨⟩ _ ⟨⟩⟩
  | refused _ => exact ⟨h.of_eq rfl rfl, by simp [Except.toOption]⟩
  | @copied location files records hcreate =>
    have hlocation := fun hnames =>
      htemporary rfl location (h.locateToCreate_of_create hcreate hnames)
    have hcreated := h.create hcreate (htemporary rfl)
    refine ⟨(hcreated.writeAt hlocation 0 s.stdin).of_eq rfl rfl, ?_⟩
    rintro _ ⟨⟩ _ ⟨⟩ hnames
    exact hlocation hnames location (.inl rfl)

theorem deliver (request : Request) {result : Except RequestError (Summary × Sink)}
    (h : KeptBeside changed start s) (hsink : ∀ done ∈ result.toOption, Covers changed start done.2) :
    KeptBeside changed start (request.deliver (result, s)).2 := by
  rcases result with _ | ⟨summary, sink⟩
  · exact h
  · have hfinish := h.finish (hsink _ rfl) (Utf8.encode summary.stdout)
    unfold Request.deliver
    dsimp only at hfinish ⊢
    split <;> simp_all

end KeptBeside

end Session

namespace Request

open Session (KeptBeside Covers provideInput)

/-! ## The course of a request -/

/-- The files that a request writes to, under all their names: its output, the import graphs, and the copy of
standard input that a tool gets. -/
inductive Writes (host : Host) (request : Request) (fs : FileSystem) : Location → Prop
  | output {path : String} {target name : Location} (houtput : request.output = .file path)
      (htarget : fs.locateToCreate path = .ok target) (hname : fs.SameFile target name) :
      Writes host request fs name
  | graph {directory stage : String} {target name : Location} (hcommand : request.command = .graphImports)
      (hdirectory : request.definition = some directory) (hstage : stage ∈ graphStages)
      (htarget : fs.locateToCreate (Path.withExtension (Path.join directory stage) "dot") = .ok target)
      (hname : fs.SameFile target name) : Writes host request fs name
  | temporary {tool : Tool} {target name : Location} (hcommand : request.command.tool? = some tool)
      (hinput : request.input = .standard) (htarget : fs.locateToCreate host.temporaryPath = .ok target)
      (hname : fs.SameFile target name) : Writes host request fs name

/-- A process that a request starts: its files have been opened, and the tool gets the input. -/
structure Starts (host : Host) (request : Request) (s : Session) (tool : Tool) (sink : Sink)
    (input : InputFile) (ready : Session) (process : Process) : Prop where
  command : request.command.tool? = some tool
  opened : ∃ coverage opened records, request.openInputs s.files = .ok coverage ∧
    s.openSink request.output = .ok (sink, opened) ∧
    provideInput host request.input { opened with records } = (.ok input, ready)
  start : host.run.start (request.call tool input.path) sink.location? ready.files = .ok process

/-- The files that are changed after a process has ended: the output, wherever it stands now, and the copy of
standard input. -/
def WritesAfter (sink : Sink) (input : InputFile) (process : Process) (name : Location) : Prop :=
  (∃ output ∈ (sink.relocate process.openFile).location?, process.files.SameFile output name) ∨
    input.temporary = some name

/-- How a request can go: its files cannot all be opened, or it ends without a process, or it starts one. -/
inductive RunCase (host : Host) (request : Request) (s : Session) :
    Except RequestError Summary × Session → Prop
  | refused {e : RequestError} {records : List Log.Record}
      (h : ¬ (request.InputsReadable s.files ∧ ∃ opening, s.openSink request.output = .ok opening)) :
      RunCase host request s (.error e, { s with records })
  | unstarted {result : Except RequestError Summary} {ended : Session} (hcalls : ended.calls = s.calls)
      (hfiles : s.files.NamesReplaceable →
        SameBeside (request.Writes host s.files) s.files ended.files) :
      RunCase host request s (result, ended)
  | started {tool : Tool} {sink : Sink} {input : InputFile} {ready : Session} {process : Process}
      {result : Except RequestError Summary} {ended : Session}
      (hstarts : request.Starts host s tool sink input ready process)
      (hcalls : ended.calls = s.calls ++ [request.call tool input.path])
      (hfiles : process.files.NamesAgree →
        SameBeside (WritesAfter sink input process) process.files ended.files) :
      RunCase host request s (result, ended)

variable {host : Host} {request : Request} {s opened : Session} {sink : Sink} {tool : Tool}

/-- Opening the output changes nothing but the output. -/
theorem keptBeside_opened (host : Host) (hopen : s.openSink request.output = .ok (sink, opened)) :
    KeptBeside (request.Writes host s.files) s opened ∧ Covers (request.Writes host s.files) s sink :=
  (KeptBeside.refl _ s).openSink hopen fun _ houtput _ htarget _ => .output houtput htarget

/-- What the tool gets is what was there before, beside the output and the copy of standard input. -/
theorem Starts.keptBeside {input : InputFile} {ready : Session} {process : Process}
    (h : request.Starts host s tool sink input ready process) :
    KeptBeside (request.Writes host s.files) s ready := by
  obtain ⟨coverage, opened, records, -, hopen, hprovide⟩ := h.opened
  have hopened := (keptBeside_opened host hopen).1
  have hready := (hopened.of_eq (t := { opened with records }) rfl rfl).provideInput host
    fun hinput _ htarget _ => .temporary h.command hinput htarget
  rw [hprovide] at hready
  exact hready.1

theorem calls_releaseInput (s : Session) (input : InputFile) :
    (s.releaseInput input).calls = s.calls := by
  unfold Session.releaseInput
  split <;> rfl

/-- A copy of standard input that is taken away. -/
theorem sameBeside_releaseInput (s : Session) (input : InputFile) :
    SameBeside (fun name => input.temporary = some name) s.files (s.releaseInput input).files := by
  unfold Session.releaseInput
  split
  case h_1 => exact .refl _ _
  case h_2 temporary htemporary =>
    refine (FileSystem.sameBeside_remove _ temporary).mono fun name hname => ?_
    rw [htemporary, hname]

/-- What is delivered after a process has ended starts no other one. -/
theorem delivered_after_process {input : InputFile} {ready : Session} {process : Process}
    {calls : List Call} {records : List Log.Record} {summary : Summary}
    {result : Except RequestError Summary} {ended : Session}
    (hdeliver : request.deliver (.ok (summary, sink.relocate process.openFile),
      { ({ ready with files := process.files, calls } : Session).releaseInput input with records }) =
        (result, ended)) :
    ended.calls = calls ∧ (process.files.NamesAgree →
      SameBeside (WritesAfter sink input process) process.files ended.files) := by
  have hreleased :=
    sameBeside_releaseInput ({ ready with files := process.files, calls } : Session) input
  have hagree (hnames : process.files.NamesAgree) :
      (({ ready with files := process.files, calls } : Session).releaseInput input).files.NamesAgree := by
    unfold Session.releaseInput
    split
    · exact hnames
    · exact hnames.remove _
  have hsame {a b : Location} (h : (({ ready with files := process.files, calls } : Session).releaseInput
      input).files.SameFile a b) : process.files.SameFile a b := by
    unfold Session.releaseInput at h
    split at h
    · exact h
    · exact FileSystem.sameFile_of_remove h
  have hcalls := calls_releaseInput ({ ready with files := process.files, calls } : Session) input
  generalize ({ ready with files := process.files, calls } : Session).releaseInput input = released
    at hdeliver hreleased hagree hsame hcalls
  have hdelivered : KeptBeside (WritesAfter sink input process) { released with records } ended := by
    have hsink : ∀ done ∈ (Except.ok (summary, sink.relocate process.openFile) :
        Except RequestError (Summary × Sink)).toOption,
        Covers (WritesAfter sink input process) { released with records } done.2 := by
      rintro _ ⟨⟩ _ output houtput name hname
      exact .inl ⟨output, houtput, hsame hname⟩
    have hended := KeptBeside.deliver request (.refl _ { released with records }) hsink
    rwa [hdeliver] at hended
  refine ⟨hdelivered.calls.trans hcalls, fun hnames => ?_⟩
  exact (hreleased.mono fun name hname => .inr hname).trans
    (hdelivered.files (hagree hnames).namesReplaceable)

theorem runCase_of_toolRun {coverage : Option CoverageFile}
    (hinputs : request.openInputs s.files = .ok coverage)
    (hopen : s.openSink request.output = .ok (sink, opened)) (htool : request.command.tool? = some tool)
    {before after : List Log.Record} {work : Except RequestError (Summary × Sink) × Session}
    {result : Except RequestError Summary} {ended : Session}
    (hrun : Session.ToolRun host request sink tool { opened with records := before } work)
    (hdeliver : request.deliver work = (result, ended)) :
    RunCase host request s (result, { ended with records := after }) := by
  have hopened := (keptBeside_opened host hopen).1
  obtain ⟨hready, htemporary⟩ :=
    (hopened.of_eq (t := { opened with records := before }) rfl rfl).provideInput host
      fun hinput _ htarget _ => .temporary htool hinput htarget
  cases hrun with
  | unprovided hinput =>
    cases hdeliver
    rw [hinput] at hready
    exact .unstarted hready.calls hready.files
  | @unstarted input ready cause records hinput hstart =>
    cases hdeliver
    rw [hinput] at hready htemporary
    refine .unstarted ((calls_releaseInput ready input).trans hready.calls) fun hnames => ?_
    refine (hready.files hnames).trans ((sameBeside_releaseInput ready input).mono fun name hname => ?_)
    exact htemporary input rfl name hname hnames
  | @ended input ready process records hinput hstart =>
    rw [hinput] at hready
    obtain ⟨hcalls, hfiles⟩ := delivered_after_process hdeliver
    refine .started ⟨htool, ⟨coverage, opened, before, hinputs, hopen, hinput⟩, hstart⟩ ?_ hfiles
    rw [← hready.calls]
    exact hcalls

/-- Every request goes in one of these ways. -/
theorem run_cases (host : Host) (request : Request) (s : Session) :
    RunCase host request s (request.run host s) := by
  cases hinputs : request.openInputs s.files with
  | error e =>
    obtain ⟨records, hrun⟩ := run_of_openInputs_error hinputs host
    rw [hrun]
    refine .refused fun ⟨hreadable, _⟩ => ?_
    obtain ⟨coverage, hok⟩ := hreadable.openInputs_eq_ok
    rw [hinputs] at hok
    contradiction
  | ok coverage =>
  cases hopen : s.openSink request.output with
  | error e =>
    obtain ⟨records, hrun⟩ := run_of_openSink_error hinputs hopen host
    rw [hrun]
    refine .refused fun ⟨_, opening, hok⟩ => ?_
    rw [hopen] at hok
    contradiction
  | ok opening =>
  obtain ⟨sink, opened⟩ := opening
  obtain ⟨before, after, result, ended, hdeliver, hrun⟩ := run_of_openSink hinputs hopen host
  rw [hrun]
  obtain ⟨hopened, hsink⟩ := keptBeside_opened host hopen
  replace hopened : KeptBeside (request.Writes host s.files) s { opened with records := before } :=
    hopened.of_eq rfl rfl
  have hidle {work : Except RequestError (Summary × Sink) × Session}
      (hwork : KeptBeside (request.Writes host s.files) s work.2 ∧
        ∀ done ∈ work.1.toOption, Covers (request.Writes host s.files) s done.2)
      (hdeliver : request.deliver work = (result, ended)) :
      RunCase host request s (result, { ended with records := after }) := by
    have hended := hwork.1.deliver request hwork.2
    rw [hdeliver] at hended
    exact .unstarted hended.calls hended.files
  cases htool : request.command.tool? with
  | some tool =>
    rw [perform_of_tool htool] at hdeliver
    exact runCase_of_toolRun hinputs hopen htool (Session.toolRun_runTool ..) hdeliver
  | none =>
    rcases command_of_tool?_eq_none htool with hcommand | hcommand
    · have hgraphs := hopened.renderGraphs fun directory hdirectory stage hstage target htarget name =>
        Writes.graph hcommand hdirectory hstage htarget
      simp only [perform, hcommand] at hdeliver
      refine hidle ?_ hdeliver
      generalize Session.renderGraphs request { opened with records := before } = rendered at hgraphs ⊢
      rcases rendered with ⟨_ | summary, s'⟩
      · exact ⟨hgraphs, by simp [Except.toOption]⟩
      · exact ⟨hgraphs, by rintro _ ⟨⟩; exact hsink⟩
    · simp only [perform, hcommand] at hdeliver
      exact hidle (hopened.logCoverage hsink request coverage) hdeliver

end Request

end KDispatch
