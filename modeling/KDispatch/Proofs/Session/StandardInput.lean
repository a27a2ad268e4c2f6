import KDispatch.Proofs.FileSystem.Fresh
import KDispatch.Proofs.Session.Ignoring
import KDispatch.Proofs.Session.Inputs
import Mathlib.Control.Monad.Basic

/-!
Standard input. A tool gets it as a file of its own, which holds just the bytes that were there and is gone when the
request has ended, however it has ended. All other requests leave standard input alone and do not depend on it,
unless they are told to read a file that is standard input under another name.
-/

namespace KDispatch

namespace Request

open Session (KeptBeside provideInput)

variable {host : Host} {request : Request} {s opened ready ended : Session} {tool : Tool} {sink : Sink}
  {input : InputFile} {process : Process} {location : Location}

/-! ## The copy -/

/-- The names of the file that a request writes its output to. -/
def IsOutputFile (request : Request) (fs : FileSystem) (name : Location) : Prop :=
  ∃ path target, request.output = .file path ∧ fs.locateToCreate path = .ok target ∧
    fs.SameFile target name

/-- A place for a copy of standard input: nothing stands there, a file can be created there, and it is not where the
output goes. -/
structure HasFreshCopy (host : Host) (request : Request) (fs : FileSystem) (location : Location) :
    Prop where
  located : fs.locateToCreate host.temporaryPath = .ok location
  missing : fs.node? location = none
  creatable : FileSystem.additionError? location = none
  besideOutput : ∀ path, request.output = .file path → fs.locateToCreate path ≠ .ok location

/-- A session that holds a copy of the standard input of `s` and is the same beside it and the output. -/
structure HoldsCopy (host : Host) (request : Request) (s : Session) (location : Location)
    (input : InputFile) (ready : Session) : Prop where
  fresh : request.HasFreshCopy host s.files location
  input : input = ⟨host.temporaryPath, some location⟩
  content : ready.files.content? location = some s.stdin
  kept : KeptBeside (fun name => request.IsOutputFile s.files name ∨ location = name) s ready

theorem HasFreshCopy.not_isOutputFile (h : request.HasFreshCopy host s.files location)
    (hnames : s.files.NamesAgree) : ¬ request.IsOutputFile s.files location := by
  rintro ⟨path, target, houtput, htarget, hsame⟩
  obtain rfl := hnames.eq_of_sameFile h.missing hsame.symm
  exact h.besideOutput path houtput htarget

theorem keptBeside_openSink {changed : Location → Prop}
    (houtput : ∀ name, request.IsOutputFile s.files name → changed name)
    (hopen : s.openSink request.output = .ok (sink, opened)) : KeptBeside changed s opened :=
  ((KeptBeside.refl _ s).openSink hopen fun path hpath target htarget name hname =>
    houtput name ⟨path, target, hpath, htarget, hname⟩).1

namespace HasFreshCopy

variable (h : request.HasFreshCopy host s.files location) (hnames : s.files.NamesAgree)

include h hnames

/-- The place for the copy is still free when the output has been opened. -/
theorem free_of_openSink (hopen : s.openSink request.output = .ok (sink, opened)) :
    opened.files.locateToCreate host.temporaryPath = .ok location ∧
      opened.files.node? location = none := by
  have hsame := (keptBeside_openSink (fun _ => id) hopen).files hnames.namesReplaceable
  refine ⟨hsame.locateToCreate_ok h.located, ?_⟩
  rw [hsame.elsewhere location (h.not_isOutputFile hnames), h.missing]

theorem create_ne_error (hopen : s.openSink request.output = .ok (sink, opened)) (cause : SystemError) :
    opened.files.create host.temporaryPath ≠ .error cause := by
  obtain ⟨hlocated, hmissing⟩ := h.free_of_openSink hnames hopen
  obtain ⟨files, hcreate⟩ := FileSystem.exists_createAt hmissing h.creatable
  rw [FileSystem.create_eq_ok_iff.2 ⟨hlocated, hcreate⟩]
  simp

/-- Whenever an input is provided, it is the copy. -/
theorem holdsCopy (hinput : request.input = .standard)
    (hopen : s.openSink request.output = .ok (sink, opened)) (records : List Log.Record)
    (hprovide : provideInput host request.input { opened with records } = (.ok input, ready)) :
    HoldsCopy host request s location input ready := by
  obtain ⟨hlocated, hmissing⟩ := h.free_of_openSink hnames hopen
  rcases Session.provideInput_eq_ok hprovide with ⟨hplace, -, -⟩ | ⟨-, hpath, found, files, after, hcreate,
    htemporary, rfl⟩
  · rw [hinput] at hplace
    contradiction
  obtain ⟨hfound, hcreated⟩ := FileSystem.create_eq_ok_iff.1 hcreate
  obtain rfl := Except.ok.inj (hlocated.symm.trans hfound)
  have hstdin : opened.stdin = s.stdin := by rw [Session.openSink_eq hopen]
  have hopened : KeptBeside (fun name => request.IsOutputFile s.files name ∨ location = name) s opened :=
    keptBeside_openSink (fun _ => .inl) hopen
  have hcopied := (hopened.of_eq (t := { opened with records }) rfl rfl).provideInput host
    fun (hstandard : request.input = .standard) target htarget name hname => by
      obtain rfl := Except.ok.inj (h.located.symm.trans htarget)
      exact .inr (hnames.eq_of_sameFile h.missing hname)
  rw [hprovide] at hcopied
  refine ⟨h, ?_, ?_, hcopied.1⟩
  · rw [← hpath, ← htemporary]
  · rw [← hstdin]
    exact FileSystem.content?_writeAt_of_createAt hmissing hcreated opened.stdin

end HasFreshCopy

/-! ## The end -/

namespace HoldsCopy

variable (h : request.HoldsCopy host s location input ready) (hnames : s.files.NamesAgree)

include h hnames

/-- The tool finds the copy under the path that it is given. -/
theorem contents?_temporaryPath : ready.files.contents? host.temporaryPath = some s.stdin := by
  have hlocated := FileSystem.locate_of_locateToCreate h.fresh.located
  exact FileSystem.contents?_of_locate ((h.kept.files hnames.namesReplaceable).locate_ok hlocated)
    h.content

/-- Taking the copy away restores what was there before the request. -/
theorem node?_remove {files : FileSystem} {other : Location}
    (hother : ¬ request.IsOutputFile s.files other)
    (hleft : files.node? other = ready.files.node? other) :
    (files.remove location).node? other = s.files.node? other := by
  by_cases hcopy : location = other
  · subst hcopy
    have hcontent : files.content? location = some s.stdin :=
      (FileSystem.content?_congr hleft).trans h.content
    rw [FileSystem.node?_remove_of_content? hcontent, h.fresh.missing]
  · rw [(FileSystem.sameBeside_remove files location).elsewhere other fun heq => hcopy heq.symm, hleft]
    exact (h.kept.files hnames.namesReplaceable).elsewhere other
      (not_or.2 ⟨hother, hcopy⟩)

end HoldsCopy

/-- Delivering writes to regular files only. -/
theorem node?_deliver (request : Request) {t : Session} (hnames : t.files.NamesAgree)
    (hnone : t.files.content? location = none) (result : Except RequestError (Summary × Sink)) :
    (request.deliver (result, t)).2.files.node? location = t.files.node? location := by
  rcases result with e | ⟨summary, sink⟩
  · rfl
  have hdeliver : (request.deliver (.ok (summary, sink), t)).2 =
      (t.write (Utf8.encode summary.stdout) sink).2 := by
    rw [← Session.snd_finish]
    unfold deliver
    dsimp only
    split <;> simp [*]
  rw [hdeliver]
  cases sink with
  | file target offset => exact hnames.node?_writeAt hnone target offset _
  | refusing cause held =>
    simp only [Session.write]
    split <;> rfl
  | standard | errors | nowhere => rfl

/-- What a request for a tool does with standard input. The tool gets a copy of it, and afterwards there is none;
what neither the output nor the tool has changed is as before. -/
structure HandsOver (host : Host) (request : Request) (s : Session) (tool : Tool) (location : Location) :
    Prop where
  given : ∀ sink input ready process, request.Starts host s tool sink input ready process →
    host.temporaryPath ∈ (request.call tool input.path).arguments ∧ input.path = host.temporaryPath ∧
      ready.files.contents? host.temporaryPath = some s.stdin
  gone : (∀ sink input ready process, request.Starts host s tool sink input ready process →
    process.files.NamesAgree) → (request.run host s).2.files.content? location = none
  unstarted : (∀ sink input ready process, ¬ request.Starts host s tool sink input ready process) →
    ∀ other, ¬ request.IsOutputFile s.files other →
      (request.run host s).2.files.node? other = s.files.node? other
  started : ∀ sink input ready process, request.Starts host s tool sink input ready process →
    process.files.NamesAgree → ∀ other, ¬ request.IsOutputFile s.files other →
    (∀ output ∈ (sink.relocate process.openFile).location?, ¬ process.files.SameFile output other) →
    process.files.node? other = ready.files.node? other →
    (request.run host s).2.files.node? other = s.files.node? other

theorem mem_arguments_call (request : Request) (tool : Tool) (path : String) :
    path ∈ (request.call tool path).arguments := by
  simp [call, Call.ofTool]

/-- Every process that is started gets the copy. -/
theorem HasFreshCopy.holdsCopy_of_starts (h : request.HasFreshCopy host s.files location)
    (hnames : s.files.NamesAgree) (hinput : request.input = .standard)
    (hstarts : request.Starts host s tool sink input ready process) :
    HoldsCopy host request s location input ready := by
  obtain ⟨coverage, opened, records, -, hopen, hprovide⟩ := hstarts.opened
  exact h.holdsCopy hnames hinput hopen records hprovide

theorem run_started (h : request.HasFreshCopy host s.files location) (hnames : s.files.NamesAgree)
    (hinput : request.input = .standard) (hstarts : request.Starts host s tool sink input ready process)
    (hagree : process.files.NamesAgree) :
    (request.run host s).2.files.content? location = none ∧
    ∀ other, ¬ request.IsOutputFile s.files other →
      (∀ output ∈ (sink.relocate process.openFile).location?, ¬ process.files.SameFile output other) →
      process.files.node? other = ready.files.node? other →
      (request.run host s).2.files.node? other = s.files.node? other := by
  have hcopy := h.holdsCopy_of_starts hnames hinput hstarts
  obtain ⟨before, after, result, ended, hdeliver, hrun⟩ := hstarts.run_eq
  have hreleased : (ready.afterProcess (request.call tool input.path) input process).files =
      process.files.remove location := by
    rw [hcopy.input]
    rfl
  have hgone := FileSystem.content?_remove process.files location
  rw [← hreleased] at hgone
  have hkept := node?_deliver (t := { ready.afterProcess (request.call tool input.path) input process with
    records := before }) request (hreleased ▸ hagree.remove location) hgone
    (.ok (request.summaryOf (request.call tool input.path) process, sink.relocate process.openFile))
  rw [hdeliver] at hkept
  rw [hrun]
  refine ⟨(FileSystem.content?_congr hkept).trans hgone, fun other houtput hmoved hleft => ?_⟩
  have hrestored := hcopy.node?_remove hnames houtput hleft
  rw [← hrestored, ← hreleased]
  -- the place of the copy is not written to again, whatever the tool has done with the output
  by_cases heq : location = other
  · exact heq ▸ hkept
  · have hbeside : ¬ WritesAfter sink input process other := by
      rintro (⟨output, hsink, hsame⟩ | htemporary)
      · exact hmoved output hsink hsame
      · rw [hcopy.input] at htemporary
        exact heq (Option.some.inj htemporary)
    have hdelivered := (delivered_after_process hdeliver).2 hagree
    rw [hreleased]
    exact (hdelivered.elsewhere other hbeside).trans
      ((FileSystem.sameBeside_remove process.files location).elsewhere other fun h => heq h.symm).symm

theorem run_unstarted (h : request.HasFreshCopy host s.files location) (hnames : s.files.NamesAgree)
    (htool : request.command.tool? = some tool) (hinput : request.input = .standard)
    (hnone : ∀ sink input ready process, ¬ request.Starts host s tool sink input ready process)
    {other : Location} (houtput : ¬ request.IsOutputFile s.files other) :
    (request.run host s).2.files.node? other = s.files.node? other := by
  rcases refused_or_opened host request s with
    ⟨e, records, hrun⟩ | ⟨coverage, sink, opened, hinputs, hopen⟩
  · rw [hrun]
  have hcase := run_toolCase hinputs hopen htool host
  generalize request.run host s = ended at hcase ⊢
  cases hcase with
  | uncopied _ hcreate => exact absurd hcreate (h.create_ne_error hnames hopen _)
  | @unstarted input ready _ _ hprovide _ =>
    have hcopy := h.holdsCopy hnames hinput hopen opened.records hprovide
    have hreleased : (ready.releaseInput input).files = ready.files.remove location := by
      rw [hcopy.input]
      rfl
    dsimp only
    rw [hreleased]
    exact hcopy.node?_remove hnames houtput rfl
  | started hprovide hstart _ =>
    exact absurd ⟨htool, ⟨coverage, opened, opened.records, hinputs, hopen, hprovide⟩, hstart⟩
      (hnone _ _ _ _)

theorem handsOver (h : request.HasFreshCopy host s.files location) (hnames : s.files.NamesAgree)
    (htool : request.command.tool? = some tool) (hinput : request.input = .standard) :
    HandsOver host request s tool location where
  given sink input ready process hstarts := by
    have hcopy := h.holdsCopy_of_starts hnames hinput hstarts
    have hpath : input.path = host.temporaryPath := by rw [hcopy.input]
    exact ⟨hpath ▸ mem_arguments_call request tool input.path, hpath, hcopy.contents?_temporaryPath hnames⟩
  gone hagree := by
    by_cases hstarts : ∃ sink input ready process, request.Starts host s tool sink input ready process
    · obtain ⟨sink, input, ready, process, hstarts⟩ := hstarts
      exact (run_started h hnames hinput hstarts (hagree _ _ _ _ hstarts)).1
    · have hnone (sink input ready process) :
          ¬ request.Starts host s tool sink input ready process :=
        fun hprocess => hstarts ⟨sink, input, ready, process, hprocess⟩
      have hmissing := run_unstarted h hnames htool hinput hnone (h.not_isOutputFile hnames)
      rw [FileSystem.content?_congr hmissing, FileSystem.content?, h.missing]
  unstarted hnone other := run_unstarted h hnames htool hinput hnone
  started sink input ready process hstarts hagree :=
    (run_started h hnames hinput hstarts hagree).2

/-! ## Both ways -/

/-- What any other request does with standard input: nothing. It leaves it alone and comes to the same, whatever
stands there and wherever temporary files would be put. -/
structure LeavesAlone (host : Host) (request : Request) (s : Session) : Prop where
  unread : (request.run host s).2.stdin = s.stdin
  same : ∀ (other : Host) (stdin : Bytes), other.run = host.run →
    request.run other { s with stdin } =
      ((request.run host s).1, { (request.run host s).2 with stdin })

/-- A tool whose input is standard input gets a copy of it that does not outlast the request. Every other request has
nothing to do with standard input unless it reads a file that is standard input under another name. -/
theorem run_standard_input (hnames : s.files.NamesAgree) (host : Host) (request : Request) :
    (∀ tool location, request.command.tool? = some tool → request.input = .standard →
      request.HasFreshCopy host s.files location → HandsOver host request s tool location) ∧
    ((request.command.tool? = none ∨ ∃ path, request.input = .file path) →
      (∀ path, request.Reads path → ¬ s.files.IsStandardInput path) → LeavesAlone host request s) := by
  refine ⟨fun tool location htool hinput h => handsOver h hnames htool hinput, fun hkind hreads => ?_⟩
  have hcopies : ¬ request.CopiesInput := by
    rintro ⟨htool, hinput⟩
    rcases hkind with hnone | ⟨path, hfile⟩
    · simp [hnone] at htool
    · rw [hinput] at hfile
      contradiction
  have hignores := ignores_run hnames.namesReplaceable hcopies hreads host
  refine ⟨hignores.unread, fun other stdin hrun => ?_⟩
  rw [run_congr hcopies hrun]
  exact hignores stdin

/-! A tool that prints its input, once from standard input and once from a file. -/

def pipedFiles : FileSystem := .ofNodes [] [(["tmp"], .directory)]

def pipedRequest : Request := ⟨.parse, none, .standard, .standard, .pretty, .kast, none, none, []⟩

theorem hasFreshCopy_piped : pipedRequest.HasFreshCopy copyingHost pipedFiles ["tmp", "input"] where
  located := rfl
  missing := rfl
  creatable := rfl
  besideOutput path houtput := by contradiction

theorem run_standard_input_piped :
    (pipedFiles.NamesAgree ∧ HandsOver copyingHost pipedRequest (.start pipedFiles (utf8 "1 + 2")) .kast
        ["tmp", "input"] ∧
      (pipedRequest.run copyingHost (.start pipedFiles (utf8 "1 + 2"))).2.stdout = utf8 "1 + 2" ∧
      (pipedRequest.run copyingHost (.start pipedFiles (utf8 "1 + 2"))).2.files.node? ["tmp", "input"] =
        none) ∧
    toolFiles.NamesAgree ∧ LeavesAlone copyingHost (toolRequest "out") (.start toolFiles [0xFF]) := by
  have hpiped : pipedFiles.NamesAgree := FileSystem.namesAgree_ofNodes _ _
  have htool : toolFiles.NamesAgree := FileSystem.namesAgree_ofNodes _ _
  refine ⟨⟨hpiped, ?_, by decide +kernel, by decide +kernel⟩, htool, ?_⟩
  · exact (@run_standard_input (.start pipedFiles (utf8 "1 + 2")) hpiped copyingHost pipedRequest).1 .kast
      ["tmp", "input"] rfl rfl hasFreshCopy_piped
  · refine (@run_standard_input (.start toolFiles [0xFF]) htool copyingHost (toolRequest "out")).2
      (.inr ⟨"in", rfl⟩) fun path hreads => ?_
    cases hreads <;> contradiction

/-! A coverage log whose coverage file is standard input under another name. -/

def deviceDocument : Bytes :=
  ["\x7b\"term\":\x7b", "\"node\":", "\"KDefinition\",", "\"mainModule\":", "\"M\",",
    "\"modules\":[]\x7d\x7d"].flatMap utf8

def deviceFiles : FileSystem :=
  .ofNodes [] [(["d"], .directory), (["d", "compiled.json"], .file deviceDocument false),
    (["dev"], .directory), (["dev", "stdin"], .device (.descriptor 0))]

def deviceRequest : Request :=
  ⟨.coverageLog, some "d", .standard, .standard, .pretty, .pretty, some "/dev/stdin", none, []⟩

theorem run_reads_standard_input :
    (deviceRequest.run copyingHost (.start deviceFiles [])).1 =
        .ok ⟨.coverageLog, "coverage-log /dev/stdin", 0, [], []⟩ ∧
      (deviceRequest.run copyingHost (.start deviceFiles (utf8 "r1\n"))).1 =
        .error (.kast (.ruleNotFound "r1")) ∧
      (deviceRequest.run copyingHost (.start deviceFiles (utf8 "r1\n"))).2.stdin = [] := by
  decide +kernel

end Request

end KDispatch
