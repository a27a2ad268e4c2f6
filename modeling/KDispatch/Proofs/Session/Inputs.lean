import KDispatch.Proofs.FileSystem.Fresh
import KDispatch.Proofs.Session.Frame

/-!
What a request reads. A file that is none of those that the request writes to has the same contents when it is
read as when the request came, and afterwards too unless a tool has changed it. A file that the output names as
well has been emptied before anything is read from it.
-/

namespace KDispatch

namespace Request

variable {host : Host} {request : Request} {s : Session} {path : String}

/-- Whether the contents at a path stay as they are: when the output has been opened, where a coverage file or
the documents of the graphs are read, where a tool starts, and at the end. What a tool changes is left aside, so
after a tool the contents are those that it has left. -/
structure KeepsContents (host : Host) (request : Request) (s : Session) (path : String) : Prop where
  opened : ∀ sink opened, s.openSink request.output = .ok (sink, opened) →
    opened.files.contents? path = s.files.contents? path
  coverage : ∀ coverage sink opened, request.openInputs s.files = .ok (some coverage) →
    coverage.path = path → s.openSink request.output = .ok (sink, opened) →
    (opened.readAt coverage.location).1 = (s.readAt coverage.location).1
  graphs : ∀ directory ∈ request.definition, request.command = .graphImports → ∀ sink opened records,
    s.openSink request.output = .ok (sink, opened) → ∀ stages, stages <+: graphStages →
    (Session.writeGraphs directory stages { opened with records }).2.files.contents? path =
      s.files.contents? path
  started : ∀ tool sink input ready process, request.Starts host s tool sink input ready process →
    ready.files.contents? path = s.files.contents? path
  ended : (request.run host s).2.files.contents? path = s.files.contents? path ∨
    ∃ tool sink input ready process, request.Starts host s tool sink input ready process ∧
      (process.files.NamesAgree → (∀ location, process.files.locate path = .ok location →
          ¬ WritesAfter sink input process location) →
        (request.run host s).2.files.contents? path = process.files.contents? path)

theorem keepsContents (hnames : s.files.NamesAgree) (hpath : ∀ location,
    s.files.locate path = .ok location → ¬ request.Writes host s.files location) :
    request.KeepsContents host s path where
  opened sink opened hopen :=
    ((keptBeside_opened host hopen).1.files hnames.namesReplaceable).contents?_eq hpath
  coverage coverage sink opened hinputs hcoverage hopen := by
    -- the coverage file was located before the output was opened
    have hlocate := (locate_of_openInputs hinputs).2
    rw [hcoverage] at hlocate
    have hsame := (keptBeside_opened host hopen).1.files hnames.namesReplaceable
    have hstdin : opened.stdin = s.stdin := by
      rw [(Session.openSink_cases hnames.namesReplaceable hopen).1]
    exact Session.readAt_congr (hsame.elsewhere _ (hpath _ hlocate)) hstdin
  graphs directory hdirectory hcommand sink opened records hopen stages hstages := by
    have hopened := (keptBeside_opened host hopen).1.of_eq (t := { opened with records }) rfl rfl
    have hgraphs := hopened.writeGraphs fun stage hstage target htarget name =>
      Writes.graph hcommand hdirectory (hstages.subset hstage) htarget
    exact (hgraphs.files hnames.namesReplaceable).contents?_eq hpath
  started tool sink input ready process hstarts :=
    (hstarts.keptBeside.files hnames.namesReplaceable).contents?_eq hpath
  ended := by
    have hcases := run_cases host request s
    generalize request.run host s = ended at hcases ⊢
    cases hcases with
    | refused _ => exact .inl rfl
    | unstarted _ hfiles => exact .inl ((hfiles hnames.namesReplaceable).contents?_eq hpath)
    | started hstarts _ hfiles =>
      exact .inr ⟨_, _, _, _, _, hstarts, fun hagree hafter => (hfiles hagree).contents?_eq hafter⟩

/-- A file that the output is another name of, or the same, is empty once the output has been opened. -/
theorem contents?_openSink {output : String} {target location : Location} {content : Bytes} {sink : Sink}
    {opened : Session} (hnames : s.files.NamesAgree)
    (htarget : s.files.locateToCreate output = .ok target) (hlocation : s.files.locate path = .ok location)
    (hname : location ∈ s.files.namesOf target) (hcontent : s.files.content? location = some content)
    (hopen : s.openSink (.file output) = .ok (sink, opened)) :
    opened.files.contents? path = some [] := by
  obtain ⟨found, files, hfound, hcreated, rfl, rfl⟩ := Session.openSink_file_eq_ok_iff.1 hopen
  obtain rfl := Except.ok.inj (htarget.symm.trans hfound)
  obtain ⟨executable, hfile⟩ := FileSystem.content?_eq_some_iff.1 hcontent
  have hsame := FileSystem.sameBeside_createAt hnames.namesReplaceable hcreated
  -- all names of the output's file held this content, and all of them have been replaced
  have hempty : files.node? location = some (.file [] executable) := by
    rw [FileSystem.createAt, (hnames.node?_of_mem_namesOf hname).symm.trans hfile] at hcreated
    rw [← Except.ok.inj hcreated, FileSystem.node?_stamp,
      FileSystem.node?_replace_of_mem hname (FileSystem.ne_nil_of_file hfile)]
  exact FileSystem.contents?_of_locate (hsame.locate_ok hlocation)
    (FileSystem.content?_eq_some_iff.2 ⟨executable, hempty⟩)

/-- A request reads what was there when it came. Only a file that it writes to itself has other contents, and if
it is the output, it is empty before anything is read. -/
theorem run_reads_contents_of_start (hnames : s.files.NamesAgree) (host : Host) (request : Request) :
    (∀ path, (∀ location, s.files.locate path = .ok location → ¬ request.Writes host s.files location) →
      request.KeepsContents host s path) ∧
    ∀ output path target location content sink opened, request.output = .file output →
      s.files.locateToCreate output = .ok target → s.files.locate path = .ok location →
      location ∈ s.files.namesOf target → s.files.content? location = some content →
      s.openSink request.output = .ok (sink, opened) → opened.files.contents? path = some [] := by
  refine ⟨fun path hpath => keepsContents hnames hpath, ?_⟩
  intro output path target location content sink opened houtput htarget hlocation hname hcontent hopen
  rw [houtput] at hopen
  exact contents?_openSink hnames htarget hlocation hname hcontent hopen

/-! A tool that reads one file and writes another. -/

def toolFiles : FileSystem :=
  .ofNodes [] [(["in"], .file (utf8 "1 + 2") false), (["out"], .file (utf8 "previous result\n") false)]

def toolRequest (output : String) : Request :=
  ⟨.parse, none, .file "in", .file output, .pretty, .kast, none, none, []⟩

/-- A tool that writes what it reads to its standard output. -/
def copyingHost : Host where
  run call openFile fs :=
    match (call.arguments.head?.bind fs.contents?) with
    | some bytes => .ok ⟨.exited 0, bytes, [], fs, openFile⟩
    | none => .error .notFound
  temporaryDirectory := "/tmp"
  temporaryName := "input"

theorem run_reads_contents_of_start_tool :
    toolFiles.NamesAgree ∧ (toolRequest "out").KeepsContents copyingHost (.start toolFiles []) "in" ∧
      ((toolRequest "out").run copyingHost (.start toolFiles [])).2.files.contents? "in" =
        some (utf8 "1 + 2") ∧
      ((toolRequest "out").run copyingHost (.start toolFiles [])).2.files.contents? "out" =
        some (utf8 "1 + 2") := by
  have hnames : toolFiles.NamesAgree := FileSystem.namesAgree_ofNodes _ _
  refine ⟨hnames, (run_reads_contents_of_start (s := .start toolFiles []) hnames copyingHost
    (toolRequest "out")).1 "in" ?_, rfl, rfl⟩
  intro location hlocate hwrites
  obtain rfl : ["in"] = location := Except.ok.inj hlocate
  cases hwrites with
  | output houtput htarget hname =>
    cases houtput
    cases htarget
    rcases hname with heq | ⟨names, hshared, -⟩
    · exact absurd heq (by decide)
    · exact absurd hshared List.not_mem_nil
  | graph hcommand => contradiction
  | temporary _ hinput => contradiction

/-- The same request with its input as its output. -/
theorem run_reads_emptied_input :
    toolFiles.contents? "in" = some (utf8 "1 + 2") ∧
      ((toolRequest "in").run copyingHost (.start toolFiles [])).2.calls =
        [(toolRequest "in").call .kast "in"] ∧
      ((toolRequest "in").run copyingHost (.start toolFiles [])).2.files.contents? "in" = some [] :=
  ⟨rfl, rfl, rfl⟩

end Request

end KDispatch
